import NullMiddleware.Proofs.Switchboard.Quiet

/-!
Latches on a switchboard, with their listeners known by label.

A board numbers its handlers as they come, and the numbers say nothing to anybody else. What is
seen of a latch depends on the labels alone: a latch whose listeners are labels stands for it.
-/

namespace NullMiddleware

namespace Latch

variable {L M : Type}

/-- The latch with its listener renamed. -/
def map (f : L → M) (l : Latch L) : Latch M where
  mode := l.mode
  pending := l.pending
  unread := l.unread
  listener := l.listener.map f

def Operation.map (f : L → M) : Operation L → Operation M
  | trigger => trigger
  | poll => poll
  | register listener replayPrevious => register (listener.map f) replayPrevious

lemma replay_map (f : L → M) (mode : Granularity) (a : L) (backlog : Nat) :
    replay mode (f a) backlog = (replay mode a backlog).map fun call => (f call.1, call.2) := by
  cases mode with
  | coalesced => by_cases h : backlog = 0 <;> simp [replay, h]
  | perEvent => simp [replay]

/-- A latch makes nothing of who its listener is. -/
lemma perform_map (f : L → M) (l : Latch L) (op : Operation L) :
    (l.map f).perform (op.map f) =
      ((l.perform op).1.expand (fun call => [(f call.1, call.2)]), (l.perform op).2.map f) := by
  cases op with
  | trigger =>
    rcases hl : l.listener with _ | a <;>
      simp [Latch.perform, Operation.map, Operation.step, Operation.answer, trigger, map, hl,
        Report.expand, attended]
  | poll =>
    simp [Latch.perform, Operation.map, Operation.step, Operation.answer, Latch.poll, map,
      Report.expand, attended]
  | register listener replayPrevious =>
    rcases listener with _ | a
    · rcases hl : l.listener with _ | a <;>
        simp [Latch.perform, Operation.map, Operation.step, Operation.answer, register, clear,
          map, hl, Report.expand, attended]
    · cases replayPrevious with
      | false => rfl
      | true =>
        simp [Latch.perform, Operation.map, Operation.step, Operation.answer, register, install,
          map, Report.expand, attended, replay_map, List.map_eq_flatMap]

end Latch

namespace Switchboard

open Latch (Operation Report)

variable {b : Switchboard}

/-- How a listener is known: by the label of its handler, and its token. -/
def voice (b : Switchboard) (listener : Listener) : Option String × Option UInt64 :=
  (b.label? listener.handler, listener.token)

/-- How the listener of this label is known, if it has no token. -/
def named (label : String) : Option String × Option UInt64 := (some label, none)

/-- What is recorded of a call for the listener of a label. -/
def told (call : String × Nat) : List Call := [⟨call.1, none, call.2⟩]

/-- What is recorded of a call for a listener that is known in some way. -/
def spoken (call : (Option String × Option UInt64) × Nat) : List Call :=
  (call.1.1.map fun label => ⟨label, call.1.2, call.2⟩).toList

lemma expand_heard (r : Report (Listener × Nat)) (r' : Report (String × Nat))
    (h : r.expand (fun call => [(b.voice call.1, call.2)]) =
      r'.expand fun call => [(named call.1, call.2)]) :
    r.expand (heard b.label?) = r'.expand told := by
  have hspoken := congrArg (Report.expand spoken) h
  simp only [Report.expand, List.flatMap_assoc, List.flatMap_singleton] at hspoken
  exact hspoken

/-- Latch `n` of the board does what `l` does by itself. -/
structure Plays (b : Switchboard) (n : Nat) (l : Latch String) : Prop where
  present : n < b.latches.size
  latch : (b.latch n).map b.voice = l.map named

lemma Records.voice {b' : Switchboard} (h : Records b.label? b') : b'.voice = b.voice := by
  funext listener
  rw [Switchboard.voice, Switchboard.voice, h.labels]

variable {n : Nat} {l : Latch String}

lemma Plays.operate (h : b.Plays n l) (quiet : b.Quiet) {op : Operation Listener}
    {op' : Operation String} (hop : op.map b.voice = op'.map named) :
    (operate n b op).1 = (.returned, (l.perform op').1.expand told) ∧
      (operate n b op).2.Plays n (l.perform op').2 := by
  have hrecords : Records b.label? b := ⟨quiet, fun _ => rfl⟩
  obtain ⟨hseen, hlatches, hrec⟩ := hrecords.operate h.present op
  have hperform := Latch.perform_map b.voice (b.latch n) op
  rw [h.latch, hop, Latch.perform_map, Prod.mk.injEq] at hperform
  obtain ⟨hreport, hafter⟩ := hperform
  refine ⟨?_, ?_, ?_⟩
  · rw [hseen, expand_heard _ _ hreport.symm]
  · rw [hlatches, size_setLatch]
    exact h.present
  · rw [hrec.voice, latch_of_latches h.present hlatches, hafter]

lemma Plays.operate_of_ne (h : b.Plays n l) (quiet : b.Quiet) {m : Nat} (hm : m < b.latches.size)
    (hne : n ≠ m) (op : Operation Listener) : (Switchboard.operate m b op).2.Plays n l := by
  have hrecords : Records b.label? b := ⟨quiet, fun _ => rfl⟩
  obtain ⟨-, hlatches, hrec⟩ := hrecords.operate hm op
  refine ⟨?_, ?_⟩
  · rw [hlatches, size_setLatch]
    exact h.present
  · rw [hrec.voice, latch_congr hlatches, latch_setLatch_of_ne hne, h.latch]

lemma Quiet.operate (quiet : b.Quiet) (hn : n < b.latches.size) (op : Operation Listener) :
    (Switchboard.operate n b op).2.Quiet := by
  have hrecords : Records b.label? b := ⟨quiet, fun _ => rfl⟩
  exact (hrecords.operate hn op).2.2.quiet

/-! ### New handlers and new latches -/

lemma Quiet.addHandler (quiet : b.Quiet) (label : String) :
    (b.addHandler { label }).2.Quiet := by
  intro k h hk
  rw [Switchboard.addHandler, Array.getElem?_push] at hk
  split at hk
  · cases hk
    exact ⟨rfl, rfl⟩
  · exact quiet k h hk

lemma voice_addHandler (label : String) :
    (b.addHandler { label }).2.voice { handler := (b.addHandler { label }).1 } = named label := by
  simp [voice, addHandler, label?, named]

lemma Plays.label (h : b.Plays n l) {s : Listener} (hs : (b.latch n).listener = some s) :
    ∃ label, b.label? s.handler = some label := by
  have hlistener : (b.latch n).listener.map b.voice = l.listener.map named :=
    congrArg Latch.listener h.latch
  rw [hs, Option.map_some, eq_comm, Option.map_eq_some_iff] at hlistener
  obtain ⟨label, -, hlabel⟩ := hlistener
  exact ⟨label, (congrArg Prod.fst hlabel).symm⟩

lemma label_addHandler {k : Nat} {label : String} (h : b.label? k = some label)
    (handler : Handler) : (b.addHandler handler).2.label? k = b.label? k := by
  have hlt : k < b.handlers.size := by
    by_contra hge
    simp [label?, Array.getElem?_eq_none (Nat.le_of_not_lt hge)] at h
  rw [label?, label?, addHandler, Array.getElem?_push_lt hlt, Array.getElem?_eq_getElem hlt]

/-- A new handler takes no number that is in use. -/
lemma Plays.addHandler (h : b.Plays n l) (handler : Handler) :
    (b.addHandler handler).2.Plays n l := by
  refine ⟨h.present, ?_⟩
  have hlatch : (b.addHandler handler).2.latch n = b.latch n := rfl
  rw [hlatch, ← h.latch]
  rcases hs : (b.latch n).listener with _ | s
  · simp [Latch.map, hs]
  · obtain ⟨label, hlabel⟩ := h.label hs
    have hvoice : (b.addHandler handler).2.voice s = b.voice s := by
      rw [voice, voice, label_addHandler hlabel]
    simp [Latch.map, hs, hvoice]

lemma Plays.addLatch (h : b.Plays n l) (mode : Granularity) : (b.addLatch mode).2.Plays n l := by
  have hlt := h.present
  have hlatch : (b.addLatch mode).2.latch n = b.latch n := by
    rw [Switchboard.latch, Switchboard.latch, Switchboard.addLatch, Array.getElem?_push_lt hlt,
      Array.getElem?_eq_getElem hlt]
  refine ⟨?_, ?_⟩
  · simp only [Switchboard.addLatch, Array.size_push]
    omega
  · rw [hlatch]
    exact h.latch

lemma plays_addLatch (mode : Granularity) :
    (b.addLatch mode).2.Plays b.latches.size (.new mode) := by
  refine ⟨by simp [addLatch], ?_⟩
  simp [addLatch, latch, Latch.map, Latch.new]

end Switchboard
end NullMiddleware
