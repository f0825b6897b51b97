import Mathlib
import NullMiddleware.Proofs.Switchboard.Quiet

/-!
What the granularity of a latch changes.

Two new latches, one of each granularity, go through the same operations. They differ in nothing
but their calls: where the coalesced latch makes one call that carries `n` triggers, the other
makes `n` calls that carry one.
-/

namespace NullMiddleware

namespace Latch

variable {L : Type}

/-- One call for each trigger that the call carries. -/
def splitCall (call : L × Nat) : List (L × Nat) := List.replicate call.2 (call.1, 1)

lemma replay_perEvent (a : L) (backlog : Nat) :
    replay .perEvent a backlog = (replay .coalesced a backlog).flatMap splitCall := by
  by_cases h : backlog = 0 <;> simp [replay, splitCall, h]

lemma replay_pos (mode : Granularity) (a : L) (backlog : Nat) :
    ∀ call ∈ replay mode a backlog, 1 ≤ call.2 := by
  intro call hmem
  cases mode with
  | coalesced =>
    by_cases h : backlog = 0
    · simp [replay, h] at hmem
    · have hcall : call = (a, backlog) := by simpa [replay, h] using hmem
      rw [hcall]
      exact Nat.one_le_iff_ne_zero.mpr h
  | perEvent =>
    have hcall : call = (a, 1) := List.eq_of_mem_replicate hmem
    subst hcall
    exact Nat.le_refl 1

lemma calls_pos (l : Latch L) (op : Operation L) : ∀ call ∈ (op.step l).calls, 1 ≤ call.2 := by
  intro call hmem
  cases op with
  | trigger =>
    rcases hl : l.listener with _ | a
    · simp [Operation.step, trigger, hl] at hmem
    · have hcall : call = (a, 1) := by simpa [Operation.step, trigger, hl] using hmem
      subst hcall
      exact Nat.le_refl 1
  | poll => simp [Operation.step] at hmem
  | register listener r =>
    rcases listener with _ | a
    · simp [Operation.step, register, clear] at hmem
    · cases r with
      | true => exact replay_pos _ _ _ call hmem
      | false => simp [Operation.step, register, install] at hmem

/-- Two latches that differ in nothing but their granularity. -/
def Twins (coalesced perEvent : Latch L) : Prop :=
  coalesced.mode = .coalesced ∧ perEvent = { coalesced with mode := .perEvent }

lemma Twins.perform {c p : Latch L} (h : Twins c p) (op : Operation L) :
    (p.perform op).1 = (c.perform op).1.expand splitCall ∧
      Twins (c.perform op).2 (p.perform op).2 := by
  obtain ⟨hmode, rfl⟩ := h
  cases op with
  | trigger =>
    rcases hl : c.listener with _ | a
    · simp [Latch.perform, Operation.step, Operation.answer, trigger, hl, Report.expand, Twins,
        hmode, attended]
    · simp [Latch.perform, Operation.step, Operation.answer, trigger, hl, Report.expand, Twins,
        hmode, attended, splitCall]
  | poll => exact ⟨rfl, hmode, rfl⟩
  | register listener r =>
    rcases listener with _ | a
    · exact ⟨rfl, hmode, rfl⟩
    · refine ⟨?_, hmode, rfl⟩
      cases r with
      | true =>
        simp [Latch.perform, Operation.step, Operation.answer, register, install, Report.expand,
          hmode, attended, replay_perEvent]
      | false => rfl

/-- The latch of single calls is seen to do what the other one does, with its calls split. -/
lemma outcomes_perEvent (ops : List (Operation L)) :
    Run.outcomes perform (new .perEvent) ops =
      (Run.outcomes perform (new .coalesced) ops).map (Report.expand splitCall) :=
  have htwins : Twins (new .coalesced : Latch L) (new .perEvent) := ⟨rfl, rfl⟩
  (Run.simulates (fun _ _ op _ h => Twins.perform h op) htwins).1

end Latch

namespace Call

/-- One call for each trigger that the call carries. -/
def split (c : Call) : List Call := List.replicate c.count { c with count := 1 }

/-- The triggers that the calls of this label and token carry together. -/
def carried (label : String) (token : Option UInt64) (calls : List Call) : Nat :=
  ((calls.filter fun c => c.label = label ∧ c.token = token).map Call.count).sum

lemma carried_append (label : String) (token : Option UInt64) (u v : List Call) :
    carried label token (u ++ v) = carried label token u + carried label token v := by
  simp [carried]

lemma carried_split (label : String) (token : Option UInt64) (c : Call) :
    carried label token c.split = carried label token [c] := by
  unfold carried split
  by_cases h : c.label = label ∧ c.token = token <;> simp [h]

/-- Splitting calls takes nothing from anybody. -/
lemma carried_flatMap_split (label : String) (token : Option UInt64) (calls : List Call) :
    carried label token (calls.flatMap split) = carried label token calls := by
  induction calls with
  | nil => rfl
  | cons c rest ih =>
    rw [List.flatMap_cons, carried_append]
    calc carried label token c.split + carried label token (rest.flatMap split)
        = carried label token [c] + carried label token rest := by rw [carried_split, ih]
      _ = carried label token (c :: rest) := (carried_append label token [c] rest).symm

end Call

namespace Switchboard

open Latch (Operation Report)

lemma heard_splitCall (labels : Nat → Option String) (call : Listener × Nat) :
    (Latch.splitCall call).flatMap (heard labels) = (heard labels call).flatMap Call.split := by
  rcases hl : labels call.1.handler with _ | label
  · simp [heard, hl, Latch.splitCall]
  · simp [heard, hl, Latch.splitCall, Call.split, List.flatMap_replicate]

lemma expand_split (labels : Nat → Option String) (r : Report (Listener × Nat)) :
    (r.expand Latch.splitCall).expand (heard labels) =
      (r.expand (heard labels)).expand Call.split := by
  simp [Report.expand, List.flatMap_assoc, heard_splitCall]

lemma heard_pos (labels : Nat → Option String) (call : Listener × Nat) (h : 1 ≤ call.2) :
    ∀ c ∈ heard labels call, 1 ≤ c.count := by
  intro c hmem
  rcases hl : labels call.1.handler with _ | label
  · simp [heard, hl] at hmem
  · have hc : c = ⟨label, call.1.token, call.2⟩ := by simpa [heard, hl] using hmem
    rw [hc]
    exact h

/-- **Granularity changes the calls and nothing else.** Two new latches on boards whose handlers
only record their calls, one of each granularity, are seen to do the same, operation by operation,
up to the splitting of calls; no call is empty, and everybody receives as much from both. -/
theorem perEvent_splits_calls (b : Switchboard) (quiet : b.Quiet)
    (ops : List (Operation Listener)) :
    let coalesced := Run.outcomes (operate b.latches.size) (b.addLatch .coalesced).2 ops
    let perEvent := Run.outcomes (operate b.latches.size) (b.addLatch .perEvent).2 ops
    perEvent = coalesced.map (fun o => (o.1, o.2.expand Call.split)) ∧
      (∀ o ∈ coalesced, o.1 = .returned ∧ ∀ c ∈ o.2.calls, 1 ≤ c.count) ∧
      ∀ label token, Call.carried label token (perEvent.flatMap (·.2.calls)) =
        Call.carried label token (coalesced.flatMap (·.2.calls)) := by
  intro coalesced perEvent
  have hsplit : perEvent = coalesced.map (fun o => (o.1, o.2.expand Call.split)) := by
    simp only [perEvent, coalesced, outcomes_addLatch quiet, Latch.outcomes_perEvent, List.map_map]
    refine List.map_congr_left fun r _ => ?_
    simp [expand_split]
  have hpos : ∀ r ∈ Run.outcomes Latch.perform (Latch.new .coalesced) ops,
      ∀ call ∈ r.calls, 1 ≤ call.2 :=
    (Run.keeps (P := fun _ => True) (fun l op _ _ => ⟨Latch.calls_pos l op, trivial⟩) trivial).1
  refine ⟨hsplit, ?_, ?_⟩
  · intro o ho
    simp only [coalesced, outcomes_addLatch quiet, List.mem_map] at ho
    obtain ⟨r, hr, rfl⟩ := ho
    refine ⟨rfl, ?_⟩
    intro c hc
    obtain ⟨call, hcall, hheard⟩ := List.mem_flatMap.mp hc
    exact heard_pos _ call (hpos r hr call hcall) c hheard
  · intro label token
    have hflat : perEvent.flatMap (·.2.calls) =
        (coalesced.flatMap (·.2.calls)).flatMap Call.split := by
      rw [hsplit, List.flatMap_map, List.flatMap_assoc]
      rfl
    calc Call.carried label token (perEvent.flatMap (·.2.calls))
        = Call.carried label token ((coalesced.flatMap (·.2.calls)).flatMap Call.split) := by
          rw [hflat]
      _ = Call.carried label token (coalesced.flatMap (·.2.calls)) :=
          Call.carried_flatMap_split label token _

/-- Two triggers wait, a third is live: two calls in the one case, three in the other. -/
theorem perEvent_splits_a_backlog :
    let b : Switchboard := { handlers := #[{ label := "h" }] }
    let ops : List (Operation Listener) :=
      [.trigger, .trigger, .register (some { handler := 0, token := some 7 }) true, .trigger]
    let coalesced := Run.outcomes (operate 0) (b.addLatch .coalesced).2 ops
    let perEvent := Run.outcomes (operate 0) (b.addLatch .perEvent).2 ops
    b.Quiet ∧ coalesced.map (·.2.calls) = [[], [], [⟨"h", some 7, 2⟩], [⟨"h", some 7, 1⟩]] ∧
      perEvent.map (·.2.calls) =
        [[], [], [⟨"h", some 7, 1⟩, ⟨"h", some 7, 1⟩], [⟨"h", some 7, 1⟩]] := by
  intro b ops coalesced perEvent
  have quiet : b.Quiet := by
    intro k h hk
    obtain ⟨hlt, rfl⟩ := Array.getElem?_eq_some_iff.mp hk
    have hzero : k = 0 := Nat.lt_one_iff.mp hlt
    subst hzero
    exact ⟨rfl, rfl⟩
  have hcalls : coalesced.map (·.2.calls) =
      [[], [], [⟨"h", some 7, 2⟩], [⟨"h", some 7, 1⟩]] := by
    decide +kernel
  refine ⟨quiet, hcalls, ?_⟩
  have hsplit : perEvent = _ := (perEvent_splits_calls b quiet ops).1
  have hmap : perEvent.map (·.2.calls) =
      (coalesced.map (·.2.calls)).map (List.flatMap Call.split) := by
    rw [hsplit, List.map_map, List.map_map]
    rfl
  rw [hmap, hcalls]
  rfl

end Switchboard
end NullMiddleware
