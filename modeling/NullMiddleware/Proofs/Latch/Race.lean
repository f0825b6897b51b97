import Mathlib
import NullMiddleware.Proofs.Latch.Invariant
import NullMiddleware.Proofs.Schedule

/-!
Producers that race a consumer.

Producers trigger a latch while a consumer comes, goes and comes back, each time with a replay of
what waits. Nobody polls. Which triggers are replayed and which are live is up to the schedule; how
many are handed over is not.
-/

namespace NullMiddleware.Latch

variable {L : Type}

/-! ### What one operation hands over -/

/-- The triggers that calls carry, together. -/
def carried (calls : List (L × Nat)) : Nat := (calls.map Prod.snd).sum

@[simp] lemma carried_nil : carried ([] : List (L × Nat)) = 0 := rfl
@[simp] lemma carried_cons (call : L × Nat) (rest : List (L × Nat)) :
    carried (call :: rest) = call.2 + carried rest := rfl
@[simp] lemma carried_append (u v : List (L × Nat)) :
    carried (u ++ v) = carried u + carried v := by simp [carried]

lemma carried_replay (mode : Granularity) (a : L) (backlog : Nat) :
    carried (replay mode a backlog) = backlog := by
  cases mode with
  | coalesced => by_cases h : backlog = 0 <;> simp [replay, h]
  | perEvent => simp [replay, carried]

lemma pending_new (mode : Granularity) : (new mode : Latch L).pending.toNat = 0 := rfl

/-- An operation that discards no trigger. -/
def Operation.Sparing : Operation L → Prop
  | trigger => True
  | poll => False
  | register _ replayPrevious => replayPrevious

/-- What was waiting and what comes in is handed over or waits on. -/
lemma step_conserves (l : Latch L) {op : Operation L} (sparing : op.Sparing)
    (room : l.pending.toNat + triggers [op] < 2 ^ 64) :
    carried (op.step l).calls + (op.step l).after.pending.toNat =
      l.pending.toNat + triggers [op] := by
  cases op with
  | trigger =>
    rcases hl : l.listener with _ | a
    · have hcount : (l.pending + 1).toNat = l.pending.toNat + 1 := by
        rw [triggers_trigger, triggers_nil] at room
        rw [UInt64.toNat_add]
        simp only [UInt64.reduceToNat]
        omega
      simp [Operation.step, trigger, hl, hcount]
    · simp [Operation.step, trigger, hl, Nat.add_comm]
  | poll => exact sparing.elim
  | register listener replayPrevious =>
    obtain rfl : replayPrevious = true := sparing
    rcases listener with _ | a
    · simp [Operation.step, register, clear]
    · simp [Operation.step, register, install, carried_replay]

/-- Whom the operation leaves as listener, if it changes this. -/
def Operation.listener? : Operation L → Option (Option L)
  | register listener _ => some listener
  | _ => none

lemma step_listener (l : Latch L) (op : Operation L) :
    (op.step l).after.listener = op.listener?.getD l.listener := by
  cases op with
  | trigger => rcases hl : l.listener with _ | a <;> simp [Operation.step, trigger, hl,
      Operation.listener?]
  | poll => rfl
  | register listener replayPrevious => rcases listener with _ | a <;> rfl

lemma step_calls_single {l : Latch L} (hmode : l.mode = .perEvent) (op : Operation L) :
    carried (op.step l).calls = (op.step l).calls.length := by
  cases op with
  | trigger => rcases hl : l.listener with _ | a <;> simp [Operation.step, trigger, hl]
  | poll => rfl
  | register listener replayPrevious =>
    rcases listener with _ | a
    · rfl
    · cases replayPrevious <;> simp [Operation.step, register, install, hmode, replay, carried]

/-! ### What a run hands over -/

/-- All calls of a run, in order. -/
def runCalls (l : Latch L) (ops : List (Operation L)) : List (L × Nat) :=
  (Run.outcomes perform l ops).flatMap Report.calls

@[simp] lemma runCalls_nil (l : Latch L) : runCalls l [] = [] := rfl
@[simp] lemma runCalls_cons (l : Latch L) (op : Operation L) (later : List (Operation L)) :
    runCalls l (op :: later) = (op.step l).calls ++ runCalls (op.step l).after later := rfl

lemma run_conserves (l : Latch L) {ops : List (Operation L)} (sparing : ∀ op ∈ ops, op.Sparing)
    (room : l.pending.toNat + triggers ops < 2 ^ 64) :
    carried (runCalls l ops) + (Run.final perform l ops).pending.toNat =
      l.pending.toNat + triggers ops := by
  induction ops generalizing l with
  | nil => simp
  | cons op later ih =>
    have hsplit : triggers (op :: later) = triggers [op] + triggers later := by
      cases op <;> simp [Nat.add_comm]
    have hstep := step_conserves l (sparing op List.mem_cons_self) (by omega)
    have hlater := ih (op.step l).after (fun o ho => sparing o (List.mem_cons_of_mem _ ho))
      (by omega)
    rw [runCalls_cons, carried_append, Run.final_cons, perform_snd]
    omega

lemma run_listener (l : Latch L) (ops : List (Operation L)) :
    (Run.final perform l ops).listener =
      (ops.filterMap Operation.listener?).getLast?.getD l.listener := by
  induction ops generalizing l with
  | nil => rfl
  | cons op later ih =>
    rw [Run.final_cons, perform_snd, ih, step_listener]
    rcases h : op.listener? with _ | listener
    · rw [List.filterMap_cons_none h, Option.getD_none]
    · rw [List.filterMap_cons_some h, List.getLast?_cons, Option.getD_some, Option.getD_some]

lemma run_calls_single {l : Latch L} (hmode : l.mode = .perEvent) (ops : List (Operation L)) :
    carried (runCalls l ops) = (runCalls l ops).length := by
  induction ops generalizing l with
  | nil => rfl
  | cons op later ih =>
    rw [runCalls_cons, carried_append, List.length_append, step_calls_single hmode,
      ih ((step_mode l op).trans hmode)]

/-! ### The race -/

open Schedule (Interleaves)

/-- The programs of the threads: producer `p` triggers the latch `rounds p` times, and the consumer,
who is no producer, registers the listeners in turn or takes the present one away. -/
def race {P : Type} (rounds : P → Nat) (listeners : List (Option L)) :
    Option P → List (Operation L)
  | none => listeners.map (.register · true)
  | some p => List.replicate (rounds p) .trigger

variable {P : Type} [DecidableEq P] {rounds : P → Nat} {listeners : List (Option L)}
  {s : List (Option P × Operation L)}

lemma race_sparing (h : Interleaves (race rounds listeners) s) :
    ∀ op ∈ Schedule.calls s, op.Sparing := by
  intro op hop
  obtain ⟨⟨thread, op⟩, ha, rfl⟩ := List.mem_map.mp hop
  have hmem := h.mem ha
  cases thread with
  | none =>
    obtain ⟨listener, -, rfl⟩ := List.mem_map.mp hmem
    rfl
  | some p =>
    obtain rfl : op = .trigger := List.eq_of_mem_replicate hmem
    trivial

lemma race_triggers [Fintype P] (h : Interleaves (race rounds listeners) s) :
    triggers (Schedule.calls s) = ∑ p, rounds p := by
  have hconsumer : triggers (race rounds listeners none) = 0 := by
    refine List.countP_eq_zero.mpr ?_
    intro op hop
    obtain ⟨listener, -, rfl⟩ := List.mem_map.mp hop
    exact Bool.false_ne_true
  have hproducer : ∀ p, triggers (race rounds listeners (some p)) = rounds p := by
    intro p
    rw [race, triggers, List.countP_replicate]
    rfl
  calc triggers (Schedule.calls s)
      = ∑ thread, triggers (race rounds listeners thread) := h.countP _
    _ = ∑ p, rounds p := by
      rw [Fintype.sum_option, hconsumer, Nat.zero_add]
      exact Finset.sum_congr rfl fun p _ => hproducer p

lemma race_listeners (h : Interleaves (race rounds listeners) s) :
    (Schedule.calls s).filterMap Operation.listener? = listeners := by
  have honly : ∀ a ∈ s, a.1 ≠ none → a.2.listener? = none := by
    rintro ⟨thread, op⟩ ha hthread
    obtain ⟨p, rfl⟩ := Option.ne_none_iff_exists'.mp hthread
    obtain rfl : op = .trigger := List.eq_of_mem_replicate (h.mem ha)
    rfl
  rw [Schedule.filterMap_calls _ honly, h none, race, List.filterMap_map]
  exact List.filterMap_some

/-- **A race loses and doubles nothing.** In every schedule what is handed over and what waits at
the end are together the triggers of all producers. If the consumer ends as a listener, all of them
are handed over, whatever the schedule. With a call for each trigger there are as many calls. -/
theorem race_loses_nothing [Fintype P] (mode : Granularity) (rounds : P → Nat)
    (listeners : List (Option L)) (few : ∑ p, rounds p < 2 ^ 64)
    (s : List (Option P × Operation L)) (h : Interleaves (race rounds listeners) s) :
    let calls := runCalls (new mode) (Schedule.calls s)
    let l := Run.final perform (new mode) (Schedule.calls s)
    carried calls + l.pending.toNat = ∑ p, rounds p ∧
      ((∃ a, listeners.getLast? = some (some a)) →
        l.pending = 0 ∧ carried calls = ∑ p, rounds p) ∧
      (mode = .perEvent → calls.length = carried calls) := by
  intro calls l
  have htriggers := race_triggers h
  have hconserved : carried calls + l.pending.toNat = ∑ p, rounds p := by
    have hroom : (new mode : Latch L).pending.toNat + triggers (Schedule.calls s) < 2 ^ 64 := by
      rwa [htriggers, pending_new, Nat.zero_add]
    have hrun := run_conserves (new mode) (race_sparing h) hroom
    rwa [htriggers, pending_new, Nat.zero_add] at hrun
  refine ⟨hconserved, ?_, ?_⟩
  · rintro ⟨a, hlast⟩
    have hlistener : l.listener = some a := by
      rw [run_listener, race_listeners h, hlast]
      rfl
    have hsettled : l.Settled :=
      (Run.keeps (Q := fun _ => True) (fun _ op _ hl => ⟨trivial, hl.step op⟩)
        (settled_new mode)).2
    have hpending : l.pending = 0 := hsettled (by simp [attended, hlistener])
    refine ⟨hpending, ?_⟩
    simpa [hpending] using hconserved
  · rintro rfl
    exact (run_calls_single rfl _).symm

/-- Two producers race a consumer who leaves and comes back: one trigger is live, two are replayed
one by one, and the last is live again. -/
theorem race_of_two_producers :
    let rounds : Bool → Nat := fun p => if p then 3 else 1
    let listeners : List (Option Nat) := [some 5, none, some 6]
    let s : List (Option Bool × Operation Nat) :=
      [(none, .register (some 5) true), (some true, .trigger), (none, .register none true),
        (some false, .trigger), (some true, .trigger), (none, .register (some 6) true),
        (some true, .trigger)]
    (∑ p, rounds p < 2 ^ 64 ∧ Interleaves (race rounds listeners) s) ∧
      runCalls (new .perEvent) (Schedule.calls s) = [(5, 1), (6, 1), (6, 1), (6, 1)] ∧
      (Run.final perform (new .perEvent) (Schedule.calls s)).pending = 0 := by
  intro rounds listeners s
  have few : ∑ p, rounds p < 2 ^ 64 := by decide
  have hs : Interleaves (race rounds listeners) s := by
    rintro (_ | _ | _) <;> rfl
  obtain ⟨-, hends, -⟩ := race_loses_nothing .perEvent rounds listeners few s hs
  exact ⟨⟨few, hs⟩, rfl, (hends ⟨6, rfl⟩).1⟩

end NullMiddleware.Latch
