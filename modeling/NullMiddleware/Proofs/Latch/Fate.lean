import Mathlib
import NullMiddleware.Proofs.Latch.Run

/-!
What becomes of each trigger of a latch.

A latch keeps a count, a flag and a listener. It is compared with a queue that keeps the triggers
themselves, numbered from one in the order in which they occur, and that says of each operation
which triggers it decides. The queue in turn is compared with the history alone: a trigger that
finds a listener goes to it, any other one waits for the first poll or installation.
-/

namespace NullMiddleware.Latch

variable {L : Type}

inductive Fate (L : Type)
  /-- The listener that attends the latch receives it at once. -/
  | live (receiver : L)
  /-- A new listener receives it, before all that happen later. -/
  | replayed (receiver : L)
  /-- A poll discards it. -/
  | polled
  /-- A new listener comes and does not want it. -/
  | dropped
  | waiting

def Fate.receiver? : Fate L → Option L
  | live receiver | replayed receiver => some receiver
  | polled | dropped | waiting => none

/-! ### The fates by the history -/

/-- The fate of a trigger that waits, by what happens later. -/
def verdict : List (Operation L) → Fate L
  | [] => .waiting
  | .poll :: _ => .polled
  | .register (some receiver) true :: _ => .replayed receiver
  | .register (some _) false :: _ => .dropped
  | .trigger :: later | .register none _ :: later => verdict later

/-- The fates of all triggers of a run, in order, where `attendant` attends the latch at first. -/
def fates (attendant : Option L) : List (Operation L) → List (Fate L)
  | [] => []
  | .trigger :: later => (attendant.elim (verdict later) .live) :: fates attendant later
  | .poll :: later => fates attendant later
  | .register listener _ :: later => fates listener later

lemma length_fates (attendant : Option L) (ops : List (Operation L)) :
    (fates attendant ops).length = triggers ops := by
  induction ops generalizing attendant with
  | nil => rfl
  | cons op later ih => cases op <;> simp [fates, ih]

/-! ### The queue -/

structure Queue (L : Type) where
  /-- How many triggers have occurred. -/
  fired : Nat := 0
  /-- The numbers of those that wait, the oldest first. -/
  waiting : List Nat := []
  listener : Option L := none

namespace Queue

/-- The triggers that an operation decides, and the queue after it. -/
def step (q : Queue L) : Operation L → List (Nat × Fate L) × Queue L
  | .trigger =>
    match q.listener with
    | some a => ([(q.fired + 1, .live a)], { q with fired := q.fired + 1 })
    | none => ([], { q with fired := q.fired + 1, waiting := q.waiting ++ [q.fired + 1] })
  | .poll => (q.waiting.map (·, .polled), { q with waiting := [] })
  | .register none _ => ([], { q with listener := none })
  | .register (some a) true =>
    (q.waiting.map (·, .replayed a), { q with waiting := [], listener := some a })
  | .register (some a) false =>
    (q.waiting.map (·, .dropped), { q with waiting := [], listener := some a })

/-- All triggers of a run with their fates, in the order in which they are decided; those that
wait are last. -/
def ledger (q : Queue L) (ops : List (Operation L)) : List (Nat × Fate L) :=
  (Run.outcomes step q ops).flatten ++ (Run.final step q ops).waiting.map (·, .waiting)

/-- Nothing waits while a listener attends, and what waits has occurred. -/
structure Orderly (q : Queue L) : Prop where
  attended : q.listener.isSome → q.waiting = []
  fired : q.waiting.length ≤ q.fired

lemma orderly_new : Orderly ({} : Queue L) := ⟨fun _ => rfl, Nat.le_refl _⟩

lemma Orderly.step {q : Queue L} (h : q.Orderly) (op : Operation L) : (q.step op).2.Orderly := by
  obtain ⟨hatt, hfired⟩ := h
  cases op with
  | trigger =>
    rcases hl : q.listener with _ | a
    · exact ⟨by simp [Queue.step, hl], by simp [Queue.step, hl]; omega⟩
    · have hw : q.waiting = [] := hatt (by simp [hl])
      exact ⟨by simp [Queue.step, hl, hw], by simp [Queue.step, hl, hw]⟩
  | poll => exact ⟨fun _ => rfl, Nat.zero_le _⟩
  | register listener r =>
    rcases listener with _ | a
    · exact ⟨by simp [Queue.step], hfired⟩
    · cases r <;> exact ⟨fun _ => rfl, Nat.zero_le _⟩

lemma step_fired (q : Queue L) (op : Operation L) :
    (q.step op).2.fired = q.fired + triggers [op] := by
  cases op with
  | trigger => rcases hl : q.listener with _ | a <;> simp [step, hl]
  | poll => simp [step]
  | register listener r => rcases listener with _ | a <;> cases r <;> simp [step]

/-- Triggers are decided in the order in which they occur, each as the history says. -/
lemma ledger_eq {q : Queue L} (h : q.Orderly) (ops : List (Operation L)) :
    q.ledger ops = q.waiting.map (·, verdict ops) ++
      (List.range' (q.fired + 1) (triggers ops)).zip (fates q.listener ops) := by
  induction ops generalizing q with
  | nil => simp [ledger, verdict, fates]
  | cons op later ih =>
    have hcons : q.ledger (op :: later) = (q.step op).1 ++ (q.step op).2.ledger later := by
      simp [ledger]
    rw [hcons, ih (h.step op), step_fired]
    cases op with
    | trigger =>
      rcases hl : q.listener with _ | a
      · simp [step, hl, verdict, fates, List.range'_succ]
      · have hw : q.waiting = [] := h.attended (by simp [hl])
        simp [step, hl, hw, fates, List.range'_succ]
    | poll => simp [step, verdict, fates]
    | register listener r =>
      rcases listener with _ | a
      · simp [step, verdict, fates]
      · cases r <;> simp [step, verdict, fates]

end Queue

/-! ### The latch and the queue -/

/-- The calls by which decided triggers are handed over: one for each, or one for all. -/
def callsFor (mode : Granularity) (decided : List (Nat × Fate L)) : List (L × Nat) :=
  match mode, decided.filterMap fun d => d.2.receiver? with
  | .perEvent, receivers => receivers.map (·, 1)
  | .coalesced, [] => []
  | .coalesced, receiver :: rest => [(receiver, rest.length + 1)]

@[simp] lemma callsFor_nil (mode : Granularity) :
    callsFor mode ([] : List (Nat × Fate L)) = [] := by
  cases mode <;> rfl

@[simp] lemma callsFor_live (mode : Granularity) (k : Nat) (a : L) :
    callsFor mode [(k, .live a)] = [(a, 1)] := by
  cases mode <;> rfl

lemma callsFor_unreceived (mode : Granularity) (ks : List Nat) {fate : Fate L}
    (h : fate.receiver? = none) : callsFor mode (ks.map (·, fate)) = [] := by
  have hnone : (ks.map (·, fate)).filterMap (fun d => d.2.receiver?) = [] := by
    simp [List.filterMap_map, h]
  unfold callsFor
  rw [hnone]
  cases mode <;> rfl

lemma callsFor_replayed (mode : Granularity) (ks : List Nat) (a : L) :
    callsFor mode (ks.map (·, .replayed a)) = replay mode a ks.length := by
  have hall : (ks.map (·, Fate.replayed a)).filterMap (fun d => d.2.receiver?) =
      List.replicate ks.length a := by
    simp [List.filterMap_map, Fate.receiver?, List.map_const']
  unfold callsFor
  rw [hall]
  cases mode with
  | coalesced => cases ks <;> simp [replay, List.replicate_succ]
  | perEvent => simp [replay]

structure Refines (l : Latch L) (q : Queue L) : Prop where
  pending : l.pending.toNat = q.waiting.length
  listener : l.listener = q.listener

lemma refines_new (mode : Granularity) : Refines (new mode) ({} : Queue L) := ⟨rfl, rfl⟩

/-- An operation makes the calls that the queue decides on, as long as the count has room. -/
lemma Refines.step {l : Latch L} {q : Queue L} (h : Refines l q) (ho : q.Orderly)
    (op : Operation L) (room : q.fired + triggers [op] < 2 ^ 64) :
    (op.step l).calls = callsFor l.mode (q.step op).1 ∧
      Refines (op.step l).after (q.step op).2 := by
  obtain ⟨hpending, hlistener⟩ := h
  cases op with
  | trigger =>
    rcases hl : q.listener with _ | a
    · -- the word does not wrap: those that wait are among the triggers so far
      have hcount : (l.pending + 1).toNat = q.waiting.length + 1 := by
        have := ho.fired
        rw [triggers_trigger] at room
        rw [UInt64.toNat_add, hpending]
        simp only [UInt64.reduceToNat]
        omega
      rw [hl] at hlistener
      refine ⟨by simp [Operation.step, trigger, Queue.step, hl, hlistener], ?_, ?_⟩
      · simpa [Operation.step, trigger, Queue.step, hl, hlistener] using hcount
      · simp [Operation.step, trigger, Queue.step, hl, hlistener]
    · rw [hl] at hlistener
      refine ⟨by simp [Operation.step, trigger, Queue.step, hl, hlistener], ?_, ?_⟩
      · simpa [Operation.step, trigger, Queue.step, hl, hlistener] using hpending
      · simp [Operation.step, trigger, Queue.step, hl, hlistener]
  | poll => exact ⟨(callsFor_unreceived _ _ rfl).symm, rfl, hlistener⟩
  | register listener r =>
    rcases listener with _ | a
    · exact ⟨(callsFor_nil _).symm, hpending, rfl⟩
    · cases r with
      | true =>
        refine ⟨?_, rfl, rfl⟩
        rw [Queue.step, callsFor_replayed, ← hpending]
        rfl
      | false => exact ⟨(callsFor_unreceived _ _ rfl).symm, rfl, rfl⟩

lemma Refines.run {l : Latch L} {q : Queue L} (h : Refines l q) (ho : q.Orderly)
    (ops : List (Operation L)) (room : q.fired + triggers ops < 2 ^ 64) :
    (Run.outcomes perform l ops).map Report.calls =
        (Run.outcomes Queue.step q ops).map (callsFor l.mode) ∧
      Refines (Run.final perform l ops) (Run.final Queue.step q ops) := by
  induction ops generalizing l q with
  | nil => exact ⟨rfl, h⟩
  | cons op later ih =>
    have hsplit : triggers (op :: later) = triggers [op] + triggers later := by
      cases op <;> simp [Nat.add_comm]
    obtain ⟨hcalls, hnext⟩ := h.step ho op (by omega)
    -- each trigger moves from those to come to those that occurred
    have hroom : (q.step op).2.fired + triggers later < 2 ^ 64 := by
      rw [Queue.step_fired]; omega
    obtain ⟨hrest, hfinal⟩ := ih hnext (ho.step op) hroom
    rw [step_mode] at hrest
    refine ⟨?_, hfinal⟩
    simp only [Run.outcomes_cons, List.map_cons, perform_calls, perform_snd, hcalls]
    rw [hrest]

/-- **Exactly one fate.** A latch makes the calls of the queue of its triggers, operation by
operation, and its count is the number of those that wait. The queue holds each trigger once, and
with the fate that the history gives it. -/
theorem every_trigger_has_one_fate (mode : Granularity) (ops : List (Operation L))
    (few : triggers ops < 2 ^ 64) :
    let l := Run.final perform (new mode) ops
    let q := Run.final Queue.step {} ops
    l.pending.toNat = q.waiting.length ∧ l.listener = q.listener ∧
      (Run.outcomes perform (new mode) ops).map Report.calls =
        (Run.outcomes Queue.step {} ops).map (callsFor mode) ∧
      (Queue.ledger {} ops).map Prod.fst = List.range' 1 (triggers ops) ∧
      (Queue.ledger {} ops).map Prod.snd = fates none ops := by
  obtain ⟨hcalls, hpending, hlistener⟩ :=
    (refines_new (L := L) mode).run Queue.orderly_new ops (by simpa using few)
  have hledger := Queue.ledger_eq (L := L) Queue.orderly_new ops
  have hlength : (List.range' 1 (triggers ops)).length = (fates none ops).length := by
    rw [List.length_range', length_fates]
  refine ⟨hpending, hlistener, hcalls, ?_, ?_⟩
  · rw [hledger]
    simpa using List.map_fst_zip (Nat.le_of_eq hlength)
  · rw [hledger]
    simpa using List.map_snd_zip (Nat.le_of_eq hlength.symm)

/-- Two triggers are replayed, one is live, one is lost to a poll, and one waits. -/
theorem fates_of_a_mixed_run :
    let ops : List (Operation Nat) := [.trigger, .trigger, .register (some 5) true, .trigger,
      .register none true, .trigger, .poll, .trigger]
    triggers ops < 2 ^ 64 ∧
      (Queue.ledger {} ops).map Prod.snd = [.replayed 5, .replayed 5, .live 5, .polled, .waiting] ∧
      (Run.final perform (new .perEvent) ops).pending.toNat = 1 := by
  intro ops
  have few : triggers ops < 2 ^ 64 := by decide
  obtain ⟨hpending, -, -, -, hfates⟩ := every_trigger_has_one_fate .perEvent ops few
  exact ⟨few, hfates, hpending⟩

end NullMiddleware.Latch
