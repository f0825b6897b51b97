import NullMiddleware.Proofs.Switchboard.Unchained

/-!
Switchboards whose handlers record their calls and do nothing else.

On such a board a latch does exactly what it does by itself, and the record grows by its calls.
-/

namespace NullMiddleware.Switchboard

open Latch (Operation)

/-- A board that is quiet, and whose handlers have the given labels. -/
structure Records (labels : Nat → Option String) (b : Switchboard) : Prop where
  quiet : b.Quiet
  labels : ∀ k, b.label? k = labels k

variable {labels : Nat → Option String} {b : Switchboard}

/-- On a quiet board, operations on a latch return, what is seen of them is what is seen of the
latch by itself, and no other latch changes. -/
lemma Records.operate (h : Records labels b) {n : Nat} (hn : n < b.latches.size)
    (op : Operation Listener) :
    (operate n b op).1 = (.returned, ((b.latch n).perform op).1.expand (heard labels)) ∧
      (operate n b op).2.latches = (b.setLatch n ((b.latch n).perform op).2).latches ∧
      Records labels (operate n b op).2 := by
  obtain ⟨t, ht⟩ := h.quiet.unchained.operate hn op
  obtain rfl := ht.op_eq
  have hlabels : b.label? = labels := funext h.labels
  have hattempt := Latch.attempt_of_not_panics (ht.returns h.quiet)
  have hseen := ht.seen
  have hlatches := ht.latches
  rw [hattempt] at hseen hlatches
  rw [hlabels] at hseen
  have hreturns : (Switchboard.operate n b t.op).1.1 = .returned :=
    ht.returned.mpr (by rw [hattempt])
  refine ⟨Prod.ext hreturns hseen, hlatches, ht.handlers.quiet h.quiet, ?_⟩
  rw [ht.handlers.label]
  exact h.labels

lemma Records.record_operate (h : Records labels b) (n : Nat) (op : Operation Listener) :
    (Switchboard.operate n b op).2.record.toList =
      b.record.toList ++ (Switchboard.operate n b op).1.2.calls :=
  h.quiet.unchained.record_operate n op

/-- The latches are as many as before, and latch `n` is `l`. -/
structure Follows (labels : Nat → Option String) (n : Nat) (l : Latch Listener)
    (b : Switchboard) : Prop where
  present : n < b.latches.size
  latch : b.latch n = l
  records : Records labels b

lemma Follows.operate {n : Nat} {l : Latch Listener} (h : Follows labels n l b)
    (op : Operation Listener) :
    (operate n b op).1 = (.returned, (l.perform op).1.expand (heard labels)) ∧
      Follows labels n (l.perform op).2 (operate n b op).2 := by
  obtain ⟨hn, rfl, hrecords⟩ := h
  obtain ⟨hseen, hlatches, hrec⟩ := hrecords.operate hn op
  refine ⟨hseen, ?_, latch_of_latches hn hlatches, hrec⟩
  rw [hlatches, size_setLatch]
  exact hn

lemma follows_addLatch (quiet : b.Quiet) (mode : Granularity) :
    Follows b.label? b.latches.size (.new mode) (b.addLatch mode).2 := by
  refine ⟨by simp [addLatch], by simp [addLatch, Switchboard.latch], quiet, fun _ => rfl⟩

lemma outcomes_addLatch (quiet : b.Quiet) (mode : Granularity) (ops : List (Operation Listener)) :
    Run.outcomes (operate b.latches.size) (b.addLatch mode).2 ops =
      (Run.outcomes Latch.perform (.new mode) ops).map
        fun r => (.returned, r.expand (heard b.label?)) :=
  (Run.simulates (fun _ _ op _ h => h.operate op) (follows_addLatch quiet mode)).1

end NullMiddleware.Switchboard
