import NullMiddleware.Proofs.Latch.Run

/-!
What holds of a latch at all times.

Nothing waits while a listener attends, and whatever waits has raised the flag. The flag may be up
when nothing waits: a poll takes the backlog and flips the flag.
-/

namespace NullMiddleware.Latch

variable {L : Type}

/-- Nothing waits while a listener attends. -/
def Settled (l : Latch L) : Prop := l.attended → l.pending = 0

lemma settled_new (mode : Granularity) : (new mode : Latch L).Settled := fun _ => rfl

lemma Settled.step {l : Latch L} (h : l.Settled) (op : Operation L) :
    (op.step l).after.Settled := by
  cases op with
  | trigger =>
    rcases hl : l.listener with _ | a
    · simp [Operation.step, trigger, hl, Settled, attended]
    · simpa [Operation.step, trigger, hl] using h
  | poll => exact fun _ => rfl
  | register listener replayPrevious =>
    rcases listener with _ | a
    · simp [Settled, Operation.step, register, clear, attended]
    · exact fun _ => rfl

/-- Whatever waits has raised the flag. -/
def Flagged (l : Latch L) : Prop := l.pending ≠ 0 → l.unread

lemma flagged_new (mode : Granularity) : (new mode : Latch L).Flagged := fun h => absurd rfl h

lemma Flagged.step {l : Latch L} (h : l.Flagged) (op : Operation L) :
    (op.step l).after.Flagged := by
  cases op with
  | trigger =>
    rcases hl : l.listener with _ | a
    · simp [Operation.step, trigger, hl, Flagged]
    · simpa [Operation.step, trigger, hl] using h
  | poll => exact fun hpending => absurd rfl hpending
  | register listener replayPrevious =>
    rcases listener with _ | a
    · exact h
    · exact fun hpending => absurd rfl hpending

structure Sound (l : Latch L) : Prop where
  settled : l.Settled
  flagged : l.Flagged

lemma sound_new (mode : Granularity) : (new mode : Latch L).Sound :=
  ⟨settled_new mode, flagged_new mode⟩

lemma Sound.step {l : Latch L} (h : l.Sound) (op : Operation L) : (op.step l).after.Sound :=
  ⟨h.settled.step op, h.flagged.step op⟩

/-- Only a listener that is there, or one that comes for a backlog, is called. -/
lemma exists_listener_of_calls {l : Latch L} {op : Operation L} (h : (op.step l).calls ≠ []) :
    (∃ a, op = .trigger ∧ l.listener = some a) ∨
      ∃ a, op = .register (some a) true ∧ l.pending ≠ 0 := by
  cases op with
  | trigger =>
    rcases hl : l.listener with _ | a
    · simp [Operation.step, trigger, hl] at h
    · exact .inl ⟨a, rfl, rfl⟩
  | poll => exact absurd rfl h
  | register listener replayPrevious =>
    rcases listener with _ | a
    · exact absurd rfl h
    · cases replayPrevious with
      | false => exact absurd rfl h
      | true =>
        refine .inr ⟨a, rfl, ?_⟩
        intro hzero
        cases hmode : l.mode <;>
          simp [Operation.step, register, install, replay, hzero, hmode] at h

end NullMiddleware.Latch
