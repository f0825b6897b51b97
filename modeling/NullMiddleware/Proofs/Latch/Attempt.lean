import NullMiddleware.Proofs.Latch.Invariant

/-!
Operations that a handler may break off.

A handler may panic when it is called. That is the end of the operation: it makes no more calls, it
gives no answer and writes no line, and the latch is left as it was during the calls.
-/

namespace NullMiddleware.Latch

variable {L : Type}

/-- An operation, and which of its calls panics, counted from one. None does if there is no call of
this number. -/
structure Attempt (L : Type) where
  op : Operation L
  panicOn : Nat := 0

/-- What is seen of an attempt. -/
structure Episode (L : Type) where
  op : Operation L
  returned : Bool
  report : Report (L × Nat)

def Attempt.Panics (l : Latch L) (t : Attempt L) : Prop :=
  0 < t.panicOn ∧ t.panicOn ≤ (t.op.step l).calls.length

instance (l : Latch L) (t : Attempt L) : Decidable (t.Panics l) :=
  inferInstanceAs (Decidable (_ ∧ _))

/-- What is seen of a step that its call number `k` breaks off. -/
def Step.brokenOff (step : Step L) (k : Nat) : Report (L × Nat) where
  calls := step.calls.take k
  answer := none
  line := none
  pending := step.during.pending
  unread := step.during.unread
  attended := step.during.attended

def attempt (l : Latch L) (t : Attempt L) : Episode L × Latch L :=
  if t.Panics l then
    ({ op := t.op, returned := false, report := (t.op.step l).brokenOff t.panicOn },
      (t.op.step l).during)
  else ({ op := t.op, returned := true, report := (l.perform t.op).1 }, (l.perform t.op).2)

variable {l : Latch L} {t : Attempt L}

lemma attempt_of_panics (h : t.Panics l) :
    l.attempt t =
      ({ op := t.op, returned := false, report := (t.op.step l).brokenOff t.panicOn },
        (t.op.step l).during) := if_pos h

lemma attempt_of_not_panics (h : ¬ t.Panics l) :
    l.attempt t =
      ({ op := t.op, returned := true, report := (l.perform t.op).1 }, (l.perform t.op).2) :=
  if_neg h

lemma attempt_op (l : Latch L) (t : Attempt L) : (l.attempt t).1.op = t.op := by
  by_cases h : t.Panics l
  · rw [attempt_of_panics h]
  · rw [attempt_of_not_panics h]

lemma not_panics_of_calls (h : (t.op.step l).calls = []) : ¬ t.Panics l := by
  rintro ⟨hpos, hle⟩
  rw [h, List.length_nil] at hle
  omega

/-- A trigger may panic that finds a listener, and a registration that replays a backlog. -/
lemma Attempt.Panics.cases (h : t.Panics l) :
    (∃ a, t.op = .trigger ∧ l.listener = some a) ∨
      ∃ a, t.op = .register (some a) true ∧ l.pending ≠ 0 := by
  refine exists_listener_of_calls ?_
  intro hnone
  exact not_panics_of_calls hnone h

lemma during_trigger {a : L} (h : l.listener = some a) : l.trigger.during = l := by
  simp only [trigger, h]

lemma during_install (l : Latch L) (a : L) (replayPrevious : Bool) :
    (l.install a replayPrevious).during = { l with pending := 0, unread := false } := rfl

/-- A backlog waits on an unattended latch only, so such a registration leaves a new latch. -/
lemma Sound.during_install (h : l.Sound) (backlog : l.pending ≠ 0) (a : L)
    (replayPrevious : Bool) : (l.install a replayPrevious).during = new l.mode := by
  have hnobody : l.listener = none := by
    rcases hl : l.listener with _ | b
    · rfl
    · exact absurd (h.settled (by simp [attended, hl])) backlog
  rw [Latch.during_install, hnobody]
  rfl

lemma Sound.attempted (h : l.Sound) (t : Attempt L) : (l.attempt t).2.Sound := by
  by_cases hpanics : t.Panics l
  · rw [attempt_of_panics hpanics]
    rcases hpanics.cases with ⟨a, hop, ha⟩ | ⟨a, hop, hbacklog⟩
    · rw [hop]
      exact (during_trigger ha).symm ▸ h
    · rw [hop]
      exact (h.during_install hbacklog a true).symm ▸ sound_new l.mode
  · rw [attempt_of_not_panics hpanics]
    exact h.step t.op

@[simp] lemma attempt_mode (l : Latch L) (t : Attempt L) : (l.attempt t).2.mode = l.mode := by
  by_cases h : t.Panics l
  · rw [attempt_of_panics h]
    rcases h.cases with ⟨a, hop, ha⟩ | ⟨a, hop, -⟩
    · rw [hop]
      exact congrArg Latch.mode (during_trigger ha)
    · rw [hop]
      rfl
  · rw [attempt_of_not_panics h]
    exact step_mode l t.op

/-! ### Runs -/

lemma run_sound (mode : Granularity) (ts : List (Attempt L)) :
    (Run.final attempt (new mode) ts).Sound :=
  (Run.keeps (Q := fun _ => True) (fun _ t _ h => ⟨trivial, h.attempted t⟩) (sound_new mode)).2

lemma run_mode (mode : Granularity) (ts : List (Attempt L)) :
    (Run.final attempt (new mode) ts).mode = mode :=
  (Run.keeps (P := fun l : Latch L => l.mode = mode) (Q := fun _ => True)
    (fun l t _ h => ⟨trivial, (attempt_mode l t).trans h⟩) rfl).2

/-- **A backlog is never hidden.** At all times, also after panics, nothing waits while a listener
attends, and whatever waits has raised the flag. So no poll loses a trigger without saying so, and a
listener that takes the place of another one finds nothing to take over or to drop. -/
theorem backlog_is_never_hidden (mode : Granularity) (ts : List (Attempt L)) :
    let l := Run.final attempt (new mode) ts
    (l.attended → l.pending = 0) ∧ (l.pending ≠ 0 → l.unread) ∧
      (∀ k, ((l.attempt ⟨.poll, k⟩).1.report.answer = some false → l.pending = 0) ∧
        (l.pending ≠ 0 → (l.attempt ⟨.poll, k⟩).1.report.answer = some true)) ∧
      ∀ a replayPrevious k, l.attended →
        let e := (l.attempt ⟨.register (some a) replayPrevious, k⟩).1
        e.returned ∧ e.report.calls = [] ∧ e.report.line = none := by
  intro l
  obtain ⟨hsettled, hflagged⟩ := run_sound mode ts
  refine ⟨hsettled, hflagged, ?_, ?_⟩
  · intro k
    have hpoll : (l.attempt ⟨.poll, k⟩).1.report.answer = some l.unread := by
      rw [attempt_of_not_panics (not_panics_of_calls rfl)]
      rfl
    rw [hpoll]
    refine ⟨?_, fun hbacklog => congrArg some (hflagged hbacklog)⟩
    intro hdown
    by_contra hbacklog
    rw [hflagged hbacklog] at hdown
    cases hdown
  · intro a replayPrevious k hattended
    have hpending : l.pending = 0 := hsettled hattended
    have hcalls : (l.install a replayPrevious).calls = [] := by
      cases hmode : l.mode <;> cases replayPrevious <;> simp [install, replay, hpending, hmode]
    have hreturns : ¬ Attempt.Panics l ⟨.register (some a) replayPrevious, k⟩ :=
      not_panics_of_calls hcalls
    rw [attempt_of_not_panics hreturns]
    refine ⟨rfl, hcalls, ?_⟩
    cases replayPrevious <;> simp [perform, Operation.step, register, install, hpending]

/-- A replay panics at its second call, and later a live delivery does. A listener that then takes
the place of the one that is there hears nothing. -/
theorem backlog_between_panics :
    let ts : List (Attempt Nat) :=
      [⟨.trigger, 0⟩, ⟨.trigger, 0⟩, ⟨.register (some 5) true, 2⟩, ⟨.trigger, 0⟩,
        ⟨.register (some 6) true, 0⟩, ⟨.trigger, 1⟩]
    let l := Run.final attempt (new .perEvent) ts
    (l.attended ∧ l.pending = 0) ∧
      (l.attempt ⟨.register (some 7) true, 1⟩).1.report.calls = [] := by
  intro ts l
  have hattended : l.attended := by decide +kernel
  obtain ⟨hsettled, -, -, hreplaced⟩ := backlog_is_never_hidden .perEvent ts
  exact ⟨⟨hattended, hsettled hattended⟩, (hreplaced 7 true 1 hattended).2.1⟩

end NullMiddleware.Latch
