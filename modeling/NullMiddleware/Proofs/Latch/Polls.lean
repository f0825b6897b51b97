import Mathlib.Algebra.Ring.Parity
import Mathlib.Data.List.Induction
import NullMiddleware.Proofs.Latch.Attempt

/-!
What polls answer.

A poll flips the flag that it reads. What it answers can be told from the history alone, without
the flag: by the last installation or unattended trigger before it, and by the number of polls
since.
-/

namespace NullMiddleware.Latch

variable {L : Type}

/-! ### Histories -/

/-- What in a history bears on polls. -/
inductive Sign
  /-- A listener came; it need not have stayed. -/
  | installed
  /-- A trigger found no listener. -/
  | missed
  | polled
  deriving DecidableEq

/-- The sign that an operation leaves on a latch that is attended, or is not. -/
def Episode.sign? (attended : Bool) (e : Episode L) : Option Sign :=
  match e.op with
  | .trigger => if attended then none else some .missed
  | .poll => some .polled
  | .register (some _) _ => some .installed
  | .register none _ => none

/-- Whether a listener attends the latch after the operation. One whose replay panics does not come
to attend it. -/
def Episode.attends (attended : Bool) (e : Episode L) : Bool :=
  match e.op with
  | .trigger | .poll => attended
  | .register (some _) _ => e.returned
  | .register none _ => false

def signs (attended : Bool) : List (Episode L) → List Sign
  | [] => []
  | e :: later => (e.sign? attended).toList ++ signs (e.attends attended) later

def lastEvent (ss : List Sign) : Option Sign := (ss.filter (· ≠ .polled)).getLast?

def pollsSince (ss : List Sign) : Nat := (ss.reverse.takeWhile (· = .polled)).length

/-- The signs say that the flag is up. -/
def Signals (ss : List Sign) : Prop := Xor (lastEvent ss = some .missed) (Odd (pollsSince ss))

lemma signals_nil : ¬ Signals [] := by simp [Signals, lastEvent, pollsSince]

lemma signals_installed (ss : List Sign) : ¬ Signals (ss ++ [.installed]) := by
  simp [Signals, lastEvent, pollsSince]

lemma signals_missed (ss : List Sign) : Signals (ss ++ [.missed]) := by
  simp [Signals, lastEvent, pollsSince]

lemma signals_polled (ss : List Sign) : Signals (ss ++ [.polled]) ↔ ¬ Signals ss := by
  have hevent : lastEvent (ss ++ [.polled]) = lastEvent ss := by simp [lastEvent]
  have hsince : pollsSince (ss ++ [.polled]) = pollsSince ss + 1 := by simp [pollsSince]
  unfold Signals
  rw [hevent, hsince, Nat.odd_add_one, xor_not_right, not_xor]

/-! ### The flag -/

/-- What a sign does to the flag. -/
def Sign.lift (unread : Bool) : Sign → Bool
  | installed => false
  | missed => true
  | polled => !unread

lemma foldl_lift_iff (ss : List Sign) : ss.foldl Sign.lift false ↔ Signals ss := by
  induction ss using List.reverseRecOn with
  | nil => simp [signals_nil]
  | append_singleton ss s ih =>
    rw [List.foldl_concat]
    cases s with
    | installed => simp [Sign.lift, signals_installed]
    | missed => simp [Sign.lift, signals_missed]
    | polled => simp [Sign.lift, signals_polled, ← ih]

variable {l : Latch L}

/-- An attempt moves the flag as its sign says, and leaves it if there is no sign. -/
lemma unread_attempt (l : Latch L) (t : Attempt L) :
    (l.attempt t).2.unread =
      ((l.attempt t).1.sign? l.attended).toList.foldl Sign.lift l.unread := by
  obtain ⟨op, k⟩ := t
  by_cases hpanics : Attempt.Panics l ⟨op, k⟩
  · rw [attempt_of_panics hpanics]
    rcases hpanics.cases with ⟨a, rfl, ha⟩ | ⟨a, rfl, -⟩
    · simp [Operation.step, trigger, ha, Episode.sign?, attended]
    · rfl
  · rw [attempt_of_not_panics hpanics]
    cases op with
    | trigger =>
      rcases hl : l.listener with _ | a <;>
        simp [perform, Operation.step, trigger, hl, Episode.sign?, attended, Sign.lift]
    | poll => rfl
    | register listener r => rcases listener with _ | a <;> rfl

lemma Sound.attended_attempt (h : l.Sound) (t : Attempt L) :
    (l.attempt t).2.attended = (l.attempt t).1.attends l.attended := by
  obtain ⟨op, k⟩ := t
  by_cases hpanics : Attempt.Panics l ⟨op, k⟩
  · rw [attempt_of_panics hpanics]
    rcases hpanics.cases with ⟨a, rfl, ha⟩ | ⟨a, rfl, hbacklog⟩
    · simp only [Operation.step, during_trigger ha, Episode.attends]
    · simp only [Operation.step, register, h.during_install hbacklog, Episode.attends]
      rfl
  · rw [attempt_of_not_panics hpanics]
    cases op with
    | trigger =>
      rcases hl : l.listener with _ | a <;>
        simp [perform, Operation.step, trigger, hl, Episode.attends, attended]
    | poll => rfl
    | register listener r => rcases listener with _ | a <;> rfl

lemma Sound.unread_run (h : l.Sound) (ts : List (Attempt L)) :
    (Run.final attempt l ts).unread =
      (signs l.attended (Run.outcomes attempt l ts)).foldl Sign.lift l.unread := by
  induction ts generalizing l with
  | nil => rfl
  | cons t later ih =>
    rw [Run.final_cons, ih (h.attempted t), Run.outcomes_cons, signs, List.foldl_append,
      unread_attempt, h.attended_attempt]

lemma signs_append (attended : Bool) (u v : List (Episode L)) :
    signs attended (u ++ v) =
      signs attended u ++ signs (u.foldl Episode.attends attended) v := by
  induction u generalizing attended with
  | nil => rfl
  | cons e later ih => rw [List.cons_append, signs, signs, ih, List.append_assoc, List.foldl_cons]

lemma Sound.attended_run (h : l.Sound) (ts : List (Attempt L)) :
    (Run.final attempt l ts).attended =
      (Run.outcomes attempt l ts).foldl Episode.attends l.attended := by
  induction ts generalizing l with
  | nil => rfl
  | cons t later ih =>
    rw [Run.final_cons, ih (h.attempted t), Run.outcomes_cons, List.foldl_cons, h.attended_attempt]

lemma attempt_live {t : Attempt L} (hop : t.op = .trigger) (attended : l.attended) :
    (l.attempt t).2 = l := by
  obtain ⟨a, ha⟩ := Option.isSome_iff_exists.mp attended
  by_cases hpanics : t.Panics l
  · rw [attempt_of_panics hpanics, hop]
    exact during_trigger ha
  · rw [attempt_of_not_panics hpanics, hop]
    simp only [perform, Operation.step, trigger, ha]

/-- **Polls answer by the history.** In any run, a poll finds the flag up if the last event before
it was a trigger without a listener and the number of polls since is even, or if the last event was
an installation, or there was none, and the number is odd. Triggers that are delivered at once and
calls that take the listener away leave no sign, and so move no answer; the former may be left out
altogether. -/
theorem polls_answer_by_history (mode : Granularity) (u v : List (Attempt L)) (k : Nat) :
    let past := signs false (Run.outcomes attempt (new mode) u)
    let l := Run.final attempt (new mode) u
    (∃ answer, ((Run.outcomes attempt (new mode) (u ++ ⟨.poll, k⟩ :: v))[u.length]?.bind
        fun e => e.report.answer) = some answer ∧
        (answer ↔ Xor (lastEvent past = some .missed) (Odd (pollsSince past)))) ∧
      (∀ t : Attempt L, (t.op = .trigger ∧ l.attended ∨
          ∃ replayPrevious, t.op = .register none replayPrevious) →
        signs false (Run.outcomes attempt (new mode) (u ++ [t])) = past) ∧
      ∀ t : Attempt L, t.op = .trigger → l.attended →
        Run.final attempt (new mode) (u ++ [t]) = l := by
  intro past l
  have hflag : l.unread = past.foldl Sign.lift false := (sound_new mode).unread_run u
  have hattended : l.attended =
      (Run.outcomes attempt (new mode) u).foldl Episode.attends false :=
    (sound_new mode).attended_run u
  refine ⟨⟨l.unread, ?_, ?_⟩, ?_, ?_⟩
  · rw [Run.outcomes_getElem?, Option.bind_some,
      attempt_of_not_panics (not_panics_of_calls rfl)]
    rfl
  · rw [hflag]
    exact foldl_lift_iff past
  · intro t ht
    have hnone : (l.attempt t).1.sign? l.attended = none := by
      rcases ht with ⟨hop, hlive⟩ | ⟨r, hop⟩
      · simp [Episode.sign?, attempt_op, hop, hlive]
      · simp [Episode.sign?, attempt_op, hop]
    have hafter : signs l.attended [(l.attempt t).1] = [] := by
      rw [signs, hnone]
      rfl
    rw [Run.outcomes_append, signs_append, ← hattended, Run.outcomes_cons, Run.outcomes_nil, hafter,
      List.append_nil]
  · intro t hop hlive
    rw [Run.final_append, Run.final_cons, Run.final_nil, attempt_live hop hlive]

/-- The flag goes up with a trigger, down and up again with two polls, and down with a listener. A
live trigger leaves it there. A poll turns it round, and the next one, after the listener has gone,
finds it up. -/
theorem poll_after_a_listener :
    let u : List (Attempt Nat) :=
      [⟨.trigger, 0⟩, ⟨.poll, 0⟩, ⟨.poll, 0⟩, ⟨.register (some 5) true, 0⟩, ⟨.trigger, 0⟩,
        ⟨.poll, 0⟩, ⟨.register none false, 0⟩]
    let past := signs false (Run.outcomes attempt (new .coalesced) u)
    past = [.missed, .polled, .polled, .installed, .polled] ∧
      ((Run.outcomes attempt (new .coalesced) (u ++ [⟨.poll, 0⟩]))[u.length]?.bind
        fun e => e.report.answer) = some true := by
  intro u past
  have hpast : past = [.missed, .polled, .polled, .installed, .polled] := by decide +kernel
  obtain ⟨⟨answer, hanswer, hiff⟩, -, -⟩ := polls_answer_by_history .coalesced u [] 0
  have hevent : lastEvent past = some .installed := by rw [hpast]; decide
  have hsince : pollsSince past = 1 := by rw [hpast]; decide
  have hup : answer = true := hiff.mpr (by simp [hevent, hsince, past])
  exact ⟨hpast, hup ▸ hanswer⟩

end NullMiddleware.Latch
