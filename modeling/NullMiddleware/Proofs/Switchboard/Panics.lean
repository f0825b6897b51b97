import NullMiddleware.Proofs.Switchboard.Unchained

/-!
What a panic leaves.

A handler that panics breaks off the operation that called it. If that was a trigger, the latch is
as it was. If it was a registration, the backlog is gone and the listener has not come, so that the
latch is a new one: a backlog waits on an unattended latch only.
-/

namespace NullMiddleware.Latch

variable {L : Type}

/-- The replay of a backlog has a call of this number, counted from one. -/
def HasCall (mode : Granularity) (backlog number : Nat) : Prop :=
  match mode with
  | .coalesced => 0 < backlog ∧ number = 1
  | .perEvent => 1 ≤ number ∧ number ≤ backlog

instance (mode : Granularity) (backlog number : Nat) : Decidable (HasCall mode backlog number) :=
  match mode with
  | .coalesced | .perEvent => inferInstanceAs (Decidable (_ ∧ _))

lemma hasCall_iff (mode : Granularity) (a : L) (backlog number : Nat) :
    HasCall mode backlog number ↔ 0 < number ∧ number ≤ (replay mode a backlog).length := by
  cases mode with
  | coalesced =>
    by_cases hnone : backlog = 0
    · simp only [HasCall, replay, hnone, if_true, List.length_nil]
      omega
    · simp only [HasCall, replay, hnone, if_false, List.length_singleton]
      omega
  | perEvent => simp only [HasCall, replay, List.length_replicate, Nat.succ_le_iff]

lemma replay_zero (mode : Granularity) (a : L) : replay mode a 0 = [] := by
  cases mode with
  | coalesced => rfl
  | perEvent => rfl

/-- A replay up to a call that it has: the one call that carries everything, or as many as that. -/
lemma HasCall.take_replay {mode : Granularity} {backlog number : Nat}
    (h : HasCall mode backlog number) (a : L) :
    (mode = .coalesced → (replay mode a backlog).take number = [(a, backlog)]) ∧
      (mode = .perEvent →
        (replay mode a backlog).take number = List.replicate number (a, 1)) := by
  cases mode with
  | coalesced =>
    obtain ⟨hpos, rfl⟩ := h
    have hcalls : replay .coalesced a backlog = [(a, backlog)] := if_neg (by omega)
    refine ⟨?_, nofun⟩
    intro _
    rw [hcalls, List.take_one]
    rfl
  | perEvent =>
    obtain ⟨-, hle⟩ := h
    refine ⟨nofun, ?_⟩
    intro _
    rw [replay, List.take_replicate, Nat.min_eq_left hle]

variable {l : Latch L} {a : L}

lemma attempt_trigger (h : l.listener = some a) :
    (l.attempt ⟨.trigger, 1⟩).1.returned = false ∧ (l.attempt ⟨.trigger, 1⟩).2 = l ∧
      ∀ k, (l.attempt ⟨.trigger, k⟩).1.report.calls = [(a, 1)] := by
  have hcalls : (Operation.trigger.step l).calls = [(a, 1)] := by
    simp only [Operation.step, trigger, h]
  have hpanics : Attempt.Panics l ⟨.trigger, 1⟩ := by
    refine ⟨Nat.one_pos, ?_⟩
    rw [hcalls]
    exact Nat.le_refl 1
  refine ⟨?_, ?_, ?_⟩
  · rw [attempt_of_panics hpanics]
  · rw [attempt_of_panics hpanics]
    exact during_trigger h
  · intro k
    by_cases hk : Attempt.Panics l ⟨.trigger, k⟩
    · rw [attempt_of_panics hk]
      simp only [Step.brokenOff, hcalls]
      exact List.take_of_length_le hk.1
    · rw [attempt_of_not_panics hk]
      exact hcalls

lemma panics_install_iff (l : Latch L) (a : L) (j : Nat) :
    Attempt.Panics l ⟨.register (some a) true, j⟩ ↔ HasCall l.mode l.pending.toNat j :=
  (hasCall_iff l.mode a l.pending.toNat j).symm

/-- A registration that panics at a call of its replay has made the calls up to it, and leaves a
new latch. -/
lemma Sound.attempt_install (h : l.Sound) {j : Nat} (hj : HasCall l.mode l.pending.toNat j) :
    let r := l.attempt ⟨.register (some a) true, j⟩
    r.1.returned = false ∧ r.1.report.calls = (replay l.mode a l.pending.toNat).take j ∧
      r.1.report.calls.length = j ∧ r.2 = new l.mode := by
  have hpanics := (panics_install_iff l a j).mpr hj
  -- with a backlog there is no listener to keep, so what the calls leave is a new latch
  have hbacklog : l.pending ≠ 0 := by
    rcases hpanics.cases with ⟨_, hop, -⟩ | ⟨_, -, hbacklog⟩
    · cases hop
    · exact hbacklog
  intro r
  have hr : r = _ := attempt_of_panics hpanics
  rw [hr]
  refine ⟨rfl, rfl, ?_, h.during_install hbacklog a true⟩
  exact List.length_take_of_le hpanics.2

lemma attempt_install_returns {j : Nat} (hj : ¬ HasCall l.mode l.pending.toNat j) :
    let r := l.attempt ⟨.register (some a) true, j⟩
    r.1.returned = true ∧ r.1.report.calls = replay l.mode a l.pending.toNat ∧
      r.2 = { mode := l.mode, pending := 0, unread := false, listener := some a } := by
  have hreturns : ¬ Attempt.Panics l ⟨.register (some a) true, j⟩ :=
    fun hpanics => hj ((panics_install_iff l a j).mp hpanics)
  intro r
  have hr : r = _ := attempt_of_not_panics hreturns
  rw [hr]
  exact ⟨rfl, rfl, rfl⟩

/-- **A panic leaves the latch as it was, or a new one.** Take a latch after any run of operations,
each of which a handler may have broken off. A trigger whose handler panics changes nothing, and the
next one reaches the same listener. A registration that panics at a call of the replay has made the
calls up to this one; the listener does not attend, and whatever is done later is done as on a new
latch. A registration that does not panic has handed over the backlog, in one call or in one call
for each trigger, or in none if nothing waited, and then the listener attends an empty latch. On
a switchboard whose handlers forward nothing, the operations on a latch are such a run, where it is
the handlers that say which calls panic. -/
theorem panics_leave_old_or_new_latches (mode : Granularity) (past : List (Attempt Listener)) :
    let l := Run.final attempt (new mode) past
    let backlog := l.pending.toNat
    (∀ a, l.listener = some a →
      let r := l.attempt ⟨.trigger, 1⟩
      r.1.returned = false ∧ r.1.report.calls = [(a, 1)] ∧ r.2 = l ∧
        ∀ k, (r.2.attempt ⟨.trigger, k⟩).1.report.calls = [(a, 1)]) ∧
    (∀ a j, HasCall mode backlog j →
      let r := l.attempt ⟨.register (some a) true, j⟩
      r.1.returned = false ∧ r.1.report.calls.length = j ∧
        (mode = .coalesced → r.1.report.calls = [(a, backlog)]) ∧
        (mode = .perEvent → r.1.report.calls = List.replicate j (a, 1)) ∧
        r.2 = { mode, pending := 0, unread := false, listener := none } ∧
        ∀ later, Run.outcomes attempt (new mode) (past ++ ⟨.register (some a) true, j⟩ :: later) =
          Run.outcomes attempt (new mode) past ++ r.1 :: Run.outcomes attempt (new mode) later) ∧
    (∀ a j, ¬ HasCall mode backlog j →
      let r := l.attempt ⟨.register (some a) true, j⟩
      r.1.returned = true ∧
        (backlog = 0 → r.1.report.calls = []) ∧
        (mode = .coalesced → backlog ≠ 0 → r.1.report.calls = [(a, backlog)]) ∧
        (mode = .perEvent → r.1.report.calls = List.replicate backlog (a, 1)) ∧
        r.2 = { mode, pending := 0, unread := false, listener := some a }) ∧
    ∀ b : Switchboard, b.Unchained → ∀ ops, ∃ ts : List (Attempt Listener), ts.map (·.op) = ops ∧
      let start := (b.addLatch mode).2
      let n := b.latches.size
      (Run.outcomes (Switchboard.operate n) start ops).map
          (fun o => (decide (o.1 = .returned), o.2)) =
        (Run.outcomes attempt (new mode) ts).map
          (fun e => (e.returned, e.report.expand (Switchboard.heard b.label?))) ∧
      (Run.final (Switchboard.operate n) start ops).latch n = Run.final attempt (new mode) ts := by
  intro l backlog
  have hsound : l.Sound := run_sound mode past
  have hmode : l.mode = mode := run_mode mode past
  refine ⟨?_, ?_, ?_, ?_⟩
  · intro a ha
    obtain ⟨hreturned, hafter, hcalls⟩ := attempt_trigger ha
    refine ⟨hreturned, hcalls 1, hafter, ?_⟩
    rw [hafter]
    exact hcalls
  · intro a j hj
    have hinstall := hsound.attempt_install (a := a) (j := j) (by rwa [hmode])
    rw [hmode] at hinstall
    obtain ⟨hreturned, hcalls, hlength, hafter⟩ := hinstall
    obtain ⟨hcoalesced, hperEvent⟩ := hj.take_replay a
    refine ⟨hreturned, hlength, ?_, ?_, hafter, ?_⟩
    · exact fun hm => hcalls.trans (hcoalesced hm)
    · exact fun hm => hcalls.trans (hperEvent hm)
    · intro later
      rw [Run.outcomes_append, Run.outcomes_cons, hafter]
  · intro a j hj
    have hinstall := attempt_install_returns (l := l) (a := a) (j := j) (by rwa [hmode])
    rw [hmode] at hinstall
    obtain ⟨hreturned, hcalls, hafter⟩ := hinstall
    refine ⟨hreturned, ?_, ?_, ?_, hafter⟩
    · intro hnone
      rw [hcalls, show l.pending.toNat = 0 from hnone, replay_zero]
    · rintro rfl hwaiting
      exact hcalls.trans (if_neg hwaiting)
    · rintro rfl
      exact hcalls
  · intro b unchained ops
    exact unchained.run_addLatch mode ops

/-- Two triggers wait, on a latch of each granularity, for a handler that panics when it takes the
last of them, and for one that does not; and a listener that attends panics at a trigger. On a
switchboard the first of these is done by a handler that panics at its second call. -/
theorem panics_at_replays_and_deliveries :
    let a : Listener := { handler := 0, token := some 3 }
    let past : List (Attempt Listener) := [⟨.trigger, 0⟩, ⟨.trigger, 0⟩]
    let l := Run.final attempt (new .perEvent) past
    let c := Run.final attempt (new .coalesced) past
    let attended := Run.final attempt (new .perEvent) [⟨.register (some a) true, 0⟩]
    let b : Switchboard := { handlers := #[{ label := "h", panicOn := 2 }] }
    let ops : List (Operation Listener) := [.trigger, .trigger, .register (some a) true, .poll]
    (HasCall .perEvent l.pending.toNat 2 ∧
      (l.attempt ⟨.register (some a) true, 2⟩).1.report.calls = [(a, 1), (a, 1)] ∧
      (l.attempt ⟨.register (some a) true, 2⟩).2 = new .perEvent) ∧
    (¬ HasCall .perEvent l.pending.toNat 0 ∧
      (l.attempt ⟨.register (some a) true, 0⟩).1.report.calls = [(a, 1), (a, 1)] ∧
      (l.attempt ⟨.register (some a) true, 0⟩).2 = { mode := .perEvent, listener := some a }) ∧
    (HasCall .coalesced c.pending.toNat 1 ∧
      (c.attempt ⟨.register (some a) true, 1⟩).1.report.calls = [(a, 2)] ∧
      (c.attempt ⟨.register (some a) true, 1⟩).2 = new .coalesced) ∧
    (¬ HasCall .coalesced c.pending.toNat 2 ∧
      (c.attempt ⟨.register (some a) true, 2⟩).1.report.calls = [(a, 2)] ∧
      (c.attempt ⟨.register (some a) true, 2⟩).2 = { mode := .coalesced, listener := some a }) ∧
    (attended.listener = some a ∧ (attended.attempt ⟨.trigger, 1⟩).2 = attended) ∧
    b.Unchained ∧
      (∃ ts : List (Attempt Listener), ts.map (·.op) = ops ∧
        (Run.final (Switchboard.operate 0) (b.addLatch .perEvent).2 ops).latch 0 =
          Run.final attempt (new .perEvent) ts) ∧
      (Run.outcomes (Switchboard.operate 0) (b.addLatch .perEvent).2 ops).map
          (fun o => (o.1, o.2.calls, o.2.answer)) =
        [(.returned, [], none), (.returned, [], none),
          (.panicked "h", [⟨"h", some 3, 1⟩, ⟨"h", some 3, 1⟩], none),
          (.returned, [], some false)] := by
  intro a past l c attended b ops
  obtain ⟨-, hbroken, hwhole, hboard⟩ := panics_leave_old_or_new_latches .perEvent past
  obtain ⟨-, hbroken', hwhole', -⟩ := panics_leave_old_or_new_latches .coalesced past
  obtain ⟨hlive, -⟩ := panics_leave_old_or_new_latches .perEvent [⟨.register (some a) true, 0⟩]
  have hcall : HasCall .perEvent l.pending.toNat 2 := by decide +kernel
  have hnone : ¬ HasCall .perEvent l.pending.toNat 0 := by decide +kernel
  have hcall' : HasCall .coalesced c.pending.toNat 1 := by decide +kernel
  have hnone' : ¬ HasCall .coalesced c.pending.toNat 2 := by decide +kernel
  have hwaiting : c.pending.toNat ≠ 0 := by decide +kernel
  have hattended : attended.listener = some a := by decide +kernel
  have unchained : b.Unchained := by
    intro k h hk
    obtain ⟨hlt, rfl⟩ := Array.getElem?_eq_some_iff.mp hk
    obtain rfl : k = 0 := Nat.lt_one_iff.mp hlt
    rfl
  obtain ⟨-, -, -, hcalls, hnew, -⟩ := hbroken a 2 hcall
  obtain ⟨-, -, -, hall, hcame⟩ := hwhole a 0 hnone
  obtain ⟨-, -, hcalls', -, hnew', -⟩ := hbroken' a 1 hcall'
  obtain ⟨-, -, hall', -, hcame'⟩ := hwhole' a 2 hnone'
  obtain ⟨-, -, hsame, -⟩ := hlive a hattended
  obtain ⟨ts, hops, -, hfinal⟩ := hboard b unchained ops
  exact ⟨⟨hcall, hcalls rfl, hnew⟩, ⟨hnone, hall rfl, hcame⟩, ⟨hcall', hcalls' rfl, hnew'⟩,
    ⟨hnone', hall' rfl hwaiting, hcame'⟩, ⟨hattended, hsame⟩, unchained, ⟨ts, hops, hfinal⟩,
    by decide +kernel⟩

end NullMiddleware.Latch
