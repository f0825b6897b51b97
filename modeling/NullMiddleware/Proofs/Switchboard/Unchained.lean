import NullMiddleware.Proofs.Latch.Attempt
import NullMiddleware.Switchboard

/-!
Switchboards whose handlers forward nothing.

A handler may panic at one of its calls. As no call leads on to another latch, an operation on a
latch is an attempt of it, which that panic breaks off, and the record grows by the calls made.
-/

namespace NullMiddleware

/-- The report with other calls in the place of each call. -/
def Latch.Report.expand {C D : Type} (f : C → List D) (r : Latch.Report C) : Latch.Report D :=
  { calls := r.calls.flatMap f
    answer := r.answer
    line := r.line
    pending := r.pending
    unread := r.unread
    attended := r.attended }

/-- The handler as it was before its first call. -/
def Handler.unused (h : Handler) : Handler := { h with calls := 0 }

namespace Switchboard

open Latch (Attempt Operation Report)

/-- How an operation on latch `n` ends and what is seen of it; its calls are those that handlers
record. -/
def operate (n : Nat) (b : Switchboard) (op : Operation Listener) :
    (Ending × Report Call) × Switchboard :=
  let (ending, answer, line, after) : Ending × Option Bool × Option LogLine × Switchboard :=
    match op with
    | .trigger => let (ending, after) := b.trigger n; (ending, none, none, after)
    | .poll => let (unread, after) := b.poll n; (.returned, some unread, none, after)
    | .register listener replayPrevious =>
      let (ending, line, after) := b.register n listener replayPrevious
      (ending, none, line, after)
  ((ending,
    { calls := after.record.toList.drop b.record.size
      answer
      line
      pending := (after.latch n).pending
      unread := (after.latch n).unread
      attended := (after.latch n).attended }), after)

/-- No handler forwards a call. -/
def Unchained (b : Switchboard) : Prop :=
  ∀ (k : Nat) (h : Handler), b.handlers[k]? = some h → h.forward = none

/-- No handler forwards a call, and none ever panics. -/
def Quiet (b : Switchboard) : Prop :=
  ∀ (k : Nat) (h : Handler), b.handlers[k]? = some h → h.forward = none ∧ h.panicOn = 0

/-- The label of handler `k`. -/
def label? (b : Switchboard) (k : Nat) : Option String := b.handlers[k]?.map (·.label)

/-- What is recorded of a call, where `labels` gives the labels of the handlers. -/
def heard (labels : Nat → Option String) (call : Listener × Nat) : List Call :=
  ((labels call.1.handler).map fun label => ⟨label, call.1.token, call.2⟩).toList

variable {b b' b'' : Switchboard}

lemma Quiet.unchained (h : b.Quiet) : b.Unchained := fun k handler hk => (h k handler hk).1

/-! ### Latches -/

lemma latches_setLatch (n : Nat) (l : Latch Listener) :
    (b.setLatch n l).latches = b.latches.setIfInBounds n l := rfl

lemma latch_setLatch {n : Nat} (hn : n < b.latches.size) (l : Latch Listener) :
    (b.setLatch n l).latch n = l := by
  simp [latch, setLatch, hn]

lemma latch_setLatch_of_ne {n m : Nat} (hm : m ≠ n) (l : Latch Listener) :
    (b.setLatch n l).latch m = b.latch m := by
  simp [latch, setLatch, Array.getElem?_setIfInBounds_ne hm.symm]

lemma latch_congr {b₁ b₂ : Switchboard} (h : b₁.latches = b₂.latches) (n : Nat) :
    b₁.latch n = b₂.latch n := by
  rw [latch, latch, h]

lemma latch_of_latches {n : Nat} (hn : n < b.latches.size) {l : Latch Listener}
    {b' : Switchboard} (h : b'.latches = (b.setLatch n l).latches) : b'.latch n = l := by
  rw [latch_congr h, latch_setLatch hn]

lemma size_setLatch (n : Nat) (l : Latch Listener) :
    (b.setLatch n l).latches.size = b.latches.size := by
  simp [setLatch]

lemma setLatch_setLatch (n : Nat) (l₁ l₂ : Latch Listener) :
    (b.setLatch n l₁).setLatch n l₂ = b.setLatch n l₂ := by
  simp [setLatch, Array.setIfInBounds_setIfInBounds]

/-! ### Handlers -/

/-- The handlers are the same, but for the number of calls that they have had. -/
def SameHandlers (b b' : Switchboard) : Prop :=
  ∀ k : Nat, b'.handlers[k]?.map Handler.unused = b.handlers[k]?.map Handler.unused

lemma SameHandlers.refl (b : Switchboard) : SameHandlers b b := fun _ => rfl

lemma SameHandlers.trans (h : SameHandlers b b') (h' : SameHandlers b' b'') :
    SameHandlers b b'' := fun k => (h' k).trans (h k)

lemma SameHandlers.exists_handler (h : SameHandlers b b') {k : Nat} {handler : Handler}
    (hk : b'.handlers[k]? = some handler) :
    ∃ before, b.handlers[k]? = some before ∧ before.unused = handler.unused := by
  have hsame := h k
  rw [hk, Option.map_some] at hsame
  exact Option.map_eq_some_iff.mp hsame.symm

lemma SameHandlers.label (h : SameHandlers b b') : b'.label? = b.label? := by
  funext k
  have hsame := congrArg (Option.map Handler.label) (h k)
  rw [Option.map_map, Option.map_map] at hsame
  exact hsame

lemma SameHandlers.unchained (h : SameHandlers b b') (hb : b.Unchained) : b'.Unchained := by
  intro k handler hk
  obtain ⟨before, hbefore, hsame⟩ := h.exists_handler hk
  exact (congrArg Handler.forward hsame).symm.trans (hb k before hbefore)

lemma SameHandlers.quiet (h : SameHandlers b b') (hb : b.Quiet) : b'.Quiet := by
  intro k handler hk
  obtain ⟨before, hbefore, hsame⟩ := h.exists_handler hk
  obtain ⟨hforward, hpanic⟩ := hb k before hbefore
  exact ⟨(congrArg Handler.forward hsame).symm.trans hforward,
    (congrArg Handler.panicOn hsame).symm.trans hpanic⟩

/-! ### Calls -/

/-- All that has happened between the boards is that these calls were made. -/
structure Made (b : Switchboard) (calls : List (Listener × Nat)) (b' : Switchboard) : Prop where
  latches : b'.latches = b.latches
  record : b'.record.toList = b.record.toList ++ calls.flatMap (heard b.label?)
  handlers : SameHandlers b b'

lemma Made.nil (b : Switchboard) : Made b [] b := ⟨rfl, by simp, .refl b⟩

lemma Made.append {calls calls' : List (Listener × Nat)} (h : Made b calls b')
    (h' : Made b' calls' b'') : Made b (calls ++ calls') b'' := by
  refine ⟨h'.latches.trans h.latches, ?_, h.handlers.trans h'.handlers⟩
  rw [h'.record, h.record, h.handlers.label, List.flatMap_append, List.append_assoc]

/-- A call is made, and may panic on a board that is not quiet. -/
lemma Unchained.call (h : b.Unchained) (fire : Nat → Switchboard → Ending × Switchboard)
    (a : Listener) (count : Nat) :
    ∃ ending b', call fire a count b = (ending, b') ∧ Made b [(a, count)] b' ∧
      (ending = .returned ∨ ∃ label, ending = .panicked label ∧ ¬ b.Quiet) := by
  rcases hh : b.handlers[a.handler]? with _ | handler
  · refine ⟨.returned, b, by simp [Switchboard.call, hh], ⟨rfl, ?_, .refl b⟩, .inl rfl⟩
    simp [heard, label?, hh]
  · have hforward := h _ _ hh
    have hsize := (Array.getElem?_eq_some_iff.mp hh).1
    let after : Switchboard := { b with
      handlers := b.handlers.setIfInBounds a.handler { handler with calls := handler.calls + 1 }
      record := b.record.push ⟨handler.label, a.token, count⟩ }
    have hmade : Made b [(a, count)] after := by
      refine ⟨rfl, by simp [heard, label?, hh, after], ?_⟩
      intro k
      by_cases hk : a.handler = k
      · subst hk
        rw [hh]
        simp [after, hsize, Handler.unused]
      · simp [hk, after]
    by_cases hpanic : handler.calls + 1 = handler.panicOn
    · refine ⟨.panicked handler.label, after, by simp [Switchboard.call, hh, hpanic, after], hmade,
        .inr ⟨_, rfl, ?_⟩⟩
      intro quiet
      have hnever := (quiet _ _ hh).2
      omega
    · exact ⟨.returned, after, by simp [Switchboard.call, hh, hforward, hpanic, after], hmade,
        .inl rfl⟩

/-- How the calls of a list may go: all are made, or only those up to one that panics. -/
inductive Delivery (b : Switchboard) (calls : List (Listener × Nat)) : Ending × Switchboard → Prop
  | whole {b' : Switchboard} (made : Made b calls b') : Delivery b calls (.returned, b')
  | broken {b' : Switchboard} {k : Nat} {label : String} (pos : 0 < k) (le : k ≤ calls.length)
    (made : Made b (calls.take k) b') (loud : ¬ b.Quiet) : Delivery b calls (.panicked label, b')

lemma Delivery.cons {c : Listener × Nat} {rest : List (Listener × Nat)}
    {result : Ending × Switchboard} (made : Made b [c] b') (h : Delivery b' rest result) :
    Delivery b (c :: rest) result := by
  cases h with
  | whole made' => exact .whole (made.append made')
  | @broken _ k label pos le made' loud =>
    refine .broken (k := k + 1) (Nat.succ_pos k) (Nat.succ_le_succ le) ?_ ?_
    · exact made.append made'
    · exact fun quiet => loud (made.handlers.quiet quiet)

lemma Unchained.deliver (h : b.Unchained) (fire : Nat → Switchboard → Ending × Switchboard)
    (calls : List (Listener × Nat)) : Delivery b calls (deliver fire calls b) := by
  induction calls generalizing b with
  | nil => exact .whole (.nil b)
  | cons c rest ih =>
    obtain ⟨a, count⟩ := c
    obtain ⟨ending, b₁, hcall, hmade, rfl | ⟨label, rfl, loud⟩⟩ := h.call fire a count
    · have hcons : Switchboard.deliver fire ((a, count) :: rest) b =
          Switchboard.deliver fire rest b₁ := by
        rw [Switchboard.deliver, hcall]
      rw [hcons]
      exact .cons hmade (ih (hmade.handlers.unchained h))
    · have hcons : Switchboard.deliver fire ((a, count) :: rest) b = (.panicked label, b₁) := by
        rw [Switchboard.deliver, hcall]
      rw [hcons]
      exact .broken Nat.one_pos (Nat.succ_pos _) hmade loud

/-- What may come of a step on latch `n`: it is done, or a call breaks it off. -/
inductive Performance (n : Nat) (b : Switchboard) (step : Latch.Step Listener) :
    Ending × Switchboard → Prop
  | done {b' : Switchboard} (made : Made (b.setLatch n step.after) step.calls b') :
    Performance n b step (.returned, b')
  | brokenOff {b' : Switchboard} {k : Nat} {label : String} (pos : 0 < k)
    (le : k ≤ step.calls.length) (made : Made (b.setLatch n step.during) (step.calls.take k) b')
    (loud : ¬ b.Quiet) : Performance n b step (.panicked label, b')

lemma Made.setLatch {calls : List (Listener × Nat)} {n : Nat} {l : Latch Listener}
    (h : Made (b.setLatch n l) calls b') (l' : Latch Listener) :
    Made (b.setLatch n l') calls (b'.setLatch n l') := by
  refine ⟨?_, h.record, h.handlers⟩
  rw [latches_setLatch, h.latches, ← latches_setLatch, setLatch_setLatch]

lemma Made.drop_record {calls : List (Listener × Nat)} (h : Made b calls b') :
    b'.record.toList.drop b.record.size = calls.flatMap (heard b.label?) := by
  have hsize : b.record.size = b.record.toList.length := Array.length_toList.symm
  rw [h.record, hsize, List.drop_left]

lemma Unchained.perform (h : b.Unchained) (n : Nat)
    (fire : Nat → Switchboard → Ending × Switchboard) (step : Latch.Step Listener) :
    Performance n b step (perform fire n step b) := by
  have hheld : (b.setLatch n step.during).Unchained := h
  have hdeliver := hheld.deliver fire step.calls
  rcases hresult : Switchboard.deliver fire step.calls (b.setLatch n step.during) with ⟨ending, b'⟩
  rw [hresult] at hdeliver
  rw [Switchboard.perform, hresult]
  cases hdeliver with
  | whole made => exact .done (made.setLatch step.after)
  | broken pos le made loud => exact .brokenOff pos le made loud

/-! ### Operations -/

/-- Each operation carries out its step. Only one that returns has a line. -/
lemma operate_eq_perform (n : Nat) (b : Switchboard) (op : Operation Listener) :
    ∃ fire, let result := perform fire n (op.step (b.latch n)) b
      operate n b op = ((result.1,
        { calls := result.2.record.toList.drop b.record.size
          answer := op.answer (b.latch n)
          line := if result.1 = .returned then (op.step (b.latch n)).line else none
          pending := (result.2.latch n).pending
          unread := (result.2.latch n).unread
          attended := (result.2.latch n).attended }), result.2) := by
  cases op with
  | trigger =>
    refine ⟨triggerHolding b.latches.size [n], ?_⟩
    have htrigger :
        b.trigger n = perform (triggerHolding b.latches.size [n]) n (b.latch n).trigger b := by
      rw [Switchboard.trigger, fuel, triggerHolding, if_neg List.not_mem_nil]
    have hline : (b.latch n).trigger.line = none := by
      unfold Latch.trigger
      split <;> rfl
    simp [operate, htrigger, Operation.step, Operation.answer, hline]
  | poll =>
    refine ⟨fun _ b => (.returned, b), ?_⟩
    simp [operate, poll, perform, deliver, Operation.step, Operation.answer, setLatch_setLatch]
  | register listener replayPrevious =>
    refine ⟨triggerHolding b.fuel [n], ?_⟩
    rcases hperform : perform (triggerHolding b.fuel [n]) n
      ((b.latch n).register listener replayPrevious) b with ⟨_ | label | m, after⟩ <;>
    simp [operate, Switchboard.register, hperform, Operation.step]
    all_goals rfl

lemma Unchained.record_operate (h : b.Unchained) (n : Nat) (op : Operation Listener) :
    (operate n b op).2.record.toList = b.record.toList ++ (operate n b op).1.2.calls := by
  obtain ⟨fire, hoperate⟩ := operate_eq_perform n b op
  have hperform := h.perform n fire (op.step (b.latch n))
  rcases hresult : Switchboard.perform fire n (op.step (b.latch n)) b with ⟨ending, b'⟩
  simp only [hresult] at hoperate hperform
  have hgrows : ∃ calls l, Made (b.setLatch n l) calls b' := by
    cases hperform with
    | done made => exact ⟨_, _, made⟩
    | brokenOff pos le made loud => exact ⟨_, _, made⟩
  obtain ⟨calls, l, made⟩ := hgrows
  rw [hoperate]
  simp only
  rw [show b.record.size = (b.setLatch n l).record.size from rfl, made.drop_record]
  exact made.record

/-- An operation on latch `n` is this attempt of it. -/
structure IsAttempt (n : Nat) (b : Switchboard) (op : Operation Listener) (t : Attempt Listener) :
    Prop where
  op_eq : t.op = op
  returned : (operate n b op).1.1 = .returned ↔ ((b.latch n).attempt t).1.returned
  seen : (operate n b op).1.2 = ((b.latch n).attempt t).1.report.expand (heard b.label?)
  latches : (operate n b op).2.latches = (b.setLatch n ((b.latch n).attempt t).2).latches
  handlers : SameHandlers b (operate n b op).2
  returns : b.Quiet → ¬ t.Panics (b.latch n)

/-- Where no handler forwards a call, an operation is an attempt. -/
lemma Unchained.operate (h : b.Unchained) {n : Nat} (hn : n < b.latches.size)
    (op : Operation Listener) : ∃ t, IsAttempt n b op t := by
  obtain ⟨fire, hoperate⟩ := operate_eq_perform n b op
  have hperform := h.perform n fire (op.step (b.latch n))
  rcases hresult : Switchboard.perform fire n (op.step (b.latch n)) b with ⟨ending, b'⟩
  simp only [hresult] at hoperate hperform
  -- the attempt that panics at no call, or at the one that broke the step off
  cases hperform with
  | done made =>
    have hreturns : ¬ Attempt.Panics (b.latch n) ⟨op, 0⟩ := fun hpanics => Nat.lt_irrefl 0 hpanics.1
    have hlatch : b'.latch n = (op.step (b.latch n)).after := latch_of_latches hn made.latches
    have hcalls : b'.record.toList.drop b.record.size =
        (op.step (b.latch n)).calls.flatMap (heard b.label?) := made.drop_record
    refine ⟨⟨op, 0⟩, rfl, ?_, ?_, ?_, ?_, fun _ => hreturns⟩
    · simp [hoperate, Latch.attempt_of_not_panics hreturns]
    · rw [hoperate, Latch.attempt_of_not_panics hreturns]
      simp [hcalls, hlatch, Report.expand, Latch.perform]
    · rw [hoperate, Latch.attempt_of_not_panics hreturns]
      exact made.latches
    · rw [hoperate]
      exact made.handlers
  | @brokenOff _ k label pos le made loud =>
    have hpanics : Attempt.Panics (b.latch n) ⟨op, k⟩ := ⟨pos, le⟩
    have hanswer : op.answer (b.latch n) = none := by
      rcases hpanics.cases with ⟨a, rfl, -⟩ | ⟨a, rfl, -⟩ <;> rfl
    have hlatch : b'.latch n = (op.step (b.latch n)).during := latch_of_latches hn made.latches
    have hcalls : b'.record.toList.drop b.record.size =
        ((op.step (b.latch n)).calls.take k).flatMap (heard b.label?) := made.drop_record
    refine ⟨⟨op, k⟩, rfl, ?_, ?_, ?_, ?_, fun quiet => absurd quiet loud⟩
    · simp [hoperate, Latch.attempt_of_panics hpanics]
    · rw [hoperate, Latch.attempt_of_panics hpanics]
      simp [hcalls, hlatch, hanswer, Report.expand, Latch.Step.brokenOff]
    · rw [hoperate, Latch.attempt_of_panics hpanics]
      exact made.latches
    · rw [hoperate]
      exact made.handlers

/-- A run is a run of attempts: their operations are those of the run, and what is seen of the one
is what is seen of the other. -/
lemma Unchained.run (h : b.Unchained) {n : Nat} (hn : n < b.latches.size)
    (ops : List (Operation Listener)) :
    ∃ ts : List (Attempt Listener), ts.map (·.op) = ops ∧
      (Run.outcomes (Switchboard.operate n) b ops).map (fun o => (decide (o.1 = .returned), o.2)) =
        (Run.outcomes Latch.attempt (b.latch n) ts).map
          (fun e => (e.returned, e.report.expand (heard b.label?))) ∧
      (Run.final (Switchboard.operate n) b ops).latch n =
        Run.final Latch.attempt (b.latch n) ts := by
  induction ops generalizing b with
  | nil => exact ⟨[], rfl, rfl, rfl⟩
  | cons op rest ih =>
    obtain ⟨t, ht⟩ := h.operate hn op
    have hsize : n < (Switchboard.operate n b op).2.latches.size := by
      rw [ht.latches, size_setLatch]
      exact hn
    have hlatch : (Switchboard.operate n b op).2.latch n = ((b.latch n).attempt t).2 :=
      latch_of_latches hn ht.latches
    have hreturned : decide ((Switchboard.operate n b op).1.1 = .returned) =
        ((b.latch n).attempt t).1.returned :=
      Bool.eq_iff_iff.mpr (decide_eq_true_iff.trans ht.returned)
    obtain ⟨ts, hops, houtcomes, hfinal⟩ := ih (ht.handlers.unchained h) hsize
    rw [hlatch, ht.handlers.label] at houtcomes
    rw [hlatch] at hfinal
    refine ⟨t :: ts, ?_, ?_, hfinal⟩
    · rw [List.map_cons, ht.op_eq, hops]
    · rw [Run.outcomes_cons, Run.outcomes_cons, List.map_cons, List.map_cons, houtcomes,
        hreturned, ht.seen]

lemma Unchained.run_addLatch (h : b.Unchained) (mode : Granularity)
    (ops : List (Operation Listener)) :
    ∃ ts : List (Attempt Listener), ts.map (·.op) = ops ∧
      let start := (b.addLatch mode).2
      let n := b.latches.size
      (Run.outcomes (Switchboard.operate n) start ops).map
          (fun o => (decide (o.1 = .returned), o.2)) =
        (Run.outcomes Latch.attempt (.new mode) ts).map
          (fun e => (e.returned, e.report.expand (heard b.label?))) ∧
      (Run.final (Switchboard.operate n) start ops).latch n =
        Run.final Latch.attempt (.new mode) ts := by
  have hpresent : b.latches.size < (b.addLatch mode).2.latches.size := by simp [addLatch]
  have hnew : (b.addLatch mode).2.latch b.latches.size = .new mode := by
    simp [addLatch, Switchboard.latch]
  have hrun := Unchained.run (b := (b.addLatch mode).2) h hpresent ops
  rw [hnew] at hrun
  exact hrun

end Switchboard
end NullMiddleware
