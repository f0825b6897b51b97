import NullMiddleware.Proofs.Middleware.Phases

/-!
The calls that are refused.

Whether a context finishes, and whether it gives a node, depends on where it is on its way, and on
the names of the node. A call that is refused might as well not have been made.
-/

namespace NullMiddleware.Middleware

variable {m : Middleware} {c : Nat} {context : Context}

/-- The answer to a call for a node, by whether its context is shut down. What is checked first is
reported first. -/
structure Verdict (down : Bool) (name scope : String) (result : Except Failure Unit) : Prop where
  accepted : result = .ok () ↔ down = false ∧ name ≠ "" ∧ ∃ rest, scope = "/" ++ rest
  shutDown : down → result = .error .contextShutDown
  nameless : down = false → name = "" → result = .error .nodeNameEmpty
  relative : down = false → name ≠ "" → (¬ ∃ rest, scope = "/" ++ rest) →
    result = .error (.namespaceRelative scope)

/-- A call that is refused leaves all as it was, and writes nothing. -/
lemma Performed.refused {call : Call} {effect : Effect Answer} (hp : Performed m call effect)
    (refused : ¬ effect.result.isOk) : effect.state = m ∧ effect.lines = [] := by
  cases hp with
  | uninitialized | uncreated | unfinished | unacceptable => exact ⟨rfl, rfl⟩
  | _ => exact absurd rfl refused

variable {h : History}

lemma finish_result (hm : Consistent h m) (hc : m.context? c = some context) :
    (m.finish c).result = if context.isShutDown then .ok () else .error .contextNotShutDown := by
  rcases hdown : context.isShutDown
  · rw [finish_refused hc hdown]
    rfl
  · rw [finish_eq hc (hm.contexts.counts _ _ (context?_eq_some_iff.mp hc).1).1 hdown]
    rfl

lemma createNode_result (hm : Consistent h m) (hc : m.context? c = some context) (n : Nat)
    (name scope : String) : (m.createNode c n name scope).result = m.admitNode c name scope := by
  rcases hadmit : m.admitNode c name scope with cause | _
  · rw [createNode_refused hadmit]
  · rw [createNode_eq hc (hm.contexts.counts _ _ (context?_eq_some_iff.mp hc).1).1 hadmit]

lemma admitNode_verdict (hc : m.context? c = some context) (name scope : String) :
    Verdict context.isShutDown name scope (m.admitNode c name scope) := by
  have heq := admitNode_eq hc name scope
  refine ⟨admitNode_eq_ok_iff hc name scope, ?_, ?_, ?_⟩
  · intro down
    rw [heq, if_pos down]
  · rintro up rfl
    rw [heq, up]
    exact Node.checkName_empty scope
  · intro up hname relative
    rw [heq, up]
    exact Node.checkName_relative hname relative

/-! ### Runs -/

lemma step_consistent (hm : ∃ h, Consistent h m) (call : Call) :
    ∃ h, Consistent h (m.step call).2 := by
  obtain ⟨h, hm⟩ := hm
  unfold step
  rcases hp : m.perform call with _ | effect
  · exact ⟨h, hm⟩
  · exact ⟨_, (perform_accounted hm hp).state⟩

lemma step_unmade {call : Call} (hnone : (m.step call).1 = none) : (m.step call).2 = m := by
  unfold step at hnone ⊢
  rcases hp : m.perform call with _ | effect
  · rfl
  · simp [hp] at hnone

lemma step_performed (hm : ∃ h, Consistent h m) {call : Call} {e : Event}
    (he : (m.step call).1 = some e) :
    e.call = call ∧ e.before = m ∧ e.after = (m.step call).2 ∧
      Performed m call ⟨e.result, e.after, e.lines⟩ := by
  obtain ⟨h, hm⟩ := hm
  unfold step at he ⊢
  rcases hp : m.perform call with _ | effect
  · simp [hp] at he
  · simp only [hp, Option.some.injEq] at he
    subst he
    exact ⟨rfl, rfl, rfl, performed hm hp⟩

lemma events_performed (sequences : Registry Numbering) (calls : List Call) :
    ∀ e ∈ Run.events step (fresh sequences) calls,
      Performed e.before e.call ⟨e.result, e.after, e.lines⟩ := by
  refine (Run.keeps_events (P := fun m => ∃ h, Consistent h m) ?_
    ⟨{}, consistent_fresh sequences⟩).1
  intro m call _ hm
  refine ⟨?_, step_consistent hm call⟩
  intro e he
  obtain ⟨hcall, hbefore, -, hperformed⟩ := step_performed hm he
  rwa [hcall, hbefore]

lemma final_of_performed {P : Middleware → Prop}
    (kept : ∀ m call effect, Performed m call effect → P m → P effect.state)
    {sequences : Registry Numbering} (start : P (fresh sequences)) (calls : List Call) :
    P (Run.final step (fresh sequences) calls) := by
  have hkeeps : ∀ m, ∀ call ∈ calls, ((∃ h, Consistent h m) ∧ P m) →
      (∀ e ∈ (step m call).1, True) ∧ (∃ h, Consistent h (step m call).2) ∧ P (step m call).2 := by
    rintro m call - ⟨hm, hp⟩
    refine ⟨fun _ _ => trivial, step_consistent hm call, ?_⟩
    rcases hmade : (step m call).1 with _ | e
    · rwa [step_unmade hmade]
    · obtain ⟨-, -, hafter, hperformed⟩ := step_performed hm hmade
      rw [← hafter]
      exact kept _ _ _ hperformed hp
  exact (Run.keeps_events hkeeps ⟨⟨{}, consistent_fresh sequences⟩, start⟩).2.2

/-- **Refusals leave no trace.** A context is finished if and only if it is shut down, and gives
nodes to all who ask under proper names until then. Whatever is accepted moves it along its way.
Whatever is refused changes nothing and writes nothing, so all that follows is the same if some or
all of the refused calls are left out. -/
theorem refusals_leave_no_trace (sequences : Registry Numbering) (calls : List Call) :
    let start := fresh sequences
    let es := Run.events step start calls
    let m := Run.final step start calls
    (∀ c context, m.context? c = some context →
        (m.finish c).result =
            (if context.isShutDown then .ok () else .error .contextNotShutDown) ∧
          ∀ n name scope,
            Verdict context.isShutDown name scope (m.createNode c n name scope).result) ∧
      (∀ e ∈ es,
        (e.result.isOk → ∀ c, Moves c e.call (e.before.phase c) (e.after.phase c)) ∧
          (¬ e.result.isOk → e.after = e.before ∧ e.lines = [])) ∧
      ∀ pick : Event → Bool,
        let kept := es.filter fun e => e.result.isOk || pick e
        Run.events step start (kept.map (·.call)) = kept ∧
          Run.final step start (kept.map (·.call)) = m := by
  intro start es m
  have hstart : ∃ h, Consistent h start := ⟨{}, consistent_fresh sequences⟩
  have hstep : ∀ m, ∀ call ∈ calls, (∃ h, Consistent h m) →
      (∀ e ∈ (step m call).1, Performed e.before e.call ⟨e.result, e.after, e.lines⟩) ∧
        ∃ h, Consistent h (step m call).2 := by
    intro m call _ hm
    refine ⟨?_, step_consistent hm call⟩
    intro e he
    obtain ⟨hcall, hbefore, -, hperformed⟩ := step_performed hm he
    rwa [hcall, hbefore]
  obtain ⟨hevents, hist, hm⟩ := Run.keeps_events hstep hstart
  refine ⟨?_, ?_, ?_⟩
  · intro c context hc
    refine ⟨finish_result hm hc, ?_⟩
    intro n name scope
    rw [createNode_result hm hc]
    exact admitNode_verdict hc name scope
  · intro e he
    exact ⟨(hevents e he).moves, (hevents e he).refused⟩
  · intro pick
    refine Run.events_filter (P := fun m => ∃ h, Consistent h m)
      (fun m call hm => step_consistent hm call) ?_ ?_ hstart calls
    · intro m call hnone
      unfold step at hnone ⊢
      rcases hp : m.perform call with _ | effect
      · rfl
      · simp [hp] at hnone
    · intro m call e hm he
      obtain ⟨hcall, -, hafter, hperformed⟩ := step_performed hm he
      refine ⟨hcall, ?_⟩
      intro hleft
      rw [← hafter]
      refine (hperformed.refused ?_).1
      simp only [Bool.or_eq_false_iff] at hleft
      simp [hleft.1]

/-- A context is asked too early to finish, and for nodes under bad names and too late. The run is
the same without the four refused calls. -/
theorem refusals_before_and_after_shutdown :
    let early : List Call :=
      [.init 1 { enclave := some "/" } 0, .finish 1, .createNode 1 10 "" "x",
        .createNode 1 10 "a" "x", .createNode 1 10 "a" "/", .shutdown 1]
    let late : List Call :=
      [.createNode 1 11 "" "x", .createEndpoint 10 .publisher "/t" {}, .finish 1]
    let start := fresh .empty
    let kept := (Run.events step start (early ++ late)).filter fun e => e.result.isOk || false
    let m := Run.final step start early
    kept.length = 5 ∧ Run.events step start (kept.map (·.call)) = kept ∧
      (m.finish 1).result = .ok () ∧
      (m.createNode 1 11 "" "x").result = .error .contextShutDown := by
  intro early late start kept m
  have hlength : kept.length = 5 := by decide +kernel
  have hdown : (m.context? 1).map (·.isShutDown) = some true := by decide +kernel
  obtain ⟨context, hc, hdown⟩ := Option.map_eq_some_iff.mp hdown
  obtain ⟨hresults, -, -⟩ := refusals_leave_no_trace .empty early
  obtain ⟨-, -, hkept⟩ := refusals_leave_no_trace .empty (early ++ late)
  obtain ⟨hfinish, hverdict⟩ := hresults 1 context hc
  refine ⟨hlength, (hkept fun _ => false).1, ?_, (hverdict 11 "" "x").shutDown hdown⟩
  rw [hfinish, if_pos hdown]

end NullMiddleware.Middleware
