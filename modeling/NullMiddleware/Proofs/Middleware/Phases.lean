import NullMiddleware.Proofs.Middleware.Outcomes

/-!
The way of a context.

A context is initialized, then shut down, then finished; its user may also let it go at any time.
Nodes come and go without moving it.
-/

namespace NullMiddleware.Middleware

/-- Where a context is on its way, as its user knows it. -/
inductive Phase
  /-- Not initialized, or finished, or let go. -/
  | absent
  | initialized
  | shutDown
  deriving DecidableEq

def phase (m : Middleware) (c : Nat) : Phase :=
  match m.context? c with
  | none => .absent
  | some context => if context.isShutDown then .shutDown else .initialized

/-- The context that a call moves on. -/
def Call.moved? : Call → Option Nat
  | .init c _ _ | .shutdown c | .finish c | .letGo c => some c
  | _ => none

/-- The moves of context `c`. -/
inductive Moves (c : Nat) : Call → Phase → Phase → Prop
  | initialized {o : ContextOptions} {q : Nat} : Moves c (.init c o q) .absent .initialized
  | shutDown {p : Phase} (there : p ≠ .absent) : Moves c (.shutdown c) p .shutDown
  | finished : Moves c (.finish c) .shutDown .absent
  | letGo {p : Phase} (there : p ≠ .absent) : Moves c (.letGo c) p .absent
  | aside {call : Call} {p : Phase} (other : call.moved? ≠ some c) : Moves c call p p

variable {m m' : Middleware} {c d : Nat} {context : Context}

lemma phase_of_some (h : m.context? c = some context) :
    m.phase c = if context.isShutDown then .shutDown else .initialized := by
  simp only [phase, h]

lemma phase_of_none (h : m.context? c = none) : m.phase c = .absent := by
  simp only [phase, h]

lemma phase_ne_absent (h : m.context? c = some context) : m.phase c ≠ .absent := by
  rw [phase_of_some h]
  split <;> simp

lemma exists_of_phase (h : m.phase c ≠ .absent) : ∃ context, m.context? c = some context := by
  rcases hc : m.context? c with _ | context
  · exact absurd (phase_of_none hc) h
  · exact ⟨context, rfl⟩

lemma phase_congr (h : m'.contexts = m.contexts) (c : Nat) : m'.phase c = m.phase c := by
  unfold phase context?
  rw [h]

lemma context?_of_set {x : Option Context} (h : m'.contexts = m.contexts.set d x) :
    m'.context? c = if c = d then x.filter Context.held else m.context? c := by
  unfold context?
  rw [h, Registry.get?_set]
  split <;> rfl

lemma phase_of_set_other {x : Option Context} (h : m'.contexts = m.contexts.set d x)
    (other : c ≠ d) : m'.phase c = m.phase c := by
  unfold phase
  rw [context?_of_set h, if_neg other]

lemma phase_withNodes {k : Nat} (hc : m.contexts.get? d = some context) {p : Prop} [Decidable p]
    (gone : p → context.held = false)
    (h : m'.contexts = m.contexts.set d (if p then none else some (context.withNodes k)))
    (c : Nat) : m'.phase c = m.phase c := by
  by_cases hcd : c = d
  · subst hcd
    have hafter := context?_of_set (c := c) h
    rw [if_pos rfl] at hafter
    rcases hheld : context.held
    · have hbefore : m.context? c = none := by simp [context?, hc, hheld]
      have hnone : m'.context? c = none := by
        rw [hafter]
        split <;> simp [Context.withNodes, hheld]
      rw [phase_of_none hbefore, phase_of_none hnone]
    · have hbefore : m.context? c = some context := by simp [context?, hc, hheld]
      have hsome : m'.context? c = some (context.withNodes k) := by
        rw [hafter, if_neg (by simpa [hheld] using gone)]
        simp [Context.withNodes, hheld]
      rw [phase_of_some hbefore, phase_of_some hsome]
      rfl
  · exact phase_of_set_other h hcd

lemma Moves.stay {call : Call} (other : call.moved? ≠ some c) (same : m'.phase c = m.phase c) :
    Moves c call (m.phase c) (m'.phase c) := by
  rw [same]
  exact .aside other

lemma Moves.of_set {call : Call} {x : Option Context} (h : m'.contexts = m.contexts.set d x)
    (target : call.moved? = some d) (here : Moves d call (m.phase d) (m'.phase d)) (c : Nat) :
    Moves c call (m.phase c) (m'.phase c) := by
  by_cases hcd : c = d
  · exact hcd ▸ here
  · refine .stay ?_ (phase_of_set_other h hcd)
    rw [target, Ne, Option.some_inj]
    exact Ne.symm hcd

lemma phase_let_go {k : Nat} (h : m'.contexts = m.contexts.set c
      (if k = 0 then none else some ({ context with held := false }.withNodes k))) :
    m'.phase c = .absent := by
  refine phase_of_none ?_
  rw [context?_of_set h, if_pos rfl]
  split <;> simp [Context.withNodes]

lemma phase_shutdown (hc : m.context? c = some context)
    (h : m'.contexts = m.contexts.put c context.shutdown.1) : m'.phase c = .shutDown := by
  have hafter : m'.context? c = some context.shutdown.1 := by
    rw [context?_eq_some_iff, h, Registry.get?_put, if_pos rfl]
    exact ⟨rfl, (context?_eq_some_iff.mp hc).2⟩
  rw [phase_of_some hafter]
  rfl

lemma init_up {o : ContextOptions} {q : Nat} {lines : List LogLine}
    (h : Context.init o q = (.ok context, lines)) : context.isShutDown = false := by
  unfold Context.init at h
  rcases hp : o.participant with cause | p
  · simp [hp] at h
  · simp only [hp, Prod.mk.injEq, Except.ok.injEq] at h
    rw [← h.1]
    rfl

/-- An accepted call moves contexts along their way. -/
lemma Performed.moves {call : Call} {effect : Effect Answer} (hp : Performed m call effect)
    (accepted : effect.result.isOk) (c : Nat) :
    Moves c call (m.phase c) (effect.state.phase c) := by
  cases hp with
  | @initialized d q o context lines unused done =>
    obtain ⟨-, held, -⟩ := Context.shelters_init done
    refine .of_set (x := some context) rfl rfl ?_ c
    have hbefore : m.context? d = none := by simp [context?, unused]
    have hafter : Middleware.context? { m with contexts := m.contexts.put d context } d =
        some context := by
      simp [context?, Registry.get?_put, held]
    rw [phase_of_none hbefore, phase_of_some hafter, init_up done]
    exact .initialized
  | @created d n k name scope context there =>
    have hget := (context?_eq_some_iff.mp there).1
    exact .stay (by simp [Call.moved?]) (phase_withNodes hget (p := False) False.elim rfl c)
  | dropped there home =>
    exact .stay (by simp [Call.moved?]) (phase_withNodes home And.right rfl c)
  | @shutDown d context there =>
    refine .of_set (x := some context.shutdown.1) rfl rfl ?_ c
    convert Moves.shutDown (phase_ne_absent there) using 1
    exact phase_shutdown there rfl
  | finished there shelters down =>
    refine .of_set rfl rfl ?_ c
    rw [phase_of_some there, if_pos down]
    convert Moves.finished using 1
    exact phase_let_go rfl
  | letGo there =>
    refine .of_set rfl rfl ?_ c
    convert Moves.letGo (phase_ne_absent there) using 1
    exact phase_let_go rfl
  | endpoint | guard | loneGuard => exact .aside (by simp [Call.moved?])
  | uninitialized | uncreated | unfinished | unacceptable =>
    simp [Except.isOk, Except.toBool] at accepted

end NullMiddleware.Middleware
