import NullMiddleware.Proofs.Middleware.Outcomes

/-!
Where ids come from.

A context draws from the sequences that it was initialized with, a node from those of its context,
as long as it lives. Each accepted creation draws one id, of its own kind; no other call draws any.
-/

namespace NullMiddleware.Middleware

variable {m : Middleware}

/-- The next id of sequences `q` for a kind of entity. -/
def nextId (m : Middleware) (q : Nat) (kind : EntityKind) : UInt64 :=
  ((m.sequencesOf q).get kind).next

/-- The kind of entity that a call creates. A node comes with a guard condition. -/
def Call.kind? : Call → Option EntityKind
  | .createNode _ _ _ _ | .createGuardCondition _ | .createLoneGuard _ => some .guardConditions
  | .createEndpoint _ role _ _ => some role.kind
  | _ => none

def Event.id? (e : Event) : Option UInt64 :=
  match e.call, e.result with
  | .createNode _ n _ _, .ok _ => (e.after.nodes.get? n).map (·.graphGuard)
  | _, .ok id => id
  | _, .error _ => none

lemma nextId_draw (m : Middleware) (q r : Nat) (kind j : EntityKind) :
    (m.draw q kind).2.nextId r j =
      m.nextId r j + if some (q, kind) = some (r, j) then 1 else 0 := by
  simp only [nextId, draw, sequencesOf, Numbering.draw, Registry.get?_put, Option.some.injEq,
    Prod.mk.injEq]
  by_cases hr : r = q
  · subst hr
    rw [if_pos rfl, Option.getD_some, Numbering.get_set]
    by_cases hj : j = kind
    · subst hj
      simp
    · simp [hj, Ne.symm hj]
  · simp [hr, Ne.symm hr]

lemma nextId_congr {m' : Middleware} (h : m'.sequences = m.sequences) (q : Nat)
    (kind : EntityKind) : m'.nextId q kind = m.nextId q kind := by
  rw [nextId, sequencesOf, h]
  rfl

/-- What a call does to the ids, if it draws one of the given origin, or none: the next one is
given to what is created, and the one after that is next then. -/
def Draws (m : Middleware) (origin : Option (Nat × EntityKind)) (id : Option UInt64)
    (after : Middleware) : Prop :=
  (∀ q kind, after.nextId q kind =
      m.nextId q kind + if origin = some (q, kind) then 1 else 0) ∧
    ∀ q kind, origin = some (q, kind) → id = some (m.nextId q kind)

lemma draws_none {after : Middleware}
    (same : ∀ q kind, after.nextId q kind = m.nextId q kind) (id : Option UInt64) :
    Draws m none id after := by
  refine ⟨?_, by simp⟩
  intro q kind
  rw [same, if_neg (by simp), UInt64.add_zero]

lemma draws_some {q : Nat} {kind : EntityKind} {after : Middleware}
    (drawn : after.sequences = (m.draw q kind).2.sequences) :
    Draws m (some (q, kind)) (some (m.nextId q kind)) after := by
  refine ⟨?_, by rintro r j ⟨⟩; rfl⟩
  intro r j
  rw [nextId_congr drawn, nextId_draw]

/-! ### The sequences of contexts and nodes -/

/-- The sequences of the last context and of the last node of each number, by the calls that were
accepted. -/
structure Sources where
  contexts : Registry Nat := .empty
  nodes : Registry Nat := .empty

namespace Sources

def next (s : Sources) : Call → Sources
  | .init c _ q => { s with contexts := s.contexts.put c q }
  | .createNode c n _ _ => { s with nodes := s.nodes.set n (s.contexts.get? c) }
  | _ => s

def of? (s : Sources) : Call → Option Nat
  | .createNode c _ _ _ | .createGuardCondition c => s.contexts.get? c
  | .createEndpoint n _ _ _ => s.nodes.get? n
  | .createLoneGuard q => some q
  | _ => none

def origin? (s : Sources) (call : Call) : Option (Nat × EntityKind) := do
  return (← s.of? call, ← call.kind?)

/-- The contexts and nodes that are there have these sequences. -/
structure Fits (s : Sources) (m : Middleware) : Prop where
  contexts : ∀ c context, m.contexts.get? c = some context →
    s.contexts.get? c = some context.sequences
  nodes : ∀ n node, m.nodes.get? n = some node → s.nodes.get? n = some node.sequences

variable {s : Sources}

namespace Fits

lemma fresh (sequences : Registry Numbering) : Fits {} (fresh sequences) where
  contexts := fun _ _ h => by cases h
  nodes := fun _ _ h => by cases h

lemma context (h : s.Fits m) {c : Nat} {context : Context} (hc : m.context? c = some context) :
    s.contexts.get? c = some context.sequences :=
  h.contexts c context (context?_eq_some_iff.mp hc).1

lemma setContext (h : s.Fits m) {c : Nat} {context : Context}
    (hc : m.contexts.get? c = some context) (context' : Option Context)
    (same : ∀ x ∈ context', x.sequences = context.sequences) :
    s.Fits { m with contexts := m.contexts.set c context' } := by
  refine ⟨?_, h.nodes⟩
  intro d x hx
  rw [Registry.get?_set] at hx
  by_cases hd : d = c
  · rw [if_pos hd] at hx
    rw [hd, h.contexts c context hc, same x hx]
  · rw [if_neg hd] at hx
    exact h.contexts d x hx

lemma init (h : s.Fits m) {c q : Nat} {o : ContextOptions} {context : Context}
    {lines : List LogLine} (done : Context.init o q = (.ok context, lines)) :
    (s.next (.init c o q)).Fits { m with contexts := m.contexts.put c context } := by
  obtain ⟨-, -, -, hsequences⟩ := Context.shelters_init done
  refine ⟨?_, h.nodes⟩
  intro d x hx
  simp only [next, Registry.get?_put] at hx ⊢
  by_cases hd : d = c
  · simp only [hd, if_true, Option.some.injEq] at hx ⊢
    rw [← hx, hsequences]
  · simp only [hd, if_false] at hx ⊢
    exact h.contexts d x hx

lemma createNode (h : s.Fits m) {c n k : Nat} {name scope : String} {context : Context}
    (hc : m.context? c = some context) :
    (s.next (.createNode c n name scope)).Fits
      { sequences := (m.draw context.sequences .guardConditions).2.sequences
        contexts := m.contexts.put c (context.withNodes (k + 1))
        nodes := m.nodes.put n (m.newNode c context name scope) } := by
  have hcontexts := (h.setContext (context?_eq_some_iff.mp hc).1
    (some (context.withNodes (k + 1))) (by rintro x ⟨⟩; rfl)).contexts
  refine ⟨hcontexts, ?_⟩
  intro j node hnode
  simp only [next, h.context hc, Registry.set, Registry.get?_put] at hnode ⊢
  by_cases hj : j = n
  · simp only [hj, if_true, Option.some.injEq] at hnode ⊢
    rw [← hnode]
    rfl
  · simp only [hj, if_false] at hnode ⊢
    exact h.nodes j node hnode

lemma letGo (h : s.Fits m) {c k : Nat} {context : Context} (hc : m.context? c = some context) :
    s.Fits
      { m with
        contexts := m.contexts.set c
          (if k = 0 then none else some ({ context with held := false }.withNodes k)) } := by
  refine h.setContext (context?_eq_some_iff.mp hc).1 _ ?_
  intro x hx
  split at hx
  · cases hx
  · cases hx
    rfl

lemma dropNode (h : s.Fits m) {n k : Nat} {node : Node} {context : Context}
    (hc : m.contexts.get? node.context = some context) :
    s.Fits
      { m with
        contexts := m.contexts.set node.context
          (if k = 0 ∧ context.held = false then none else some (context.withNodes k))
        nodes := m.nodes.erase n } := by
  have hcontexts := h.setContext hc
    (if k = 0 ∧ context.held = false then none else some (context.withNodes k)) (by
      intro x hx
      split at hx
      · cases hx
      · cases hx
        rfl)
  refine ⟨hcontexts.contexts, ?_⟩
  intro j other hother
  rw [Registry.get?_erase] at hother
  by_cases hj : j = n
  · simp [hj] at hother
  · rw [if_neg hj] at hother
    exact h.nodes j other hother

/-- Contexts and nodes keep their sequences, whatever is called. -/
lemma performed (h : s.Fits m) {call : Call} {effect : Effect Answer}
    (hp : Performed m call effect) :
    (if effect.result.isOk then s.next call else s).Fits effect.state := by
  cases hp with
  | initialized unused done => exact h.init done
  | created there => exact h.createNode there
  | dropped there home => exact h.dropNode home
  | @shutDown c context there =>
    exact h.setContext (context?_eq_some_iff.mp there).1 (some context.shutdown.1)
      (by rintro x ⟨⟩; rfl)
  | finished there => exact h.letGo there
  | letGo there => exact h.letGo there
  | endpoint | guard | loneGuard => exact ⟨h.contexts, h.nodes⟩
  | uninitialized | uncreated | unfinished | unacceptable => exact h

/-- An accepted creation draws the next id of its kind, and no other call draws any. -/
lemma draws (h : s.Fits m) {call : Call} {effect : Effect Answer}
    (hp : Performed m call effect) :
    Draws m (if effect.result.isOk then s.origin? call else none)
      (Event.id? ⟨call, m, effect.result, effect.lines, effect.state⟩) effect.state := by
  cases hp with
  | created there =>
    simp only [Except.isOk, Except.toBool, if_true, origin?, of?, h.context there, Event.id?,
      Registry.get?_put, Option.map_some]
    exact draws_some rfl
  | endpoint there =>
    simp only [Except.isOk, Except.toBool, if_true, origin?, of?, h.nodes _ _ there]
    exact draws_some rfl
  | guard there =>
    simp only [Except.isOk, Except.toBool, if_true, origin?, of?, h.context there]
    exact draws_some rfl
  | loneGuard r => exact draws_some rfl
  | initialized | dropped | shutDown | finished | letGo => exact draws_none (nextId_congr rfl) _
  | uninitialized | uncreated | unfinished | unacceptable => exact draws_none (nextId_congr rfl) _

lemma isSome_origin? (h : s.Fits m) {call : Call} {effect : Effect Answer}
    (hp : Performed m call effect) : (s.origin? call).isSome ↔ call.kind?.isSome := by
  cases hp with
  | created there => simp [origin?, of?, h.context there, Call.kind?]
  | uncreated there => simp [origin?, of?, h.context there, Call.kind?]
  | guard there => simp [origin?, of?, h.context there, Call.kind?]
  | endpoint there => simp [origin?, of?, h.nodes _ _ there, Call.kind?]
  | unacceptable there => simp [origin?, of?, h.nodes _ _ there, Call.kind?]
  | loneGuard r => exact iff_of_true rfl rfl
  | _ => simp [origin?, of?, Call.kind?]

end Fits
end Sources

/-- The creations that are accepted. -/
def Accepts (m : Middleware) : Call → Prop
  | .createNode c _ name scope =>
    (∀ context, m.context? c = some context → context.isShutDown = false) ∧ name ≠ "" ∧
      ∃ rest, scope = "/" ++ rest
  | .createEndpoint _ role name qos => role.Accepts name qos
  | _ => True

lemma Performed.isOk_iff {call : Call} {effect : Effect Answer} (hp : Performed m call effect)
    (creation : call.kind?.isSome) : effect.result.isOk ↔ m.Accepts call := by
  cases hp with
  | @created c n k name scope context there shelters unused admitted =>
    obtain ⟨hup, hnames⟩ := (admitNode_eq_ok_iff there name scope).mp admitted
    refine iff_of_true rfl ⟨?_, hnames⟩
    intro x hx
    rw [there, Option.some_inj] at hx
    rw [← hx, hup]
  | @uncreated c n name scope context cause there unused refused =>
    refine iff_of_false (by simp [Except.isOk, Except.toBool]) ?_
    rintro ⟨hup, hnames⟩
    have admitted := (admitNode_eq_ok_iff there name scope).mpr ⟨hup context there, hnames⟩
    rw [refused] at admitted
    cases admitted
  | endpoint there accepted => exact iff_of_true rfl ((Role.checkName_eq_ok_iff _ _ _).mp accepted)
  | unacceptable there refused =>
    refine iff_of_false (by simp [Except.isOk, Except.toBool]) ?_
    intro haccepts
    have accepted := (Role.checkName_eq_ok_iff _ _ _).mpr haccepts
    rw [refused] at accepted
    cases accepted
  | guard | loneGuard => exact iff_of_true rfl trivial
  | _ => simp [Call.kind?] at creation

end NullMiddleware.Middleware
