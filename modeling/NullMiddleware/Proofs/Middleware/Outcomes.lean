import NullMiddleware.Proofs.Middleware.Nodes

/-!
What a call on contexts and nodes can come to.

There is one case for each outcome of each call. It says in what state the call finds the
middleware, what it answers and writes, and what is left afterwards; a call that is refused leaves
all as it was.
-/

namespace NullMiddleware

lemma startsWithSlash_iff (s : String) : startsWithSlash s ↔ ∃ rest, s = "/" ++ rest := by
  unfold startsWithSlash
  constructor
  · intro h
    rcases hs : s.toList with _ | ⟨c, rest⟩
    · simp [hs] at h
    · obtain rfl : c = '/' := by simpa [hs] using h
      refine ⟨String.ofList rest, ?_⟩
      rw [← String.toList_inj, String.toList_append, String.toList_ofList, hs]
      simp
  · rintro ⟨rest, rfl⟩
    simp

namespace Node

lemma checkName_eq_ok_iff (name scope : String) :
    checkName name scope = .ok () ↔ name ≠ "" ∧ ∃ rest, scope = "/" ++ rest := by
  rw [← startsWithSlash_iff]
  by_cases hname : name = "" <;> cases hscope : startsWithSlash scope <;>
    simp [checkName, hname, hscope]

lemma checkName_empty (scope : String) : checkName "" scope = .error .nodeNameEmpty := rfl

lemma checkName_relative {name scope : String} (hname : name ≠ "")
    (relative : ¬ ∃ rest, scope = "/" ++ rest) :
    checkName name scope = .error (.namespaceRelative scope) := by
  rw [← startsWithSlash_iff] at relative
  simp [checkName, hname, relative]

end Node

/-- The names that endpoints may have: services and clients any but the empty one, publishers and
subscriptions an absolute one, unless their profile avoids the conventions. -/
def Role.Accepts (role : Role) (name : String) (qos : QosProfile) : Prop :=
  name ≠ "" ∧
    (role = .publisher ∨ role = .subscription →
      qos.avoidNamespaceConventions ∨ ∃ rest, name = "/" ++ rest)

lemma Role.checkName_eq_ok_iff (role : Role) (name : String) (qos : QosProfile) :
    role.checkName name qos = .ok () ↔ role.Accepts name qos := by
  unfold Role.Accepts
  rw [← startsWithSlash_iff]
  by_cases hname : name = ""
  · cases role <;> simp [Role.checkName, hname]
  · cases role <;> cases hconv : qos.avoidNamespaceConventions <;>
      cases hslash : startsWithSlash name <;> simp [Role.checkName, hname, hconv, hslash]

namespace Middleware

variable {m : Middleware}

/-- What is checked when a context is asked for a node, in this order. -/
lemma admitNode_eq {c : Nat} {context : Context} (h : m.context? c = some context)
    (name scope : String) :
    m.admitNode c name scope =
      if context.isShutDown then .error .contextShutDown else Node.checkName name scope := by
  simp only [admitNode, h]

lemma admitNode_eq_ok_iff {c : Nat} {context : Context} (h : m.context? c = some context)
    (name scope : String) :
    m.admitNode c name scope = .ok () ↔
      context.isShutDown = false ∧ name ≠ "" ∧ ∃ rest, scope = "/" ++ rest := by
  rw [admitNode_eq h, ← Node.checkName_eq_ok_iff]
  cases context.isShutDown <;> simp

/-- The outcomes of a call. -/
inductive Performed (m : Middleware) : Call → Effect Answer → Prop
  | initialized {c q : Nat} {o : ContextOptions} {context : Context} {lines : List LogLine}
    (unused : m.contexts.get? c = none) (done : Context.init o q = (.ok context, lines)) :
    Performed m (.init c o q)
      ⟨.ok none, { m with contexts := m.contexts.put c context }, lines⟩
  | uninitialized {c q : Nat} {o : ContextOptions} {cause : Failure}
    (unused : m.contexts.get? c = none) (refused : o.participant = .error cause) :
    Performed m (.init c o q) ⟨.error cause, m, []⟩
  | created {c n k : Nat} {name scope : String} {context : Context}
    (there : m.context? c = some context) (shelters : context.Shelters k)
    (unused : m.nodes.get? n = none) (admitted : m.admitNode c name scope = .ok ()) :
    Performed m (.createNode c n name scope)
      ⟨.ok none,
        { sequences := (m.draw context.sequences .guardConditions).2.sequences
          contexts := m.contexts.put c (context.withNodes (k + 1))
          nodes := m.nodes.put n (m.newNode c context name scope) },
        (if k = 0 then context.arrival else []) ++ [.nodeCreated name scope]⟩
  | uncreated {c n : Nat} {name scope : String} {context : Context} {cause : Failure}
    (there : m.context? c = some context) (unused : m.nodes.get? n = none)
    (refused : m.admitNode c name scope = .error cause) :
    Performed m (.createNode c n name scope) ⟨.error cause, m, []⟩
  | dropped {n k : Nat} {node : Node} {context : Context} (there : m.nodes.get? n = some node)
    (home : m.contexts.get? node.context = some context) (shelters : context.Shelters (k + 1)) :
    Performed m (.dropNode n)
      ⟨.ok none,
        { m with
          contexts := m.contexts.set node.context
            (if k = 0 ∧ context.held = false then none else some (context.withNodes k))
          nodes := m.nodes.erase n },
        .nodeDestroyed node.qualifiedName :: (if k = 0 then context.departure else [])⟩
  | shutDown {c : Nat} {context : Context} (there : m.context? c = some context) :
    Performed m (.shutdown c)
      ⟨.ok none, { m with contexts := m.contexts.put c context.shutdown.1 },
        [.contextShutDown context.instanceId]⟩
  | finished {c k : Nat} {context : Context} (there : m.context? c = some context)
    (shelters : context.Shelters k) (down : context.isShutDown) :
    Performed m (.finish c)
      ⟨.ok none,
        { m with
          contexts := m.contexts.set c
            (if k = 0 then none else some ({ context with held := false }.withNodes k)) },
        (if k = 0 then [] else [.nodesLeft k]) ++ [.contextFinished context.instanceId]⟩
  | unfinished {c : Nat} {context : Context} (there : m.context? c = some context)
    (up : context.isShutDown = false) :
    Performed m (.finish c) ⟨.error .contextNotShutDown, m, []⟩
  | letGo {c k : Nat} {context : Context} (there : m.context? c = some context)
    (shelters : context.Shelters k) :
    Performed m (.letGo c)
      ⟨.ok none,
        { m with
          contexts := m.contexts.set c
            (if k = 0 then none else some ({ context with held := false }.withNodes k)) },
        []⟩
  | endpoint {n : Nat} {node : Node} {role : Role} {name : String} {qos : QosProfile}
    (there : m.nodes.get? n = some node) (accepted : role.checkName name qos = .ok ()) :
    Performed m (.createEndpoint n role name qos)
      ⟨.ok (some (m.draw node.sequences role.kind).1), (m.draw node.sequences role.kind).2,
        [.endpointCreated role (m.draw node.sequences role.kind).1 name]⟩
  | unacceptable {n : Nat} {node : Node} {role : Role} {name : String} {qos : QosProfile}
    {cause : Failure} (there : m.nodes.get? n = some node)
    (refused : role.checkName name qos = .error cause) :
    Performed m (.createEndpoint n role name qos) ⟨.error cause, m, []⟩
  | guard {c : Nat} {context : Context} (there : m.context? c = some context) :
    Performed m (.createGuardCondition c)
      ⟨.ok (some (m.draw context.sequences .guardConditions).1),
        (m.draw context.sequences .guardConditions).2, []⟩
  | loneGuard (q : Nat) :
    Performed m (.createLoneGuard q)
      ⟨.ok (some (m.draw q .guardConditions).1), (m.draw q .guardConditions).2, []⟩

lemma init_performed {c : Nat} (unused : m.contexts.get? c = none) (o : ContextOptions)
    (q : Nat) : Performed m (.init c o q) (m.init c o q).silent := by
  rcases hp : o.participant with cause | p
  · have hinit : Context.init o q = (.error cause, []) := by simp only [Context.init, hp]
    simp only [init, hinit, Effect.silent]
    exact .uninitialized unused hp
  · obtain ⟨context, lines, hinit⟩ : ∃ context lines, Context.init o q = (.ok context, lines) := by
      simp only [Context.init, hp]
      exact ⟨_, _, rfl⟩
    simp only [init, hinit, Effect.silent]
    exact .initialized unused hinit

lemma createEndpoint_performed {n : Nat} {node : Node} (hn : m.nodes.get? n = some node)
    (role : Role) (name : String) (qos : QosProfile) :
    Performed m (.createEndpoint n role name qos)
      ⟨(m.createEndpoint node role name qos).result.map some,
        (m.createEndpoint node role name qos).state,
        (m.createEndpoint node role name qos).lines⟩ := by
  rcases hname : role.checkName name qos with cause | _
  · simp only [createEndpoint, hname]
    exact .unacceptable hn hname
  · simp only [createEndpoint, hname]
    exact .endpoint hn hname

variable {h : History}

/-- Every call that can be made comes to one of its outcomes. -/
theorem performed (hm : Consistent h m) {call : Call} {effect : Effect Answer}
    (hp : m.perform call = some effect) : Performed m call effect := by
  have shelters : ∀ {c context}, m.context? c = some context →
      context.Shelters (h.nodesOf c) := fun hc =>
    (hm.contexts.counts _ _ (context?_eq_some_iff.mp hc).1).1
  unfold perform at hp
  cases call with
  | init c o q =>
    rcases hc : m.contexts.get? c with _ | context
    · simp only [hc, Option.some.injEq] at hp
      exact hp ▸ init_performed hc o q
    · simp [hc] at hp
  | createNode c n name scope =>
    rcases hc : m.context? c with _ | context
    · simp [hc] at hp
    · rcases hn : m.nodes.get? n with _ | node
      · simp only [hc, hn, Option.some.injEq] at hp
        rcases hadmit : m.admitNode c name scope with cause | _
        · rw [createNode_refused hadmit] at hp
          exact hp ▸ .uncreated hc hn hadmit
        · rw [createNode_eq hc (shelters hc) hadmit] at hp
          exact hp ▸ .created hc (shelters hc) hn hadmit
      · simp [hc, hn] at hp
  | dropNode n =>
    rcases hn : m.nodes.get? n with _ | node
    · simp [hn] at hp
    · -- the context counts the node at least
      obtain ⟨r, hr, rfl, context, hc, hnode, hshelters⟩ := hm.home hn
      obtain ⟨k, hk⟩ := Nat.exists_eq_add_one.mpr (nodesOf_pos hr)
      rw [hk] at hshelters
      simp only [hn, dropNode_eq hn (hnode ▸ hc) hshelters, Option.some.injEq] at hp
      exact hp ▸ .dropped hn (hnode ▸ hc) hshelters
  | shutdown c =>
    rcases hc : m.context? c with _ | context
    · simp [hc] at hp
    · simp only [hc, shutdown_eq hc, Option.some.injEq] at hp
      exact hp ▸ .shutDown hc
  | finish c =>
    rcases hc : m.context? c with _ | context
    · simp [hc] at hp
    · simp only [hc, Option.some.injEq] at hp
      rcases hdown : context.isShutDown
      · rw [finish_refused hc hdown] at hp
        exact hp ▸ .unfinished hc hdown
      · rw [finish_eq hc (shelters hc) hdown] at hp
        exact hp ▸ .finished hc (shelters hc) hdown
  | letGo c =>
    rcases hc : m.context? c with _ | context
    · simp [hc] at hp
    · simp only [hc, letGo_eq hc (shelters hc), Option.some.injEq] at hp
      exact hp ▸ .letGo hc (shelters hc)
  | createEndpoint n role name qos =>
    rcases hn : m.nodes.get? n with _ | node
    · simp [hn] at hp
    · simp only [hn, Option.some.injEq] at hp
      exact hp ▸ createEndpoint_performed hn role name qos
  | createGuardCondition c =>
    rcases hc : m.context? c with _ | context
    · simp [hc] at hp
    · simp only [hc, Option.some.injEq] at hp
      exact hp ▸ .guard hc
  | createLoneGuard q =>
    simp only [Option.some.injEq] at hp
    exact hp ▸ .loneGuard q

end Middleware
end NullMiddleware
