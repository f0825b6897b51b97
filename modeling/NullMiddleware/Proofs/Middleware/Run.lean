import NullMiddleware.Middleware
import NullMiddleware.Proofs.Context
import NullMiddleware.Proofs.Run

/-!
What the users of a process do with its contexts and nodes.

Contexts and nodes are known by numbers. A number stands for one object at a time: that of a
context is free again when the context has no owner left, that of a node when the node is dropped.
-/

namespace NullMiddleware.Middleware

inductive Call
  | init (c : Nat) (options : ContextOptions) (q : Nat)
  | createNode (c n : Nat) (name scope : String)
  | dropNode (n : Nat)
  | shutdown (c : Nat)
  | finish (c : Nat)
  | letGo (c : Nat)
  | createEndpoint (n : Nat) (role : Role) (name : String) (qos : QosProfile)
  | createGuardCondition (c : Nat)
  /-- A guard condition that belongs to no context draws its id. -/
  | createLoneGuard (q : Nat)

/-- The answer of a call: the id of what it made, if it has one of its own. -/
abbrev Answer := Except Failure (Option UInt64)

def Effect.silent (e : Effect (Except Failure Unit)) : Effect Answer :=
  { result := e.result.map fun _ => none, state := e.state, lines := e.lines }

/-- What comes of a call, if it can be made: on a number that is free for a new object, and on an
object that the user has for all other calls. -/
def perform (m : Middleware) : Call → Option (Effect Answer)
  | .init c options q =>
    match m.contexts.get? c with
    | some _ => none
    | none => some (m.init c options q).silent
  | .createNode c n name scope =>
    match m.context? c, m.nodes.get? n with
    | some _, none => some (m.createNode c n name scope).silent
    | _, _ => none
  | .dropNode n =>
    match m.nodes.get? n with
    | none => none
    | some _ =>
      let effect := m.dropNode n
      some { result := .ok none, state := effect.state, lines := effect.lines }
  | .shutdown c =>
    match m.context? c with
    | none => none
    | some _ =>
      let effect := m.shutdown c
      some { result := .ok none, state := effect.state, lines := effect.lines }
  | .finish c =>
    match m.context? c with
    | none => none
    | some _ => some (m.finish c).silent
  | .letGo c =>
    match m.context? c with
    | none => none
    | some _ =>
      let effect := m.letGo c
      some { result := .ok none, state := effect.state, lines := effect.lines }
  | .createEndpoint n role name qos =>
    match m.nodes.get? n with
    | none => none
    | some node =>
      let effect := m.createEndpoint node role name qos
      some { result := effect.result.map some, state := effect.state, lines := effect.lines }
  | .createGuardCondition c =>
    match m.context? c with
    | none => none
    | some context =>
      let (id, state) := m.createGuardCondition context
      some { result := .ok (some id), state }
  | .createLoneGuard q =>
    let (id, state) := m.draw q .guardConditions
    some { result := .ok (some id), state }

structure Event where
  call : Call
  before : Middleware
  result : Answer
  lines : List LogLine
  after : Middleware

def step (m : Middleware) (call : Call) : Option Event × Middleware :=
  match m.perform call with
  | none => (none, m)
  | some effect => (some ⟨call, m, effect.result, effect.lines, effect.state⟩, effect.state)

/-- Before any context is there, with sequences of any kind to draw from. -/
def fresh (sequences : Registry Numbering) : Middleware := { sequences }

/-! ### What calls come to

Each lemma is about a context that shelters a known number of nodes.
-/

variable {m : Middleware} {c n k : Nat} {context : Context}

lemma context?_eq_some_iff : m.context? c = some context ↔
    m.contexts.get? c = some context ∧ context.held := by
  unfold context?
  rw [Option.filter_eq_some_iff]

lemma shutdown_eq (h : m.context? c = some context) :
    m.shutdown c = ⟨(), { m with contexts := m.contexts.put c context.shutdown.1 },
      [.contextShutDown context.instanceId]⟩ := by
  simp only [shutdown, h]
  rfl

lemma letGo_eq (h : m.context? c = some context) (hk : context.Shelters k) :
    m.letGo c =
      ⟨(),
        { m with
          contexts := m.contexts.set c
            (if k = 0 then none else some ({ context with held := false }.withNodes k)) },
        []⟩ := by
  have held := (context?_eq_some_iff.mp h).2
  simp only [letGo, h, hk.letGo held]
  rfl

lemma finish_refused (h : m.context? c = some context) (up : context.isShutDown = false) :
    m.finish c = ⟨.error .contextNotShutDown, m, []⟩ := by
  simp [finish, h, Context.finish, up]

lemma finish_eq (h : m.context? c = some context) (hk : context.Shelters k)
    (down : context.isShutDown) :
    m.finish c =
      ⟨.ok (),
        { m with
          contexts := m.contexts.set c
            (if k = 0 then none else some ({ context with held := false }.withNodes k)) },
        (if k = 0 then [] else [.nodesLeft k]) ++ [.contextFinished context.instanceId]⟩ := by
  simp only [finish, h, hk.finish down, letGo_eq h hk, List.append_nil]

lemma createNode_refused {cause : Failure} {name scope : String}
    (h : m.admitNode c name scope = .error cause) :
    m.createNode c n name scope = ⟨.error cause, m, []⟩ := by
  simp only [createNode, h]

def newNode (m : Middleware) (c : Nat) (context : Context) (name scope : String) : Node where
  context := c
  sequences := context.sequences
  name := name
  scope := scope
  graphGuard := (m.draw context.sequences .guardConditions).1

lemma createNode_eq (h : m.context? c = some context) (hk : context.Shelters k)
    {name scope : String} (admitted : m.admitNode c name scope = .ok ()) :
    m.createNode c n name scope =
      ⟨.ok (),
        { sequences := (m.draw context.sequences .guardConditions).2.sequences
          contexts := m.contexts.put c (context.withNodes (k + 1))
          nodes := m.nodes.put n (m.newNode c context name scope) },
        (if k = 0 then context.arrival else []) ++ [.nodeCreated name scope]⟩ := by
  have up : context.isShutDown = false := by
    rcases hdown : context.isShutDown
    · rfl
    · simp [admitNode, h, hdown] at admitted
  have hget : (m.contexts.put c (context.withNodes (k + 1))).get? c =
      some (context.withNodes (k + 1)) := by
    rw [Registry.get?_put, if_pos rfl]
  simp only [createNode, admitted, attachNode, h, hk.attach up, setContext, Registry.set,
    enterNode, hget]
  rfl

/-- A dropped node leaves its context one node less, or takes it away as its last owner. -/
lemma dropNode_eq {node : Node} (hn : m.nodes.get? n = some node)
    (hc : m.contexts.get? node.context = some context) (hk : context.Shelters (k + 1)) :
    m.dropNode n =
      ⟨(),
        { m with
          contexts := m.contexts.set node.context
            (if k = 0 ∧ context.held = false then none else some (context.withNodes k))
          nodes := m.nodes.erase n },
        .nodeDestroyed node.qualifiedName :: (if k = 0 then context.departure else [])⟩ := by
  simp only [dropNode, detachNode, announceDrop, hn, hc, hk.detach, setContext]
  rfl

end NullMiddleware.Middleware
