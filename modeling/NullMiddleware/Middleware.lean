import NullMiddleware.Context
import NullMiddleware.Endpoint
import NullMiddleware.Registry

/-!
The contexts and nodes of one process, and the sequences they draw their ids from.

Contexts, nodes and sequences are known by numbers that the user chooses. A node keeps its
context's participant alive, also after the context itself is gone; an endpoint's id comes from
the sequences of its node's context. Refused calls draw no id, and write nothing.
-/

namespace NullMiddleware

structure Middleware where
  sequences : Registry Numbering := .empty
  /-- The contexts that have an owner left: the user, or a node. -/
  contexts : Registry Context := .empty
  nodes : Registry Node := .empty

namespace Middleware

/-- The sequences that contexts draw from if they are given no others. -/
def processWide : Nat := 0

def start : Middleware := { sequences := Registry.empty.put processWide {} }

/-- An answer, the middleware after it, and the lines of the log. -/
structure Effect (α : Type) where
  result : α
  state : Middleware
  lines : List LogLine := []

def sequencesOf (m : Middleware) (q : Nat) : Numbering := (m.sequences.get? q).getD {}

/-- Draws an id from sequences `q`. -/
def draw (m : Middleware) (q : Nat) (kind : EntityKind) : UInt64 × Middleware :=
  let (id, s) := (m.sequencesOf q).draw kind
  (id, { m with sequences := m.sequences.put q s })

/-- A context that its user still has. -/
def context? (m : Middleware) (c : Nat) : Option Context :=
  (m.contexts.get? c).filter Context.held

def setContext (m : Middleware) (c : Nat) (context : Option Context) : Middleware :=
  { m with contexts := m.contexts.set c context }

/-! ### Contexts -/

/-- Initializes context `c`, which is a number not in use. -/
def init (m : Middleware) (c : Nat) (options : ContextOptions) (q : Nat) :
    Effect (Except Failure Unit) :=
  match Context.init options q with
  | (.ok context, lines) => ⟨.ok (), m.setContext c (some context), lines⟩
  | (.error cause, lines) => ⟨.error cause, m, lines⟩

def shutdown (m : Middleware) (c : Nat) : Effect Unit :=
  match m.context? c with
  | none => ⟨(), m, []⟩
  | some context =>
    let (context, lines) := context.shutdown
    ⟨(), m.setContext c (some context), lines⟩

/-- The user lets a context go. -/
def letGo (m : Middleware) (c : Nat) : Effect Unit :=
  match m.context? c with
  | none => ⟨(), m, []⟩
  | some context =>
    let (context, lines) := context.letGo
    ⟨(), m.setContext c context, lines⟩

/-- Finishes a context and lets it go; one that is not shut down stays. -/
def finish (m : Middleware) (c : Nat) : Effect (Except Failure Unit) :=
  match m.context? c with
  | none => ⟨.ok (), m, []⟩
  | some context =>
    match context.finish with
    | .error cause => ⟨.error cause, m, []⟩
    | .ok lines =>
      let gone := m.letGo c
      ⟨.ok (), gone.state, lines ++ gone.lines⟩

def createGuardCondition (m : Middleware) (context : Context) : UInt64 × Middleware :=
  m.draw context.sequences .guardConditions

/-! ### Nodes

A node is created in three steps: it is admitted, which looks at the context and at the names; it
is attached to the context; and it is entered, with an id for its graph guard. It is dropped in
two: it says so, and it is detached. Calls for other nodes and a shutdown may come between the
steps. Each step takes the context as it finds it.
-/

/-- A context that is gone takes no nodes, like one that is shut down. -/
def admitNode (m : Middleware) (c : Nat) (name scope : String) : Except Failure Unit :=
  match m.context? c with
  | none => .error .contextShutDown
  | some context =>
    if context.isShutDown then .error .contextShutDown else Node.checkName name scope

def attachNode (m : Middleware) (c : Nat) : Effect (Except Failure Unit) :=
  match m.context? c with
  | none => ⟨.error .contextShutDown, m, []⟩
  | some context =>
    match context.attach with
    | (.ok context, lines) => ⟨.ok (), m.setContext c (some context), lines⟩
    | (.error cause, lines) => ⟨.error cause, m, lines⟩

/-- Enters node `n`, which is a number not in use. -/
def enterNode (m : Middleware) (c n : Nat) (name scope : String) : Effect Unit :=
  match m.contexts.get? c with
  | none => ⟨(), m, []⟩
  | some context =>
    let (id, m) := m.draw context.sequences .guardConditions
    let node : Node :=
      { context := c, sequences := context.sequences, name, scope, graphGuard := id }
    ⟨(), { m with nodes := m.nodes.put n node }, [.nodeCreated name scope]⟩

def createNode (m : Middleware) (c n : Nat) (name scope : String) :
    Effect (Except Failure Unit) :=
  match m.admitNode c name scope with
  | .error cause => ⟨.error cause, m, []⟩
  | .ok _ =>
    let attached := m.attachNode c
    match attached.result with
    | .error cause => ⟨.error cause, attached.state, attached.lines⟩
    | .ok _ =>
      let entered := attached.state.enterNode c n name scope
      ⟨.ok (), entered.state, attached.lines ++ entered.lines⟩

def nodeDomain (m : Middleware) (node : Node) : Option UInt32 :=
  (m.contexts.get? node.context).bind Context.participantDomain

/-- What a node says when it is dropped. -/
def announceDrop (m : Middleware) (n : Nat) : List LogLine :=
  match m.nodes.get? n with
  | none => []
  | some node => [.nodeDestroyed node.qualifiedName]

def detachNode (m : Middleware) (n : Nat) : Effect Unit :=
  match m.nodes.get? n with
  | none => ⟨(), m, []⟩
  | some node =>
    let m := { m with nodes := m.nodes.erase n }
    match m.contexts.get? node.context with
    | none => ⟨(), m, []⟩
    | some context =>
      let (context, lines) := context.detach
      ⟨(), m.setContext node.context context, lines⟩

def dropNode (m : Middleware) (n : Nat) : Effect Unit :=
  let detached := m.detachNode n
  ⟨(), detached.state, m.announceDrop n ++ detached.lines⟩

/-! ### Endpoints -/

def createEndpoint (m : Middleware) (node : Node) (role : Role) (name : String)
    (qos : QosProfile) : Effect (Except Failure UInt64) :=
  match role.checkName name qos with
  | .error cause => ⟨.error cause, m, []⟩
  | .ok _ =>
    let (id, m) := m.draw node.sequences role.kind
    ⟨.ok id, m, [.endpointCreated role id name]⟩

end Middleware
end NullMiddleware
