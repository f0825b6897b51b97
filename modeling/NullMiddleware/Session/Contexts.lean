import NullMiddleware.Session.Latches
import NullMiddleware.Session.Sequences

/-!
Steps on contexts and nodes.
-/

namespace NullMiddleware.Act

/-- Works on the middleware, and takes over the lines that it logged. -/
def onMiddleware {α : Type} (f : Middleware → Middleware.Effect α) : Act α := do
  let effect := f (← get).middleware
  modify fun s => { s with middleware := effect.state }
  log effect.lines
  return effect.result

def contextOf (name : String) : Act (Nat × Context) := do
  let c ← numberOf name
  match ← thingOf name, (← get).middleware.context? c with
  | .context, some context => return (c, context)
  | _, _ => throw (.unfit name)

def nodeOf (name : String) : Act Node := do
  match (← get).middleware.nodes.get? (← numberOf name) with
  | some node => return node
  | none => throw (.unfit name)

def init (result : String) (options : ContextOptions) (sequences : Option String) :
    Act (Exit Reply) := do
  let q ← match sequences with
    | some name => sequencesOf name
    | none => pure Middleware.processWide
  let c ← fresh
  let answer ← onMiddleware fun m => m.init c options q
  match answer with
  | .ok _ => keep result c .context
  | .error _ => pure ()
  return .returned (.ofResult answer)

/-- Finishes a context. If it is finished, its name goes with it. -/
def finish (name : String) : Act (Exit Reply) := do
  let (c, _) ← contextOf name
  let answer ← onMiddleware fun m => m.finish c
  match answer with
  | .ok _ => modify fun s => { s with
      things := s.things.erase c
      names := s.names.filter (·.1 ≠ name) }
  | .error _ => pure ()
  return .returned (.ofResult answer)

/-- A guard condition with a latch. -/
def newGuardCondition (id : UInt64) : Act GuardCondition :=
  onBoard fun b => GuardCondition.create id b

def createNode (name result nodeName scope : String) : Act (Exit Reply) := do
  let (c, _) ← contextOf name
  let n ← fresh
  let answer ← onMiddleware fun m => m.createNode c n nodeName scope
  match answer, (← get).middleware.nodes.get? n with
  | .ok _, some node => keep result n (.node (← newGuardCondition node.graphGuard))
  | _, _ => pure ()
  return .returned (.ofResult answer)

def createGuardCondition (name result : String) : Act (Exit Reply) := do
  let (_, context) ← contextOf name
  let id ← onMiddleware fun m =>
    let (id, m) := m.createGuardCondition context
    ⟨id, m, []⟩
  keep result (← fresh) (.guardCondition (← newGuardCondition id))
  return .returned (.id id)

end NullMiddleware.Act
