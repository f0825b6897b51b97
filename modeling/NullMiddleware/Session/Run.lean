import NullMiddleware.Session.Endpoints
import NullMiddleware.Session.Handles
import NullMiddleware.Session.Lifecycles

/-!
Running a session: each step is carried out and answered, and at the end the objects that are
left lose their names in the order of creation.
-/

namespace NullMiddleware

namespace Session

/-- The layout of an object. Handlers and handles have none. -/
def layout? (s : Session) (k : Nat) : Thing → Option Text.Layout
  | .latch n => some (s.board.latch n).layout
  | .handler _ => none
  | .sequence q => some q.layout
  | .sequences => some (s.middleware.sequencesOf k).layout
  | .lifecycle => (s.lifecycles.get? k).map (·.lifecycle.layout)
  | .registration l => (s.lifecycles.get? l).map Shared.guardLayout
  | .context => (s.middleware.contexts.get? k).map Context.layout
  | .node g => (s.middleware.nodes.get? k).map fun n => n.layout (g.layout s.board)
  | .guardCondition g => some (g.layout s.board)
  | .event kind n => some (kind.layout (s.board.latch n).layout)
  | .publisher p => some p.layout
  | .subscription x n => some (x.layout (s.board.latch n).layout)
  | .service x n => some (x.layout (s.board.latch n).layout)
  | .client x n => some (x.layout (s.board.latch n).layout)
  | .handle => none

def namedLayout? (s : Session) (name : String) : Option Text.Layout := do
  s.layout? (← s.number? name) (← s.thing? name)

/-- The text of the object of a name, in an answer. A publisher never changes and is left out. -/
def shown (s : Session) (name : Option String) : Option String := do
  let name ← name
  match s.thing? name with
  | some (.publisher _) => none
  | _ => (s.namedLayout? name).map Text.Layout.inline

end Session

namespace Act

def describe (name : String) (long : Bool) : Act (Exit Reply) := do
  match (← get).namedLayout? name with
  | some l => return .returned (.text (l.render long))
  | none => throw (.unfit name)

def lifecycleInfo (name : String) : Act (Exit Reply) := do
  let k ← match ← thingOf name with
    | .lifecycle => numberOf name
    | .registration l => pure l
    | _ => throw (.unfit name)
  match (← get).lifecycles.get? k with
  | some shared =>
    let l := shared.lifecycle
    return .returned (.lifecycle l.count l.shutDown l.resource)
  | none => throw (.unfit name)

/-- Makes an object and gives it the name that the step asks for. -/
def make (result : Option String) (thing : Act (Nat × Thing)) : Act (Exit Reply) := do
  let name ← required result
  let (k, thing) ← thing
  keep name k thing
  return .returned .nothing

def drop (name : String) : Act (Exit Reply) := do
  let _ ← numberOf name
  let panic ← modifyGet fun s => s.drop name
  match panic with
  | some text => return .panicked text
  | none => return .returned .nothing

def performOn (on : String) (result : Option String) : Action → Act (Exit Reply)
  | .register listener replayPrevious => do register (← latchOf on) listener replayPrevious
  | .installCallback listener => do
    match ← register (← latchOf on) (some listener) true with
    | .returned _ => return .returned .nothing
    | .panicked text => return .panicked text
  | .clearCallback => do register (← latchOf on) none true
  | .latchInfo => do latchInfo (← latchOf on)
  | .trigger times => do trigger (← latchOf on) times
  | .poll times => do poll (← latchOf on) times
  | .sequence call => onSequence on fun s => askSequence s call
  | .drawIds count =>
    onSequence on fun s =>
      let (ids, s) := s.drawMany count
      (.ids (ids.mergeSort fun a b => a ≤ b), s)
  | .sequences kind call =>
    onSequences on fun s =>
      let (reply, q) := askSequence (s.get kind) call
      (reply, s.set kind q)
  | .resetSequences => onSequences on fun s => (.nothing, s.reset)
  | .describeSequences long => onSequences on fun s => (.text (s.layout.render long), s)
  | .lifecycle call => do
    match ← callLifecycle (← lifecycleOf on) call with
    | .returned answer => return .returned (.ofResult answer)
    | .panicked text => return .panicked text
  | .lifecycleStatus call => do
    match ← callLifecycle (← lifecycleOf on) call with
    | .returned answer => return .returned (.status (.ofResult answer))
    | .panicked text => return .panicked text
  | .lifecycleTally call times => do tallyCalls (← lifecycleOf on) call times 0 0
  | .shutdownLifecycle => do
    onShared (← lifecycleOf on) fun shared =>
      ⟨.returned .nothing, { shared with lifecycle := shared.lifecycle.shutdown }, []⟩
  | .lifecycleInfo => lifecycleInfo on
  | .join => do
    let name ← required result
    let l ← lifecycleOf on
    match ← onShared l fun shared => shared.join Script.factory with
    | .returned (.ok _) =>
      keep name (← fresh) (.registration l)
      return .returned .nothing
    | .returned (.error cause) => return .returned (.failure cause)
    | .panicked text => return .panicked text
  | .contextInfo => do return .returned (.context (← contextOf on).2)
  | .shutdown => do
    let (c, _) ← contextOf on
    onMiddleware fun m => m.shutdown c
    return .returned .nothing
  | .finish => finish on
  | .createNode name scope => do createNode on (← required result) name scope
  | .createGuardCondition => do createGuardCondition on (← required result)
  | .nodeInfo => do
    let node ← nodeOf on
    return .returned (.node node ((← get).middleware.nodeDomain node))
  | .createPublisher topic qos uniqueFlow => do
    createEndpoint on (← required result) .publisher topic qos fun id =>
      return .publisher { id, topic, qos, uniqueFlow }
  | .createSubscription topic qos ignoreLocal filter => do
    createEndpoint on (← required result) .subscription topic qos fun id =>
      return .subscription { id, topic, qos, ignoreLocal, filter } (← newLatch .perEvent)
  | .createService name qos => do
    createEndpoint on (← required result) .service name qos fun id =>
      return .service { id, name, qos } (← newLatch .perEvent)
  | .createClient name qos => do
    createEndpoint on (← required result) .client name qos fun id =>
      return .client { id, name, qos } (← newLatch .perEvent)
  | .serviceAvailable client => do
    return .returned (.flag ((← nodeOf on).serviceAvailable (← clientOf client)))
  | .endpointInfo => endpointInfo on
  | .publish => publish on
  | .publishSerialized => do return .returned (.ofResult (← publisherOf on).publishSerialized)
  | .assertLiveliness => do return .returned (.ofResult (← publisherOf on).assertLiveliness)
  | .countMatched => countMatched on
  | .take => take on
  | .sendResponse => do return .returned (.ofResult (← serviceOf on).sendResponse)
  | .sendRequest => do return .returned (.ofResult (← clientOf on).sendRequest)
  | .takeResponse => do return .returned (.ofResult (← clientOf on).takeResponse)
  | .newEvent kind => do newEvent on (← required result) kind
  | .compareForeign implementation => do
    let own ← gidOf (.endpoint on)
    let foreign := { own with implementation }
    return .returned (.comparisons [own.compare foreign, foreign.compare own])
  | .destroyHandle => destroyHandle on
  | .triggerHandle times => triggerHandle on times
  | .pollHandle place => pollHandle on place
  | .listenHandle function userData => listenHandle on function userData
  | .describe long => describe on long
  | .drop => drop on
  | _ => throw (.unfit on)

def perform (step : Step) : Act (Exit Reply) :=
  match step.action with
  | .newLatch mode => make step.result do return (← fresh, .latch (← newLatch mode))
  | .newHandler spec => make step.result do return (← fresh, .handler (← newHandler spec))
  | .newSequence start => make step.result do return (← fresh, .sequence (.startingAt start))
  | .newSequences start => make step.result do return (← newSequences start, .sequences)
  | .newLifecycle script => make step.result do return (← newLifecycle script, .lifecycle)
  | .init options sequences => do init (← required step.result) options sequences
  | .compareGids a b => do
    return .returned (.comparison ((← gidOf a).compare (← gidOf b)))
  | .createHandle nullOut => createHandle step.result nullOut
  | action => do performOn (← required step.subject) step.result action

/-- Carries out a step and answers it. -/
def answer (step : Step) : Act Answer := do
  modify fun s => { s with trace := #[] }
  let exit ← perform step
  let s ← get
  return { exit, trace := s.trace, subject := s.shown step.subject, created := s.shown step.result }

end Act

namespace Session

/-- The names that are left go, in the order of creation. -/
def close (s : Session) : Session :=
  s.names.foldl (fun s entry =>
    match s.drop entry.1 with
    | (some text, s) => s.note [.panicked text]
    | (none, s) => s) s

/-- The answers to the steps, and the trace of the end. -/
def run (steps : List Step) : Except Misuse (List Answer × Array Entry) := do
  let (answers, s) ← (steps.mapM Act.answer).run {}
  return (answers, ({ s with trace := #[] }.close).trace)

end Session
end NullMiddleware
