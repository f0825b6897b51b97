import NullMiddleware.Session.Contexts

/-!
Steps on publishers, subscriptions, services, clients and status events.
-/

namespace NullMiddleware.Act

/-- Creates an endpoint of a node; `make` gives the object with its new id. -/
def createEndpoint (name result : String) (role : Role) (topic : String) (qos : QosProfile)
    (make : UInt64 → Act Thing) : Act (Exit Reply) := do
  let node ← nodeOf name
  match ← onMiddleware fun m => m.createEndpoint node role topic qos with
  | .error cause => return .returned (.failure cause)
  | .ok id =>
    keep result (← fresh) (← make id)
    return .returned (.id id)

def endpointInfo (name : String) : Act (Exit Reply) := do
  match ← thingOf name with
  | .publisher p => return .returned (.publisher p)
  | .subscription s _ => return .returned (.subscription s)
  | .service s _ => return .returned (.service s)
  | .client c _ => return .returned (.client c)
  | _ => throw (.unfit name)

def publisherOf (name : String) : Act Publisher := do
  match ← thingOf name with
  | .publisher p => return p
  | _ => throw (.unfit name)

def serviceOf (name : String) : Act Service := do
  match ← thingOf name with
  | .service s _ => return s
  | _ => throw (.unfit name)

def clientOf (name : String) : Act Client := do
  match ← thingOf name with
  | .client c _ => return c
  | _ => throw (.unfit name)

def publish (name : String) : Act (Exit Reply) := do
  let (answer, lines) := (← publisherOf name).publish
  log lines
  return .returned (.ofResult answer)

def countMatched (name : String) : Act (Exit Reply) := do
  let answer ← match ← thingOf name with
    | .publisher p => pure p.matchedSubscriptions
    | .subscription s _ => pure s.matchedPublishers
    | _ => throw (.unfit name)
  match answer with
  | .ok n => return .returned (.count n)
  | .error cause => return .returned (.failure cause)

/-- Takes what has arrived: a message, a request or a status. -/
def take (name : String) : Act (Exit Reply) := do
  match ← thingOf name with
  | .subscription s _ => return .returned (.ofResult s.take)
  | .service s _ => return .returned (.ofResult s.takeRequest)
  | .event kind _ => return .returned (.ofResult kind.take)
  | _ => throw (.unfit name)

def newEvent (name result : String) (kind : EventKind) : Act (Exit Reply) := do
  let side ← match ← thingOf name with
    | .publisher _ => pure Side.publisher
    | .subscription _ _ => pure Side.subscription
    | _ => throw (.unfit name)
  match kind.checkSide side with
  | .error cause => return .returned (.failure cause)
  | .ok _ =>
    keep result (← fresh) (.event kind (← newLatch .perEvent))
    return .returned (.text kind.name)

def gidOf : GidSource → Act Gid
  | .gid g => return g
  | .endpoint name => do
    match ← thingOf name with
    | .publisher p => return p.gid
    | .subscription s _ => return s.gid
    | _ => throw (.unfit name)

end NullMiddleware.Act
