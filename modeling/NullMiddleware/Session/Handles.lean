import NullMiddleware.Session.Contexts

/-!
Steps through the C boundary. The null pointer has a name of its own.
-/

namespace NullMiddleware

/-- Triggers again and again; of equal codes in a row only one is kept. -/
def Boundary.triggerTimes (handle : Option Nat) :
    Nat → Boundary → List Status × Ending × Boundary
  | 0, x => ([], .returned, x)
  | times + 1, x =>
    match x.trigger handle with
    | (status, .returned, x) =>
      let (rest, ending, x) := triggerTimes handle times x
      (if rest.head? = some status then rest else status :: rest, ending, x)
    | (status, ending, x) => ([status], ending, x)

namespace Act

def nullName : String := "null"

/-- The handle of this name. -/
def handleOf (name : String) : Act (Option Nat) := do
  if name = nullName then return none
  match ← thingOf name with
  | .handle => return some (← numberOf name)
  | _ => throw (.unfit name)

/-- Works on the boundary, which draws its ids from the sequences of the whole process. -/
def onBoundary {α : Type} (f : Boundary → α × Boundary) : Act α := do
  let s ← get
  let own := s.middleware.sequencesOf Middleware.processWide
  let (a, ids, handles) ← onBoard fun board =>
    let (a, x) := f { ids := own.guardConditions, board, handles := s.handles }
    ((a, x.ids, x.handles), x.board)
  modify fun s => { s with
    handles
    middleware := { s.middleware with
      sequences := s.middleware.sequences.put Middleware.processWide
        { own with guardConditions := ids } } }
  return a

def createHandle (result : Option String) (nullOut : Bool) : Act (Exit Reply) := do
  if nullOut then
    return .returned (.status (← onBoundary fun x => x.create none))
  let name ← required result
  let k ← fresh
  let status ← onBoundary fun x => x.create (some k)
  keep name k .handle
  return .returned (.handle status false)

def destroyHandle (name : String) : Act (Exit Reply) := do
  let handle ← handleOf name
  let status ← onBoundary fun x => x.destroy handle
  match handle with
  | some k => modify fun s => { s with
      things := s.things.erase k
      names := s.names.filter (·.1 ≠ name) }
  | none => pure ()
  return .returned (.status status)

def triggerHandle (name : String) (times : Nat) : Act (Exit Reply) := do
  let handle ← handleOf name
  let (statuses, ending) ← onBoundary fun x =>
    let (statuses, ending, x) := x.triggerTimes handle times
    ((statuses, ending), x)
  exitOf ending (.statuses statuses)

/-- Polls into a place that holds a value before, or into none. -/
def pollHandle (name : String) (place : Option Bool) : Act (Exit Reply) := do
  let handle ← handleOf name
  let (status, written) ← onBoundary fun x =>
    let (status, written, x) := x.poll handle place.isSome
    ((status, written), x)
  match place with
  | none => return .returned (.status status)
  | some before => return .returned (.polled status (written.getD before))

def listenHandle (name : String) (function : Bool) (userData : Option String) :
    Act (Exit Reply) := do
  let handle ← handleOf name
  let (status, ending, line) ← onBoundary fun x =>
    let (status, ending, line, x) := x.listen handle function userData
    ((status, ending, line), x)
  log line.toList
  exitOf ending (.status status)

end Act
end NullMiddleware
