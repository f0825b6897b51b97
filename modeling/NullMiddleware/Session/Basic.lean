import NullMiddleware.Boundary
import NullMiddleware.Event
import NullMiddleware.Lifecycle.Scripted
import NullMiddleware.Middleware

/-!
A session: named objects, acted on one step at a time.

Every object has a number, given in the order of creation, which is also the number of the
context, node, lifecycle, sequences or handle that it stands for. An object lives for as long as
it has an owner: its name, or a handler that forwards to it.
-/

namespace NullMiddleware

inductive Thing
  | latch (latch : Nat)
  /-- A handler that listeners may share. -/
  | handler (handler : Nat)
  | sequence (s : Sequence)
  | sequences
  | lifecycle
  /-- A guard on a lifecycle. -/
  | registration (lifecycle : Nat)
  | context
  | node (graphGuard : GuardCondition)
  | guardCondition (g : GuardCondition)
  | event (kind : EventKind) (latch : Nat)
  | publisher (p : Publisher)
  | subscription (s : Subscription) (latch : Nat)
  | service (s : Service) (latch : Nat)
  | client (c : Client) (latch : Nat)
  /-- A handle of the C boundary. -/
  | handle

/-- The latch that signals at an object. -/
def Thing.latch? : Thing → Option Nat
  | latch n => some n
  | node g => some g.latch
  | guardCondition g => some g.latch
  | event _ n => some n
  | subscription _ n => some n
  | service _ n => some n
  | client _ n => some n
  | _ => none

structure Held where
  thing : Thing
  owners : Nat := 1

/-- A handler's owners, the listeners and the name, and the object that it keeps alive. -/
structure Wire where
  owners : Nat := 1
  target : Option Nat := none

structure Session where
  board : Switchboard := {}
  middleware : Middleware := .start
  lifecycles : Registry (Shared Script Nat) := .empty
  handles : Registry GuardCondition := .empty
  things : Registry Held := .empty
  /-- Under the numbers of the handlers. -/
  wires : Registry Wire := .empty
  /-- The names in use, in the order of creation. -/
  names : List (String × Nat) := []
  /-- The number of the next object. -/
  fresh : Nat := Middleware.processWide + 1
  trace : Array Entry := #[]

/-- Why a step cannot be carried out at all. -/
inductive Misuse
  | unnamed
  | unknown (name : String)
  /-- The object is not of the kind that the step needs. -/
  | unfit (name : String)
  /-- A handler called back into a latch that is calling it. -/
  | blocked (latch : Nat)

def Misuse.message : Misuse → String
  | unnamed => "a name is missing"
  | unknown name => "no object is called " ++ name
  | unfit name => "the step does not fit the object called " ++ name
  | blocked n => "latch " ++ toString n ++ " is called back while it is held"

abbrev Act := StateT Session (Except Misuse)

namespace Session

def number? (s : Session) (name : String) : Option Nat := s.names.lookup name

def thing? (s : Session) (name : String) : Option Thing := do
  let k ← s.number? name
  let held ← s.things.get? k
  return held.thing

def note (s : Session) (entries : List Entry) : Session :=
  { s with trace := s.trace ++ entries.toArray }

def log (s : Session) (lines : List LogLine) : Session := s.note (lines.map .logged)

/-! ### Owners -/

inductive Asset
  | thing (k : Nat)
  | handler (h : Nat)

/-- The end of an object, once its latch is gone. Gives the text of the panic, if there is one. -/
def discard (k : Nat) (thing : Thing) (s : Session) : Option String × Session :=
  match thing with
  | .node _ =>
    let gone := s.middleware.detachNode k
    (none, { s with middleware := gone.state }.log gone.lines)
  | .context =>
    let gone := s.middleware.letGo k
    (none, { s with middleware := gone.state }.log gone.lines)
  | .lifecycle =>
    match s.lifecycles.get? k with
    | none => (none, s)
    | some shared =>
      let (shared, entries) := shared.letGo Script.factory
      (none, { s with lifecycles := s.lifecycles.set k shared }.note entries)
  | .registration l =>
    match s.lifecycles.get? l with
    | none => (none, s)
    | some shared =>
      let turn := shared.depart Script.factory
      let panic := match turn.exit with
        | .returned _ => none
        | .panicked text => some text
      (panic, { s with lifecycles := s.lifecycles.set l turn.state }.note turn.trace)
  | _ => (none, s)

/-- The first thing an object says at its end. -/
def announce (k : Nat) (thing : Thing) (s : Session) : Session :=
  match thing with
  | .node _ => s.log (s.middleware.announceDrop k)
  | _ => s

/-- Takes the listener off a latch. -/
def unhook (latch : Nat) (s : Session) : Option Listener × Session :=
  let l := s.board.latch latch
  (l.listener, { s with board := s.board.setLatch latch { l with listener := none } })

/-- One owner fewer. What has no owner left goes away, and what it owned loses an owner in turn.
Every level of this takes away an object or a handler, so `fuel` above their number is never used
up. -/
def disownWithin : Nat → Asset → Session → Option String × Session
  | 0, _, s => (none, s)
  | fuel + 1, .handler h, s =>
    match s.wires.get? h with
    | none => (none, s)
    | some wire =>
      if wire.owners > 1 then
        (none, { s with wires := s.wires.put h { wire with owners := wire.owners - 1 } })
      else
        let s := { s with wires := s.wires.erase h }
        match wire.target with
        | none => (none, s)
        | some k => disownWithin fuel (.thing k) s
  | fuel + 1, .thing k, s =>
    match s.things.get? k with
    | none => (none, s)
    | some held =>
      if held.owners > 1 then
        (none, { s with things := s.things.put k { held with owners := held.owners - 1 } })
      else
        let s := announce k held.thing { s with things := s.things.erase k }
        match held.thing.latch?, held.thing with
        | some latch, thing =>
          let (listener, s) := s.unhook latch
          match listener with
          | none => discard k thing s
          | some listener => discard k thing (disownWithin fuel (.handler listener.handler) s).2
        | none, .handler h => disownWithin fuel (.handler h) s
        | none, thing => discard k thing s

def disown (asset : Asset) (s : Session) : Option String × Session :=
  disownWithin (s.things.size + s.wires.size + 1) asset s

/-- Takes a name away, and with it an owner of its object. -/
def drop (name : String) (s : Session) : Option String × Session :=
  match s.number? name with
  | none => (none, s)
  | some k => disown (.thing k) { s with names := s.names.filter (·.1 ≠ name) }

end Session

/-! ### Parts that steps are made of -/

namespace Act

def numberOf (name : String) : Act Nat := do
  match (← get).number? name with
  | some k => return k
  | none => throw (.unknown name)

def thingOf (name : String) : Act Thing := do
  match (← get).thing? name with
  | some thing => return thing
  | none => throw (.unknown name)

def required (name : Option String) : Act String :=
  match name with
  | some name => return name
  | none => throw .unnamed

def fresh : Act Nat := do
  let s ← get
  set { s with fresh := s.fresh + 1 }
  return s.fresh

def disown (asset : Session.Asset) : Act Unit :=
  modify fun s => (s.disown asset).2

/-- Gives a name to object number `k`. An object that had the name before loses it. -/
def keep (name : String) (k : Nat) (thing : Thing) : Act Unit := do
  let old := (← get).number? name
  modify fun s => { s with
    things := s.things.put k { thing }
    names := s.names.filter (·.1 ≠ name) ++ [(name, k)] }
  match old with
  | some old => disown (.thing old)
  | none => return

def replace (k : Nat) (thing : Thing) : Act Unit :=
  modify fun s =>
    match s.things.get? k with
    | some held => { s with things := s.things.put k { held with thing } }
    | none => s

def log (lines : List LogLine) : Act Unit := modify fun s => s.log lines

/-- Works on the switchboard, and takes over the calls that it recorded. -/
def onBoard {α : Type} (f : Switchboard → α × Switchboard) : Act α := do
  let s ← get
  let (a, board) := f s.board
  set { s with
    board := { board with record := #[] }
    trace := s.trace ++ board.record.map Entry.called }
  return a

def exitOf {α : Type} (ending : Ending) (value : α) : Act (Exit α) :=
  match ending with
  | .returned => return .returned value
  | .panicked label => return .panicked (Handler.panicText label)
  | .blocked latch => throw (.blocked latch)

end Act
end NullMiddleware
