import NullMiddleware.Session.Step

/-!
Steps on latches, wherever they are: a latch by itself or one that belongs to another object.
-/

namespace NullMiddleware.Act

/-- The latch of a named object. -/
def latchOf (name : String) : Act Nat := do
  match (← thingOf name).latch? with
  | some n => return n
  | none => throw (.unfit name)

def newLatch (mode : Granularity) : Act Nat := onBoard fun b => b.addLatch mode

/-- Makes a handler with one owner. It is an owner of the object that it forwards to. -/
def newHandler (spec : HandlerSpec) : Act Nat := do
  let target ← spec.forward.mapM numberOf
  let forward ← spec.forward.mapM latchOf
  let h ← onBoard fun b => b.addHandler { label := spec.label, forward, panicOn := spec.panicOn }
  modify fun s => { s with wires := s.wires.put h { target } }
  match target with
  | none => return h
  | some k =>
    modify fun s =>
      match s.things.get? k with
      | some held => { s with things := s.things.put k { held with owners := held.owners + 1 } }
      | none => s
    return h

/-- Makes a listener, which is an owner of its handler. -/
def newListener (spec : ListenerSpec) : Act Listener := do
  match spec with
  | .own handler token => return { handler := ← newHandler handler, token }
  | .shared name token =>
    match ← thingOf name with
    | .handler h =>
      modify fun s =>
        match s.wires.get? h with
        | some wire => { s with wires := s.wires.put h { wire with owners := wire.owners + 1 } }
        | none => s
      return { handler := h, token }
    | _ => throw (.unfit name)

/-- Installs or clears a listener. The one that it replaces goes before the log is written; if
the replay panics the new one goes. -/
def register (latch : Nat) (spec : Option ListenerSpec) (replayPrevious : Bool) :
    Act (Exit Reply) := do
  let listener ← spec.mapM newListener
  let old := ((← get).board.latch latch).listener
  let (ending, line) ← onBoard fun b =>
    let (ending, line, b) := b.register latch listener replayPrevious
    ((ending, line), b)
  let gone := if ending = .returned then old else listener
  match gone with
  | some gone => disown (.handler gone.handler)
  | none => pure ()
  log line.toList
  exitOf ending (match listener with
    | none => .nothing
    | some l => .text (l.layout.inline ++ " handle=" ++ l.tokenLayout.inline))

def trigger (latch times : Nat) : Act (Exit Reply) := do
  let ending ← onBoard fun b => b.triggerTimes latch times
  exitOf ending .nothing

def poll (latch times : Nat) : Act (Exit Reply) := do
  return .returned (.flags (← onBoard fun b => b.pollTimes latch times))

def latchInfo (latch : Nat) : Act (Exit Reply) := do
  let l := (← get).board.latch latch
  return .returned (.latch l.pending.toNat l.attended l.mode)

end NullMiddleware.Act
