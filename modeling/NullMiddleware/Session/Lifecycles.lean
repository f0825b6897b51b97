import NullMiddleware.Session.Step

/-!
Steps on lifecycles with a scripted factory.
-/

namespace NullMiddleware

def LifecycleCall.perform (call : LifecycleCall) (l : Lifecycle Script Nat) :
    Turn (Lifecycle Script Nat) Entry (Except Failure Unit) :=
  match call with
  | .acquire => l.acquire Script.factory
  | .release => l.release Script.factory

namespace Act

/-- The number of a named lifecycle. -/
def lifecycleOf (name : String) : Act Nat := do
  match ← thingOf name with
  | .lifecycle => numberOf name
  | _ => throw (.unfit name)

/-- Works on lifecycle number `k`. -/
def onShared {α : Type} (k : Nat)
    (f : Shared Script Nat → Turn (Shared Script Nat) Entry α) : Act (Exit α) := do
  match (← get).lifecycles.get? k with
  | none => throw .unnamed
  | some shared =>
    let turn := f shared
    modify fun s => { s with lifecycles := s.lifecycles.put k turn.state }
    modify fun s => s.note turn.trace
    return turn.exit

def callLifecycle (k : Nat) (call : LifecycleCall) : Act (Exit (Except Failure Unit)) :=
  onShared k fun shared =>
    let turn := call.perform shared.lifecycle
    ⟨turn.exit, { shared with lifecycle := turn.state }, turn.trace⟩

/-- The numbers of calls that succeed and that fail, up to the first one that panics. -/
def tallyCalls (k : Nat) (call : LifecycleCall) :
    Nat → Nat → Nat → Act (Exit Reply)
  | 0, ok, failed => return .returned (.tally ok failed)
  | times + 1, ok, failed => do
    match ← callLifecycle k call with
    | .returned (.ok _) => tallyCalls k call times (ok + 1) failed
    | .returned (.error _) => tallyCalls k call times ok (failed + 1)
    | .panicked text => return .panicked text

def newLifecycle (script : Script) : Act Nat := do
  let k ← fresh
  modify fun s => { s with
    lifecycles := s.lifecycles.put k { lifecycle := { factory := script } } }
  return k

end Act
end NullMiddleware
