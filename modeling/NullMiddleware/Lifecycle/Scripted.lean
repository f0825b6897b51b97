import NullMiddleware.Lifecycle
import NullMiddleware.Trace

/-!
A factory of numbered resources that follows a script: it says of each creation, in turn, how it
ends, and all creations after its end succeed.
-/

namespace NullMiddleware

inductive ScriptedOutcome
  | ok
  | failure (cause : Failure)
  | panic

structure Script where
  outcomes : List ScriptedOutcome := []
  /-- The number of the next resource. -/
  next : Nat := 0
  /-- Destroying a resource just lets it go. -/
  plainDestroy : Bool := false
  destroyPanics : Bool := false

namespace Script

def create (s : Script) : Creation Nat × Script × List Entry :=
  let rest := { s with outcomes := s.outcomes.tail }
  match s.outcomes.headD .ok with
  | .ok => (.made s.next, { rest with next := s.next + 1 }, [.created s.next])
  | .failure cause => (.failed cause, rest, [.createFailed])
  | .panic => (.panicked "create panicked", rest, [])

/-- The resource goes away also where its destruction panics. -/
def destroy (s : Script) (resource : Nat) : Option String × Script × List Entry :=
  if s.plainDestroy then (none, s, [.dropped resource])
  else
    (if s.destroyPanics then some "destroy panicked" else none, s,
      [.destroyed resource, .dropped resource])

def factory : Factory Script Nat Entry where
  create := create
  destroy := destroy
  discard s resource := (s, [.dropped resource])
  say := .logged

end Script
end NullMiddleware
