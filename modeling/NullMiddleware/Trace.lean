import NullMiddleware.Switchboard

/-!
What an observer sees of the middleware, in order: calls of handlers, lines of the log, and the
comings and goings of numbered resources.
-/

namespace NullMiddleware

inductive Entry
  | called (call : Call)
  | logged (line : LogLine)
  | created (resource : Nat)
  | createFailed
  | destroyed (resource : Nat)
  /-- The resource went away. -/
  | dropped (resource : Nat)
  | panicked (text : String)

end NullMiddleware
