import NullMiddleware.Failure

/-!
Nodes: which names are accepted, and the qualified name of a node.
-/

namespace NullMiddleware

/-- Whether a name is absolute. -/
def startsWithSlash (s : String) : Bool := s.toList.head? == some '/'

structure Node where
  /-- The context it belongs to. -/
  context : Nat
  /-- The sequences that its endpoints draw their ids from. -/
  sequences : Nat
  name : String
  scope : String
  /-- The id of the guard condition that signals changes of the graph. -/
  graphGuard : UInt64

namespace Node

/-- A scope is absolute and a name is not empty; the name is checked first. -/
def checkName (name scope : String) : Except Failure Unit :=
  if name.isEmpty then .error .nodeNameEmpty
  else if !startsWithSlash scope then .error (.namespaceRelative scope)
  else .ok ()

/-- The scope and the name with one slash between them, unless the scope ends with one. -/
def qualify (scope name : String) : String :=
  if scope.toList.getLast? == some '/' then scope ++ name else scope ++ "/" ++ name

def qualifiedName (n : Node) : String := qualify n.scope n.name

def layout (n : Node) (graphGuard : Text.Layout) : Text.Layout :=
  .record "Node" [
    ("name", .text n.name), ("namespace", .text n.scope), ("graph_guard", graphGuard)]

end Node

end NullMiddleware
