import NullMiddleware.Text.Layout

/-!
Why a call is refused: the causes, the text each is reported with, and the status code it is
given at the C boundary.
-/

namespace NullMiddleware

/-- The codes a C caller receives. -/
inductive Status
  | ok
  | error
  | timeout
  | unsupported
  | badAlloc
  | invalidArgument
  | incorrectImplementation
  deriving DecidableEq

namespace Status

def all : List Status :=
  [ok, error, timeout, unsupported, badAlloc, invalidArgument, incorrectImplementation]

def code : Status → Nat
  | ok => 0
  | error => 1
  | timeout => 2
  | unsupported => 3
  | badAlloc => 10
  | invalidArgument => 11
  | incorrectImplementation => 12

def name : Status → String
  | ok => "Ok"
  | error => "Error"
  | timeout => "Timeout"
  | unsupported => "Unsupported"
  | badAlloc => "BadAlloc"
  | invalidArgument => "InvalidArgument"
  | incorrectImplementation => "IncorrectRmwImplementation"

end Status

inductive Failure
  | invalidArgument (what : String)
  /-- A handle or a gid that another implementation issued. -/
  | incorrectImplementation (expected actual : String)
  | badAlloc (what : String)
  | invalidState (what : String)
  /-- More releases than registrations. -/
  | unbalancedRelease
  | unsupported (operation : String)
  deriving DecidableEq

namespace Failure

def kind : Failure → String
  | invalidArgument _ => "InvalidArgument"
  | incorrectImplementation _ _ => "IncorrectImplementation"
  | badAlloc _ => "BadAlloc"
  | invalidState _ => "InvalidState"
  | unbalancedRelease => "UnbalancedRelease"
  | unsupported _ => "Unsupported"

def message : Failure → String
  | invalidArgument what => "invalid argument: " ++ what
  | incorrectImplementation expected actual =>
    "incorrect rmw implementation: expected '" ++ expected ++ "', got '" ++ actual ++ "'"
  | badAlloc what => "allocation failed: " ++ what
  | invalidState what => "invalid state: " ++ what
  | unbalancedRelease => "unbalanced release: reference count is already zero"
  | unsupported operation => operation ++ " not implemented"

/-- There is no code of their own for a call in the wrong state and for an unbalanced release. -/
def status : Failure → Status
  | invalidArgument _ => .invalidArgument
  | incorrectImplementation _ _ => .incorrectImplementation
  | badAlloc _ => .badAlloc
  | invalidState _ => .error
  | unbalancedRelease => .error
  | unsupported _ => .unsupported

def layout (f : Failure) : Text.Layout :=
  match f with
  | invalidArgument what | badAlloc what | invalidState what | unsupported what =>
    .tuple f.kind [.text what]
  | incorrectImplementation expected actual =>
    .record f.kind [("expected", .text expected), ("actual", .text actual)]
  | unbalancedRelease => .word f.kind

/-! ### The causes that this middleware itself reports -/

def contextShutDown : Failure := .invalidState "context has been shutdown"

def contextNotShutDown : Failure := .invalidArgument "context has not been shutdown"

def enclaveMissing : Failure := .invalidArgument "expected enclave to be set"

def domainOutOfRange (domain : UInt64) : Failure :=
  .invalidArgument ("domain id " ++ toString domain.toNat ++ " out of range")

def nodeNameEmpty : Failure := .invalidArgument "node name is empty"

def namespaceRelative (scope : String) : Failure :=
  .invalidArgument ("invalid node namespace '" ++ scope ++ "': must start with '/'")

def topicEmpty : Failure := .invalidArgument "topic_name argument is an empty string"

def topicRelative (topic : String) : Failure :=
  .invalidArgument ("invalid topic name '" ++ topic ++ "': must be fully qualified")

def serviceEmpty : Failure := .invalidArgument "service_name argument is an empty string"

end Failure

/-- The status of a call that has no value to return. -/
def Status.ofResult : Except Failure Unit → Status
  | .ok _ => .ok
  | .error f => f.status

end NullMiddleware
