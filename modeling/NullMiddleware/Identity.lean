import NullMiddleware.Gid

/-!
What the middleware says of itself: its name, the format it advertises, and that it has none of
the optional features.
-/

namespace NullMiddleware

/-- The name of the wire format that the type support is told. -/
def serializationFormat : String := "cdr"

inductive Feature
  | publicationSequenceNumber
  | receptionSequenceNumber
  | typeDescriptionService
  deriving DecidableEq

namespace Feature

def all : List Feature :=
  [publicationSequenceNumber, receptionSequenceNumber, typeDescriptionService]

def name : Feature → String
  | publicationSequenceNumber => "MessageInfoPublicationSequenceNumber"
  | receptionSequenceNumber => "MessageInfoReceptionSequenceNumber"
  | typeDescriptionService => "TypeDescriptionService"

def supported (_ : Feature) : Bool := false

end Feature

inductive Severity
  | debug
  | info
  | warn
  | error
  | fatal
  deriving DecidableEq

namespace Severity

def all : List Severity := [debug, info, warn, error, fatal]

def name : Severity → String
  | debug => "Debug"
  | info => "Info"
  | warn => "Warn"
  | error => "Error"
  | fatal => "Fatal"

/-- The log is filtered by the environment instead. -/
def select (_ : Severity) : Except Failure Unit := .error (.unsupported "rmw_set_log_severity")

end Severity
end NullMiddleware
