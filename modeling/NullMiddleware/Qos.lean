import NullMiddleware.Text.Decimal
import NullMiddleware.Text.Layout

/-!
Quality-of-service profiles. They are stored and given back as they are: nothing is negotiated,
and every pair of profiles is compatible.
-/

namespace NullMiddleware

inductive History
  | systemDefault
  | keepLast
  | keepAll
  | unknown
  deriving DecidableEq

inductive Reliability
  | systemDefault
  | reliable
  | bestEffort
  | unknown
  deriving DecidableEq

inductive Durability
  | systemDefault
  | transientLocal
  | volatile
  | unknown
  deriving DecidableEq

inductive Liveliness
  | systemDefault
  | automatic
  | manualByTopic
  | unknown
  deriving DecidableEq

def History.all : List History := [systemDefault, keepLast, keepAll, unknown]

def History.name : History → String
  | systemDefault => "SystemDefault"
  | keepLast => "KeepLast"
  | keepAll => "KeepAll"
  | unknown => "Unknown"

def Reliability.all : List Reliability := [systemDefault, reliable, bestEffort, unknown]

def Reliability.name : Reliability → String
  | systemDefault => "SystemDefault"
  | reliable => "Reliable"
  | bestEffort => "BestEffort"
  | unknown => "Unknown"

def Durability.all : List Durability := [systemDefault, transientLocal, volatile, unknown]

def Durability.name : Durability → String
  | systemDefault => "SystemDefault"
  | transientLocal => "TransientLocal"
  | volatile => "Volatile"
  | unknown => "Unknown"

def Liveliness.all : List Liveliness := [systemDefault, automatic, manualByTopic, unknown]

def Liveliness.name : Liveliness → String
  | systemDefault => "SystemDefault"
  | automatic => "Automatic"
  | manualByTopic => "ManualByTopic"
  | unknown => "Unknown"

/-- A span of time. The zero span stands for "unspecified". -/
structure Duration where
  secs : UInt64 := 0
  nanos : Fin 1000000000 := 0
  deriving DecidableEq

/-- The number in the largest unit in which the whole part is not zero. -/
def Duration.text (d : Duration) : String :=
  let n := d.nanos.val
  if d.secs ≠ 0 then Text.fixed d.secs.toNat 9 n ++ "s"
  else if n ≥ 1000000 then Text.fixed (n / 1000000) 6 (n % 1000000) ++ "ms"
  else if n ≥ 1000 then Text.fixed (n / 1000) 3 (n % 1000) ++ "µs"
  else toString n ++ "ns"

/-- The default keeps the last ten samples, reliably, for present readers only. -/
structure QosProfile where
  history : History := .keepLast
  depth : UInt64 := 10
  reliability : Reliability := .reliable
  durability : Durability := .volatile
  deadline : Duration := {}
  lifespan : Duration := {}
  liveliness : Liveliness := .systemDefault
  livelinessLease : Duration := {}
  /-- Topic names need not start with a slash. -/
  avoidNamespaceConventions : Bool := false
  deriving DecidableEq

namespace QosProfile

def servicesDefault : QosProfile := {}

def sensorData : QosProfile := { depth := 5, reliability := .bestEffort }

def keepLast (q : QosProfile) (depth : UInt64) : QosProfile :=
  { q with history := .keepLast, depth }

def layout (q : QosProfile) : Text.Layout :=
  .record "QosProfile" [
    ("history", .word q.history.name),
    ("depth", .word64 q.depth),
    ("reliability", .word q.reliability.name),
    ("durability", .word q.durability.name),
    ("deadline", .word q.deadline.text),
    ("lifespan", .word q.lifespan.text),
    ("liveliness", .word q.liveliness.name),
    ("liveliness_lease_duration", .word q.livelinessLease.text),
    ("avoid_ros_namespace_conventions", .flag q.avoidNamespaceConventions)]

end QosProfile

inductive Compatibility
  | ok
  | warning
  | error
  deriving DecidableEq

def Compatibility.name : Compatibility → String
  | ok => "Ok"
  | warning => "Warning"
  | error => "Error"

/-- No match is ever refused. -/
def QosProfile.compatibility (_publisher _subscription : QosProfile) : Compatibility := .ok

end NullMiddleware
