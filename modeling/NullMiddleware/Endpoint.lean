import NullMiddleware.Gid
import NullMiddleware.Log
import NullMiddleware.Node
import NullMiddleware.Qos
import NullMiddleware.Sequence

/-!
Endpoints: which names are accepted, and what an endpoint keeps and answers.

No data moves: publishing drops the message, and all that would need a transport is refused.
-/

namespace NullMiddleware

def Role.kind : Role → EntityKind
  | publisher => .publishers
  | subscription => .subscriptions
  | service => .services
  | client => .clients

/-- A topic is absolute, unless its profile avoids the conventions; a service name is only not
empty. -/
def Role.checkName (role : Role) (name : String) (qos : QosProfile) : Except Failure Unit :=
  match role with
  | publisher | subscription =>
    if name.isEmpty then .error .topicEmpty
    else if !qos.avoidNamespaceConventions && !startsWithSlash name then
      .error (.topicRelative name)
    else .ok ()
  | service | client => if name.isEmpty then .error .serviceEmpty else .ok ()

structure Publisher where
  id : UInt64
  topic : String
  qos : QosProfile
  uniqueFlow : Bool

structure Subscription where
  id : UInt64
  topic : String
  qos : QosProfile
  ignoreLocal : Bool
  /-- Kept as given and never evaluated. -/
  filter : Option String

structure Service where
  id : UInt64
  name : String
  qos : QosProfile

structure Client where
  id : UInt64
  name : String
  qos : QosProfile

namespace Publisher

def gid (p : Publisher) : Gid := .ofEndpoint .publisher p.id

/-- Accepts a message and drops it. -/
def publish (p : Publisher) : Except Failure Unit × List LogLine :=
  (.ok (), [.publicationDropped p.topic])

def publishSerialized (_ : Publisher) : Except Failure Unit :=
  .error (.unsupported "rmw_publish_serialized_message")

/-- No subscription is ever discovered. -/
def matchedSubscriptions (_ : Publisher) : Except Failure Nat := .ok 0

def assertLiveliness (_ : Publisher) : Except Failure Unit :=
  .error (.unsupported "rmw_publisher_assert_liveliness")

def layout (p : Publisher) : Text.Layout :=
  .record "Publisher" [
    ("id", .word64 p.id),
    ("gid", p.gid.layout),
    ("topic_name", .text p.topic),
    ("qos", p.qos.layout),
    ("options", .record "PublisherOptions" [
      ("require_unique_network_flow_endpoints", .flag p.uniqueFlow)])]

end Publisher

namespace Subscription

def gid (s : Subscription) : Gid := .ofEndpoint .subscription s.id

def take (_ : Subscription) : Except Failure Unit := .error (.unsupported "rmw_take")

def matchedPublishers (_ : Subscription) : Except Failure Nat :=
  .error (.unsupported "rmw_subscription_count_matched_publishers")

def layout (s : Subscription) (latch : Text.Layout) : Text.Layout :=
  .record "Subscription" [
    ("id", .word64 s.id), ("topic_name", .text s.topic), ("new_message", latch)]

end Subscription

namespace Service

def takeRequest (_ : Service) : Except Failure Unit :=
  .error (.unsupported "rmw_take_request")

def sendResponse (_ : Service) : Except Failure Unit :=
  .error (.unsupported "rmw_send_response")

/-- The profile of the requests and of the responses, whatever was asked for. -/
def actualQos (_ : Service) : QosProfile := .servicesDefault

def layout (s : Service) (latch : Text.Layout) : Text.Layout :=
  .record "Service" [
    ("id", .word64 s.id), ("service_name", .text s.name), ("new_request", latch)]

end Service

namespace Client

def sendRequest (_ : Client) : Except Failure Unit := .error (.unsupported "rmw_send_request")

def takeResponse (_ : Client) : Except Failure Unit :=
  .error (.unsupported "rmw_take_response")

def actualQos (_ : Client) : QosProfile := .servicesDefault

def layout (c : Client) (latch : Text.Layout) : Text.Layout :=
  .record "Client" [
    ("id", .word64 c.id), ("service_name", .text c.name), ("new_response", latch)]

end Client

/-- No server is ever discovered. -/
def Node.serviceAvailable (_ : Node) (_ : Client) : Bool := false

end NullMiddleware
