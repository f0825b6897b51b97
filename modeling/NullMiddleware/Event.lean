import NullMiddleware.Gid

/-!
Status events: each kind belongs to publishers or to subscriptions.
-/

namespace NullMiddleware

inductive EventKind
  | livelinessChanged
  | requestedDeadlineMissed
  | requestedQosIncompatible
  | messageLost
  | subscriptionIncompatibleType
  | subscriptionMatched
  | livelinessLost
  | offeredDeadlineMissed
  | offeredQosIncompatible
  | publisherIncompatibleType
  | publicationMatched
  deriving DecidableEq

namespace EventKind

def all : List EventKind :=
  [livelinessChanged, requestedDeadlineMissed, requestedQosIncompatible, messageLost,
    subscriptionIncompatibleType, subscriptionMatched, livelinessLost, offeredDeadlineMissed,
    offeredQosIncompatible, publisherIncompatibleType, publicationMatched]

def name : EventKind → String
  | livelinessChanged => "LivelinessChanged"
  | requestedDeadlineMissed => "RequestedDeadlineMissed"
  | requestedQosIncompatible => "RequestedQosIncompatible"
  | messageLost => "MessageLost"
  | subscriptionIncompatibleType => "SubscriptionIncompatibleType"
  | subscriptionMatched => "SubscriptionMatched"
  | livelinessLost => "LivelinessLost"
  | offeredDeadlineMissed => "OfferedDeadlineMissed"
  | offeredQosIncompatible => "OfferedQosIncompatible"
  | publisherIncompatibleType => "PublisherIncompatibleType"
  | publicationMatched => "PublicationMatched"

/-- The kind of endpoint that a status belongs to. -/
def side : EventKind → Side
  | livelinessChanged | requestedDeadlineMissed | requestedQosIncompatible | messageLost
  | subscriptionIncompatibleType | subscriptionMatched => .subscription
  | livelinessLost | offeredDeadlineMissed | offeredQosIncompatible
  | publisherIncompatibleType | publicationMatched => .publisher

/-- Refuses an event at an endpoint of the other kind. -/
def checkSide (kind : EventKind) (endpoint : Side) : Except Failure Unit :=
  if kind.side = endpoint then .ok ()
  else
    let side := match endpoint with
      | .publisher => "publisher"
      | .subscription => "subscription"
    .error (.invalidArgument (kind.name ++ " is not a " ++ side ++ " event"))

def layout (kind : EventKind) (latch : Text.Layout) : Text.Layout :=
  .record "Event" [("kind", .word kind.name), ("latch", latch)]

/-- The status itself is never produced. -/
def take (_ : EventKind) : Except Failure Unit := .error (.unsupported "rmw_take_event")

end EventKind

end NullMiddleware
