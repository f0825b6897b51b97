import NullMiddleware.Session.Basic

/-!
The steps of a session and what they answer.
-/

namespace NullMiddleware

structure HandlerSpec where
  label : String
  /-- The name of the object that the handler triggers. -/
  forward : Option String := none
  panicOn : Nat := 0

inductive ListenerSpec
  /-- A listener with a handler of its own. -/
  | own (handler : HandlerSpec) (token : Option UInt64)
  /-- A listener that shares the handler of this name. -/
  | shared (handler : String) (token : Option UInt64)

/-- What is asked of a sequence. -/
inductive SequenceCall
  | next
  | peek
  | reset

/-- What is asked of a lifecycle. -/
inductive LifecycleCall
  | acquire
  | release

/-- A gid that is written out, or the one of a named endpoint. -/
inductive GidSource
  | gid (g : Gid)
  | endpoint (name : String)

inductive Action
  -- latches
  | newLatch (mode : Granularity)
  | newHandler (spec : HandlerSpec)
  | register (listener : Option ListenerSpec) (replayPrevious : Bool)
  /-- Installs a callback and says nothing of it. -/
  | installCallback (listener : ListenerSpec)
  | clearCallback
  | latchInfo
  | trigger (times : Nat)
  | poll (times : Nat)
  -- sequences
  | newSequence (start : UInt64)
  | sequence (call : SequenceCall)
  | drawIds (count : Nat)
  | newSequences (start : EntityKind → UInt64)
  | sequences (kind : EntityKind) (call : SequenceCall)
  | resetSequences
  | describeSequences (long : Bool)
  -- lifecycles
  | newLifecycle (script : Script)
  | lifecycle (call : LifecycleCall)
  | lifecycleStatus (call : LifecycleCall)
  | lifecycleTally (call : LifecycleCall) (times : Nat)
  | shutdownLifecycle
  | lifecycleInfo
  | join
  -- contexts and nodes
  | init (options : ContextOptions) (sequences : Option String)
  | contextInfo
  | shutdown
  | finish
  | createNode (name scope : String)
  | createGuardCondition
  | nodeInfo
  | createPublisher (topic : String) (qos : QosProfile) (uniqueFlow : Bool)
  | createSubscription (topic : String) (qos : QosProfile) (ignoreLocal : Bool)
      (filter : Option String)
  | createService (name : String) (qos : QosProfile)
  | createClient (name : String) (qos : QosProfile)
  | serviceAvailable (client : String)
  -- endpoints
  | endpointInfo
  | publish
  | publishSerialized
  | assertLiveliness
  | countMatched
  | take
  | sendResponse
  | sendRequest
  | takeResponse
  | newEvent (kind : EventKind)
  | compareGids (a b : GidSource)
  /-- Compares a gid with one that holds the same bytes and another name, both ways. -/
  | compareForeign (implementation : String)
  -- the C boundary
  | createHandle (nullOut : Bool)
  | destroyHandle
  | triggerHandle (times : Nat)
  | pollHandle (place : Option Bool)
  | listenHandle (function : Bool) (userData : Option String)
  -- any object
  | describe (long : Bool)
  | drop

structure Step where
  action : Action
  /-- The name of the object acted on. -/
  subject : Option String := none
  /-- The name for the object created. -/
  result : Option String := none

inductive Reply
  | nothing
  | id (id : UInt64)
  | ids (ids : List UInt64)
  | flag (b : Bool)
  | flags (bs : List Bool)
  | count (n : Nat)
  | text (s : String)
  | failure (cause : Failure)
  | status (s : Status)
  | statuses (s : List Status)
  | latch (pending : Nat) (attended : Bool) (mode : Granularity)
  | lifecycle (count : Nat) (shutDown : Bool) (resource : Option Nat)
  | tally (ok failed : Nat)
  | context (c : Context)
  | node (n : Node) (domain : Option UInt32)
  | publisher (p : Publisher)
  | subscription (s : Subscription)
  | service (s : Service)
  | client (c : Client)
  | comparisons (results : List (Except Failure Bool))
  | comparison (result : Except Failure Bool)
  | handle (status : Status) (isNull : Bool)
  /-- The status of a poll and what the place of its answer holds then. -/
  | polled (status : Status) (place : Bool)

/-- The reply of a call that has no value to return. -/
def Reply.ofResult : Except Failure Unit → Reply
  | .ok _ => .nothing
  | .error cause => .failure cause

structure Answer where
  exit : Exit Reply
  trace : Array Entry
  /-- The text of the object acted on, and of the one created. -/
  subject : Option String
  created : Option String

end NullMiddleware
