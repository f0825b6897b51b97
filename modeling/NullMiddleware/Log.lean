import NullMiddleware.Failure
import NullMiddleware.Role

/-!
The lines that the middleware gives to its log, each with a level, the part of the middleware
that speaks, and a text.
-/

namespace NullMiddleware

inductive Level
  | error
  | warn
  | info
  | debug
  | trace
  deriving DecidableEq

def Level.name : Level → String
  | error => "ERROR"
  | warn => "WARN"
  | info => "INFO"
  | debug => "DEBUG"
  | trace => "TRACE"

/-- The part of the middleware that speaks. -/
inductive Speaker
  | latch
  | lifecycle
  | context
  | participant
  | node
  | publisher
  | boundary
  deriving DecidableEq

/-- The name a log filter knows the speaker by. -/
def Speaker.target : Speaker → String
  | latch => "rmw_stub::event_latch"
  | lifecycle => "rmw_stub::lifecycle"
  | context => "rmw_stub::rmw::context"
  | participant => "rmw_stub::rmw::participant"
  | node => "rmw_stub::rmw::node"
  | publisher => "rmw_stub::rmw::publisher"
  | boundary => "rmw_stub::ffi"

inductive LogLine
  | listenerCleared
  | backlogDropped (count : Nat)
  | resourceCreated
  | resourceDestroyed
  /-- A guard was dropped when nobody was registered any more. -/
  | releaseFailed (cause : Failure)
  /-- The last owner of a lifecycle left while dependents were registered. -/
  | dependentsLeft (count : Nat)
  | contextInitialized (instanceId : UInt64) (domain : UInt32)
  | contextShutDown (instanceId : UInt64)
  | nodesLeft (count : Nat)
  | contextFinished (instanceId : UInt64)
  | participantCreated (domain : UInt32) (enclave : String) (localhostOnly : Bool)
  | participantDestroyed (domain : UInt32)
  | nodeCreated (name scope : String)
  | nodeDestroyed (qualified : String)
  | endpointCreated (role : Role) (id : UInt64) (name : String)
  | publicationDropped (topic : String)
  | configuration (domain : Option UInt32) (localhostOnly : Bool) (enclave level : String)
  deriving DecidableEq

namespace LogLine

def speaker : LogLine → Speaker
  | listenerCleared | backlogDropped _ => .latch
  | resourceCreated | resourceDestroyed | releaseFailed _ | dependentsLeft _ => .lifecycle
  | contextInitialized _ _ | contextShutDown _ | nodesLeft _ | contextFinished _ => .context
  | participantCreated _ _ _ | participantDestroyed _ => .participant
  | nodeCreated _ _ | nodeDestroyed _ | endpointCreated _ _ _ => .node
  | publicationDropped _ => .publisher
  | configuration _ _ _ _ => .boundary

def level : LogLine → Level
  | releaseFailed _ | dependentsLeft _ | nodesLeft _ => .error
  | contextInitialized _ _ | participantCreated _ _ _ | participantDestroyed _
  | configuration _ _ _ _ => .info
  | listenerCleared => .trace
  | _ => .debug

/-- What every complaint about left-over dependents ends with. -/
def advice : String :=
  "ensure every node is destroyed before finishing the context to avoid leaking"

def text : LogLine → String
  | listenerCleared => "latch listener cleared"
  | backlogDropped n =>
    "dropping " ++ toString n ++ " buffered trigger(s) on listener registration"
  | resourceCreated => "shared resource created"
  | resourceDestroyed => "shared resource destroyed"
  | releaseFailed cause => "lifecycle release failed: " ++ cause.message
  | dependentsLeft n =>
    toString n ++ " dependent(s) still registered while finishing the context; " ++ advice
  | contextInitialized i d =>
    "context initialized: instance_id=" ++ toString i.toNat ++ ", domain_id=" ++
      toString d.toNat
  | contextShutDown i => "context " ++ toString i.toNat ++ " shut down"
  | nodesLeft n =>
    toString n ++ " node(s) still alive while finishing the context; " ++ advice
  | contextFinished i => "context " ++ toString i.toNat ++ " finished"
  | participantCreated d e l =>
    "creating participant: domain_id=" ++ toString d.toNat ++ ", enclave='" ++ e ++
      "', localhost_only=" ++ toString l
  | participantDestroyed d => "destroying participant for domain " ++ toString d.toNat
  | nodeCreated name scope => "node '" ++ name ++ "' created in '" ++ scope ++ "'"
  | nodeDestroyed q => "node '" ++ q ++ "' destroyed"
  | endpointCreated role i name =>
    role.name ++ " " ++ toString i.toNat ++ " on '" ++ name ++ "'"
  | publicationDropped topic => "publish on '" ++ topic ++ "' (dropped)"
  | configuration d l e v =>
    let domain := Text.Layout.option (d.map fun n => .nat n.toNat)
    "Environment config: domain_id=" ++ domain.inline ++ ", localhost_only=" ++ toString l ++
      ", enclave='" ++ e ++ "', log_level=" ++ v

/-- Every line starts with the same tag. -/
def message (line : LogLine) : String := "[rmw_stub] " ++ line.text

end LogLine
end NullMiddleware
