import NullMiddleware.Config
import NullMiddleware.Participant

/-!
Contexts: they are initialized, then shut down, then finished.

A context owns the lifecycle of the participant that its nodes share, and each node is a guard on
it. The participant's domain is fixed when the context is initialized: the default one, or a
number below `2 ^ 32 - 1`.
-/

namespace NullMiddleware

/-- The number that asks for the default domain. -/
def defaultDomain : UInt64 := 0xffffffffffffffff

structure ContextOptions where
  instanceId : UInt64 := 0
  domain : UInt64 := defaultDomain
  enclave : Option String := none
  localhostOnly : Bool := false
  deriving DecidableEq

namespace ContextOptions

def ofConfig (c : Config) : ContextOptions where
  domain := (c.domain.map UInt32.toUInt64).getD defaultDomain
  enclave := some c.enclave
  localhostOnly := c.localhostOnly

def ofEnvironment (env : Environment) : ContextOptions := .ofConfig (.ofEnvironment env)

def resolveDomain (domain : UInt64) : Except Failure UInt32 :=
  if domain = defaultDomain then .ok 0
  else if domain.toNat < UInt32.size - 1 then .ok domain.toUInt32
  else .error (.domainOutOfRange domain)

/-- The participant that these options describe. A missing enclave is reported first. -/
def participant (o : ContextOptions) : Except Failure Participant :=
  match o.enclave with
  | none => .error .enclaveMissing
  | some enclave =>
    (resolveDomain o.domain).map fun domain =>
      { domain, instanceId := o.instanceId, enclave, localhostOnly := o.localhostOnly }

def layout (o : ContextOptions) : Text.Layout :=
  .record "InitOptions" [
    ("instance_id", .word64 o.instanceId),
    ("domain_id", .word64 o.domain),
    ("enclave", .option (o.enclave.map .text)),
    ("localhost_only", .flag o.localhostOnly)]

end ContextOptions

/-- A context with what its nodes share. That part stays for as long as there are nodes. -/
structure Context where
  options : ContextOptions
  /-- The sequences that its entities draw their ids from. -/
  sequences : Nat
  shared : Shared Participant Participant
  /-- The user still has the context: it was neither finished nor dropped. -/
  held : Bool := true

namespace Context

/-- A context with its first lines, or why there is none. -/
def init (options : ContextOptions) (sequences : Nat) : Except Failure Context × List LogLine :=
  match options.participant with
  | .error cause => (.error cause, [])
  | .ok p =>
    (.ok { options, sequences, shared := { lifecycle := { factory := p } } },
      [.contextInitialized options.instanceId p.domain])

def instanceId (c : Context) : UInt64 := c.options.instanceId

def domain (c : Context) : UInt32 := c.shared.lifecycle.factory.domain

/-- The number of live nodes. -/
def nodeCount (c : Context) : Nat := c.shared.lifecycle.count

def hasParticipant (c : Context) : Bool := c.shared.lifecycle.resource.isSome

def isShutDown (c : Context) : Bool := c.shared.lifecycle.shutDown

/-- The domain of the live participant. -/
def participantDomain (c : Context) : Option UInt32 :=
  c.shared.lifecycle.resource.map (·.domain)

def shutdown (c : Context) : Context × List LogLine :=
  ({ c with shared := { c.shared with lifecycle := c.shared.lifecycle.shutdown } },
    [.contextShutDown c.instanceId])

/-- The last lines of a context. One that is not shut down cannot be finished. -/
def finish (c : Context) : Except Failure (List LogLine) :=
  if c.isShutDown then
    .ok ((if c.nodeCount = 0 then [] else [.nodesLeft c.nodeCount]) ++
      [.contextFinished c.instanceId])
  else .error .contextNotShutDown

/-- The user lets the context go. -/
def letGo (c : Context) : Option Context × List LogLine :=
  let (shared, lines) := c.shared.letGo Participant.factory
  (shared.map fun shared => { c with shared, held := false }, lines)

/-- Registers a node, the first one with a new participant. -/
def attach (c : Context) : Except Failure Context × List LogLine :=
  let turn := c.shared.join Participant.factory
  let result := match turn.exit with
    | .returned (.ok _) => .ok { c with shared := turn.state }
    | .returned (.error cause) => .error cause
    | .panicked text => .error (.badAlloc text)
  (result, turn.trace)

/-- A node goes, the last one with the participant. -/
def detach (c : Context) : Option Context × List LogLine :=
  let turn := c.shared.depart Participant.factory
  (turn.state.map fun shared => { c with shared }, turn.trace)

def layout (c : Context) : Text.Layout :=
  .record "Context" [
    ("instance_id", .word64 c.instanceId),
    ("actual_domain_id", .nat c.domain.toNat),
    ("lifecycle", c.shared.lifecycle.layout)]

end Context
end NullMiddleware
