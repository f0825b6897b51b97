import NullMiddleware.Lifecycle

/-!
Participants: what the nodes of a context share. Nothing is attached to one; it holds the
settings that it was made with.
-/

namespace NullMiddleware

structure Participant where
  domain : UInt32
  instanceId : UInt64
  enclave : String
  localhostOnly : Bool
  deriving DecidableEq

/-- Makes every participant after the one that is its state. -/
def Participant.factory : Factory Participant Participant LogLine where
  create p := (.made p, p, [.participantCreated p.domain p.enclave p.localhostOnly])
  destroy p gone := (none, p, [.participantDestroyed gone.domain])
  discard p _ := (p, [])
  say line := line

end NullMiddleware
