import NullMiddleware.Switchboard

/-!
Guard conditions: latches that the application itself triggers. One may be polled, or be given a
callback, which first receives the triggers so far in one call.
-/

namespace NullMiddleware

structure GuardCondition where
  id : UInt64
  /-- The number of its latch. -/
  latch : Nat

namespace GuardCondition

def create (id : UInt64) (b : Switchboard) : GuardCondition × Switchboard :=
  let (latch, b) := b.addLatch .coalesced
  ({ id, latch }, b)

def trigger (g : GuardCondition) (b : Switchboard) : Ending × Switchboard := b.trigger g.latch

/-- Reads the flag and flips it. -/
def poll (g : GuardCondition) (b : Switchboard) : Bool × Switchboard := b.poll g.latch

def register (g : GuardCondition) (listener : Option Listener) (b : Switchboard) :
    Ending × Option LogLine × Switchboard :=
  b.register g.latch listener true

/-- Installs handler number `handler`. -/
def install (g : GuardCondition) (handler : Nat) (b : Switchboard) :
    Ending × Option LogLine × Switchboard :=
  g.register (some { handler }) b

def clear (g : GuardCondition) (b : Switchboard) :
    Ending × Option LogLine × Switchboard :=
  g.register none b

def layout (g : GuardCondition) (b : Switchboard) : Text.Layout :=
  .record "GuardCondition" [("id", .word64 g.id), ("latch", (b.latch g.latch).layout)]

end GuardCondition
end NullMiddleware
