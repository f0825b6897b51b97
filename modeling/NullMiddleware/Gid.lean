import NullMiddleware.Failure

/-!
Global identifiers of endpoints.

A gid carries the name of the implementation that issued it and 24 bytes. In a gid issued here
the first eight bytes hold the endpoint's id, the least significant first, the next holds its
kind, and the rest are zero. Publishers and subscriptions count their ids apart; the kind keeps
their gids apart.
-/

namespace NullMiddleware

/-- The name of this implementation, stamped on what it issues. -/
def implementationIdentifier : String := "rmw_stub_rs"

inductive Side
  | publisher
  | subscription
  deriving DecidableEq

def Side.code : Side → UInt8
  | publisher => 1
  | subscription => 2

def gidSize : Nat := 24

structure Gid where
  implementation : String
  data : Vector UInt8 gidSize
  deriving DecidableEq

namespace Gid

/-- Byte `i` of a word, counted from the least significant. -/
def wordByte (w : UInt64) (i : Nat) : UInt8 := (w >>> (8 * i).toUInt64).toUInt8

/-- The gid issued here for an endpoint. -/
def ofEndpoint (kind : Side) (id : UInt64) : Gid where
  implementation := implementationIdentifier
  data := Vector.ofFn fun i =>
    if i.val < 8 then wordByte id i.val else if i.val = 8 then kind.code else 0

def isOwn (g : Gid) : Bool := g.implementation == implementationIdentifier

/-- Refuses a gid that was not issued here. -/
def checkOwn (g : Gid) : Except Failure Unit :=
  if g.isOwn then .ok ()
  else .error (.incorrectImplementation implementationIdentifier g.implementation)

/-- Whether two gids name the same endpoint. The first one is checked first. -/
def compare (a b : Gid) : Except Failure Bool := do
  a.checkOwn
  b.checkOwn
  return a.data == b.data

def layout (g : Gid) : Text.Layout :=
  .record "Gid" [("implementation_identifier", .text g.implementation),
    ("data", .list (g.data.toList.map fun b => .nat b.toNat))]

end Gid
end NullMiddleware
