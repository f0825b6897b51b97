import NullMiddleware.Gid
import NullMiddleware.GuardCondition
import NullMiddleware.Registry
import NullMiddleware.Sequence

/-!
Guard conditions for callers in C, through handles that may be null.

A call with a null pointer where one is needed is refused and does nothing else. A callback is a
function and its user data; with either of them null, the call takes the callback away.
-/

namespace NullMiddleware

structure Boundary where
  ids : Sequence
  board : Switchboard
  /-- The guard conditions behind the live handles. -/
  handles : Registry GuardCondition

namespace Boundary

/-- The guard condition behind a handle. Null has none. -/
def guard? (x : Boundary) (handle : Option Nat) : Option GuardCondition :=
  handle.bind x.handles.get?

/-- Makes a guard condition and gives it the handle that `out` is to hold. -/
def create (out : Option Nat) (x : Boundary) : Status × Boundary :=
  match out with
  | none => (.invalidArgument, x)
  | some handle =>
    let (id, ids) := x.ids.draw
    let (g, board) := GuardCondition.create id x.board
    (.ok, { ids, board, handles := x.handles.put handle g })

def destroy (handle : Option Nat) (x : Boundary) : Status × Boundary :=
  match handle with
  | none => (.invalidArgument, x)
  | some handle => (.ok, { x with handles := x.handles.erase handle })

def trigger (handle : Option Nat) (x : Boundary) : Status × Ending × Boundary :=
  match x.guard? handle with
  | none => (.invalidArgument, .returned, x)
  | some g =>
    let (ending, board) := g.trigger x.board
    (.ok, ending, { x with board })

/-- Polls, and gives the value to be written to the place of the answer, which is present or
null. -/
def poll (handle : Option Nat) (place : Bool) (x : Boundary) :
    Status × Option Bool × Boundary :=
  match place, x.guard? handle with
  | true, some g =>
    let (unread, board) := g.poll x.board
    (.ok, some unread, { x with board })
  | _, _ => (.invalidArgument, none, x)

/-- The listener of a callback, if neither the function nor its data is null. -/
def callback (function : Bool) (userData : Option String) (b : Switchboard) :
    Option Listener × Switchboard :=
  match function, userData with
  | true, some label =>
    let (handler, b) := b.addHandler { label }
    (some { handler }, b)
  | _, _ => (none, b)

def listen (handle : Option Nat) (function : Bool) (userData : Option String)
    (x : Boundary) : Status × Ending × Option LogLine × Boundary :=
  match x.guard? handle with
  | none => (.invalidArgument, .returned, none, x)
  | some g =>
    let (listener, board) := callback function userData x.board
    let (ending, line, board) := g.register listener board
    (.ok, ending, line, { x with board })

end Boundary
end NullMiddleware
