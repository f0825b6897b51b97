import NullMiddleware.Log

/-!
Latches: where triggers wait for a consumer.

A latch that no listener attends counts the triggers and raises a flag that polls read; an
attended one hands each trigger to its listener at once. Installing a listener always empties the
backlog: it is replayed to the new listener or dropped.

An operation is given as a `Step`: the calls it makes, in order, and the latch before and after
them. While the calls run, the latch is `during`, and stays so if one of them does not return.
-/

namespace NullMiddleware

/-- How a backlog is replayed. -/
inductive Granularity
  /-- In one call that carries its size. -/
  | coalesced
  /-- In one call for each trigger. -/
  | perEvent
  deriving DecidableEq

def Granularity.name : Granularity → String
  | coalesced => "Coalesced"
  | perEvent => "PerEvent"

structure Latch (L : Type) where
  mode : Granularity
  /-- Triggers that nobody has consumed. -/
  pending : UInt64 := 0
  unread : Bool := false
  listener : Option L := none

namespace Latch

variable {L : Type}

structure Step (L : Type) where
  /-- Each listener with the number of triggers that the call carries. -/
  calls : List (L × Nat) := []
  during : Latch L
  after : Latch L := during
  line : Option LogLine := none

def new (mode : Granularity) : Latch L := { mode }

def attended (l : Latch L) : Bool := l.listener.isSome

def trigger (l : Latch L) : Step L :=
  match l.listener with
  | some listener => { calls := [(listener, 1)], during := l }
  | none => { during := { l with pending := l.pending + 1, unread := true } }

/-- Reads the flag and flips it: with no trigger in between, polls alternate. The backlog is
consumed either way. -/
def poll (l : Latch L) : Bool × Latch L :=
  (l.unread, { l with unread := !l.unread, pending := 0 })

def replay (mode : Granularity) (listener : L) (backlog : Nat) : List (L × Nat) :=
  match mode with
  | .coalesced => if backlog = 0 then [] else [(listener, backlog)]
  | .perEvent => List.replicate backlog (listener, 1)

/-- Installs a listener. It attends the latch only after it has taken the backlog. -/
def install (l : Latch L) (listener : L) (replayPrevious : Bool) : Step L :=
  let backlog := l.pending.toNat
  let drained := { l with pending := 0, unread := false }
  { calls := if replayPrevious then replay l.mode listener backlog else []
    during := drained
    after := { drained with listener := some listener }
    line := if replayPrevious || backlog = 0 then none else some (.backlogDropped backlog) }

/-- Takes the listener away. The backlog and the flag stay. -/
def clear (l : Latch L) : Step L :=
  { during := { l with listener := none }
    line := if l.attended then some .listenerCleared else none }

def register (l : Latch L) (listener : Option L) (replayPrevious : Bool) : Step L :=
  match listener with
  | some listener => l.install listener replayPrevious
  | none => l.clear

def layout (l : Latch L) : Text.Layout :=
  .record "EventLatch" [
    ("replay_mode", .word l.mode.name),
    ("pending", .word64 l.pending),
    ("has_triggered", .flag l.unread),
    ("attended", .flag l.attended)]

end Latch
end NullMiddleware
