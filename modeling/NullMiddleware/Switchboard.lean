import NullMiddleware.Latch

/-!
Latches wired to handlers.

A listener is a handler together with the token that is echoed to it; one handler may serve many
latches. When called, a handler records the call and may then panic or trigger one more latch.
Handlers run while their latch is held, so a chain of calls that comes back to a held latch
cannot go on.
-/

namespace NullMiddleware

structure Listener where
  /-- The number of the handler. -/
  handler : Nat
  token : Option UInt64 := none
  deriving DecidableEq

namespace Listener

/-- The token, or the unit value where there is none. -/
def tokenLayout (l : Listener) : Text.Layout :=
  match l.token with
  | some t => .tuple "SourceToken" [.word64 t]
  | none => .word "()"

def layout (l : Listener) : Text.Layout := .excerpt "Listener" [("handle", l.tokenLayout)]

end Listener

structure Handler where
  label : String
  /-- The latch that the handler triggers. -/
  forward : Option Nat := none
  /-- The number of the call, counted from one, that panics; zero for none. -/
  panicOn : Nat := 0
  calls : Nat := 0
  deriving DecidableEq

/-- What a handler records. -/
structure Call where
  label : String
  token : Option UInt64
  count : Nat
  deriving DecidableEq

/-- How an operation on the switchboard came to its end. -/
inductive Ending
  | returned
  /-- The handler of this label panicked. -/
  | panicked (label : String)
  /-- The latch was entered while it was held. -/
  | blocked (latch : Nat)
  deriving DecidableEq

def Handler.panicText (label : String) : String := "handler " ++ label ++ " panicked"

structure Switchboard where
  latches : Array (Latch Listener) := #[]
  handlers : Array Handler := #[]
  /-- The record of all calls, in order. -/
  record : Array Call := #[]

namespace Switchboard

def addLatch (b : Switchboard) (mode : Granularity) : Nat × Switchboard :=
  (b.latches.size, { b with latches := b.latches.push (.new mode) })

def addHandler (b : Switchboard) (h : Handler) : Nat × Switchboard :=
  (b.handlers.size, { b with handlers := b.handlers.push h })

/-- The latch of a number; a fresh one where there is none. -/
def latch (b : Switchboard) (n : Nat) : Latch Listener :=
  b.latches[n]?.getD (.new .coalesced)

def setLatch (b : Switchboard) (n : Nat) (l : Latch Listener) : Switchboard :=
  { b with latches := b.latches.setIfInBounds n l }

/-- One call of a handler, which forwards by `fire`. -/
def call (fire : Nat → Switchboard → Ending × Switchboard) (listener : Listener) (count : Nat)
    (b : Switchboard) : Ending × Switchboard :=
  match b.handlers[listener.handler]? with
  | none => (.returned, b)
  | some h =>
    let called := { h with calls := h.calls + 1 }
    let b := { b with
      handlers := b.handlers.setIfInBounds listener.handler called
      record := b.record.push ⟨h.label, listener.token, count⟩ }
    if called.calls = h.panicOn then (.panicked h.label, b)
    else
      match h.forward with
      | none => (.returned, b)
      | some n => fire n b

/-- Makes calls in order, up to the first that does not return. -/
def deliver (fire : Nat → Switchboard → Ending × Switchboard) :
    List (Listener × Nat) → Switchboard → Ending × Switchboard
  | [], b => (.returned, b)
  | (listener, count) :: rest, b =>
    match call fire listener count b with
    | (.returned, b) => deliver fire rest b
    | stopped => stopped

/-- Carries out a step on latch `n`. -/
def perform (fire : Nat → Switchboard → Ending × Switchboard) (n : Nat)
    (step : Latch.Step Listener) (b : Switchboard) : Ending × Switchboard :=
  match deliver fire step.calls (b.setLatch n step.during) with
  | (.returned, b) => (.returned, b.setLatch n step.after)
  | stopped => stopped

/-- Triggers latch `n` while the latches in `held` are held. Each level of calls holds one more
latch, so `fuel` above the number of latches is never used up. -/
def triggerHolding : Nat → List Nat → Nat → Switchboard → Ending × Switchboard
  | 0, _, n, b => (.blocked n, b)
  | fuel + 1, held, n, b =>
    if n ∈ held then (.blocked n, b)
    else perform (triggerHolding fuel (n :: held)) n (b.latch n).trigger b

def fuel (b : Switchboard) : Nat := b.latches.size + 1

def trigger (n : Nat) (b : Switchboard) : Ending × Switchboard :=
  triggerHolding b.fuel [] n b

/-- Triggers latch `n` again and again, up to the first time that does not return. -/
def triggerTimes (n : Nat) : Nat → Switchboard → Ending × Switchboard
  | 0, b => (.returned, b)
  | times + 1, b =>
    match b.trigger n with
    | (.returned, b) => triggerTimes n times b
    | stopped => stopped

def poll (n : Nat) (b : Switchboard) : Bool × Switchboard :=
  let (unread, l) := (b.latch n).poll
  (unread, b.setLatch n l)

def pollTimes (n : Nat) : Nat → Switchboard → List Bool × Switchboard
  | 0, b => ([], b)
  | times + 1, b =>
    let (unread, b) := b.poll n
    let (rest, b) := pollTimes n times b
    (unread :: rest, b)

def register (n : Nat) (listener : Option Listener) (replayPrevious : Bool) (b : Switchboard) :
    Ending × Option LogLine × Switchboard :=
  let step := (b.latch n).register listener replayPrevious
  match perform (triggerHolding b.fuel [n]) n step b with
  | (.returned, b) => (.returned, step.line, b)
  | (stopped, b) => (stopped, none, b)

end Switchboard
end NullMiddleware
