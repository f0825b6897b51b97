import NullMiddleware.GuardCondition
import NullMiddleware.Proofs.Switchboard.Labels
import NullMiddleware.Registry
import NullMiddleware.Sequence

/-!
Guard conditions in direct use.

Each is an object of its own, which shares nothing with the others but the sequence of ids: here it
is on a board that nothing else uses. On a board with others it has the same effects, as long as the
handlers only record their calls.
-/

namespace NullMiddleware

/-- What is seen of a use of guard conditions, or of a request for one. -/
structure Effect where
  ending : Ending := .returned
  calls : List Call := []
  /-- The answer of a poll. -/
  written : Option Bool := none
  /-- The id of a new guard condition. -/
  drawn : Option UInt64 := none
  line : Option LogLine := none
  deriving DecidableEq

/-- The effect of an operation on a latch. -/
def Effect.ofOperation (seen : Ending × Latch.Report Call) : Effect where
  ending := seen.1
  calls := seen.2.calls
  written := seen.2.answer
  line := seen.2.line

namespace Switchboard

/-- The calls recorded between two states of a board. -/
def callsSince (before after : Switchboard) : List Call :=
  after.record.toList.drop before.record.size

@[simp] lemma callsSince_self (b : Switchboard) : b.callsSince b = [] := by simp [callsSince]

/-- Adds a handler of this label, if there is one. -/
def supply (label : Option String) (b : Switchboard) : Option Nat × Switchboard :=
  match label with
  | none => (none, b)
  | some label =>
    let (handler, b) := b.addHandler { label }
    (some handler, b)

variable {b : Switchboard}

lemma Quiet.supply (quiet : b.Quiet) (label : Option String) : (b.supply label).2.Quiet := by
  rcases label with _ | label
  · exact quiet
  · exact quiet.addHandler label

lemma Plays.supply {n : Nat} {l : Latch String} (h : b.Plays n l) (label : Option String) :
    (b.supply label).2.Plays n l := by
  rcases label with _ | label
  · exact h
  · exact h.addHandler { label }

lemma latches_supply (label : Option String) : (b.supply label).2.latches = b.latches := by
  rcases label with _ | label <;> rfl

end Switchboard

/-! ### Direct use -/

namespace GuardCondition

open Latch (Operation)
open Switchboard (operate named)

/-- What can be done with a guard condition. -/
inductive Action
  | trigger
  | poll
  /-- Installs a callback that is known by the label, or takes the callback away. -/
  | listen (label : Option String)

inductive Use
  | create (name : Nat)
  | act (name : Nat) (action : Action)
  | drop (name : Nat)

/-- A way to give a guard condition a handler, or to take it away. -/
def Attachment : Type :=
  GuardCondition → Option Nat → Switchboard → Ending × Option LogLine × Switchboard

namespace Attachment

def listener : Attachment := fun g handler b => g.register (handler.map fun k => { handler := k }) b

def callback : Attachment := fun g handler b =>
  match handler with
  | some k => g.install k b
  | none => g.clear b

/-- It makes no difference in which way a handler is installed. -/
lemma listener_eq_callback : listener = callback := by
  funext g handler b
  rcases handler with _ | k <;> rfl

end Attachment

/-- A guard condition on a board that nothing else uses. -/
structure Solo where
  guard : GuardCondition
  board : Switchboard

namespace Solo

def create (id : UInt64) : Solo :=
  let (guard, board) := GuardCondition.create id {}
  { guard, board }

def perform (attach : Attachment) (s : Solo) : Action → Effect × Solo
  | .trigger =>
    let (ending, board) := s.guard.trigger s.board
    ({ ending, calls := s.board.callsSince board }, { s with board })
  | .poll =>
    let (unread, board) := s.guard.poll s.board
    ({ calls := s.board.callsSince board, written := some unread }, { s with board })
  | .listen label =>
    let (handler, board) := s.board.supply label
    let (ending, line, board) := attach s.guard handler board
    ({ ending, calls := s.board.callsSince board, line }, { s with board })

end Solo

/-- Guard conditions in direct use. -/
structure Direct where
  ids : Sequence
  guards : Registry Solo

def Direct.perform (attach : Attachment) (d : Direct) : Use → Effect × Direct
  | .create name =>
    let (id, ids) := d.ids.draw
    let s := Solo.create id
    ({ drawn := some s.guard.id }, { ids, guards := d.guards.put name s })
  | .act name action =>
    match d.guards.get? name with
    | none => ({}, d)
    | some s =>
      let (effect, s) := s.perform attach action
      (effect, { d with guards := d.guards.put name s })
  | .drop name => ({}, { d with guards := d.guards.erase name })

/-! ### One action on a board -/

namespace Action

def label? : Action → Option String
  | .listen label => label
  | _ => none

def operation : Action → Operation String
  | .trigger => .trigger
  | .poll => .poll
  | .listen label => .register label true

/-- The operation on the latch, once the handler has a number. -/
def wired (handler : Option Nat) : Action → Operation Listener
  | .trigger => .trigger
  | .poll => .poll
  | .listen _ => .register (handler.map fun k => { handler := k }) true

lemma map_wired (a : Action) (b : Switchboard) :
    (a.wired (b.supply a.label?).1).map (b.supply a.label?).2.voice = a.operation.map named := by
  cases a with
  | trigger => rfl
  | poll => rfl
  | listen label =>
    rcases label with _ | label
    · rfl
    · simp [wired, label?, operation, Switchboard.supply, Operation.map,
        Switchboard.voice_addHandler]

def carryOut (a : Action) (n : Nat) (b : Switchboard) : Effect × Switchboard :=
  let (handler, b) := b.supply a.label?
  let (seen, b) := operate n b (a.wired handler)
  (.ofOperation seen, b)

end Action

lemma Solo.perform_eq (s : Solo) (a : Action) :
    s.perform .listener a =
      ((a.carryOut s.guard.latch s.board).1,
        { s with board := (a.carryOut s.guard.latch s.board).2 }) := by
  cases a with
  | trigger => rfl
  | poll => rfl
  | listen label => rcases label with _ | label <;> rfl

variable {b : Switchboard} {g : GuardCondition} {s : Solo}

/-- The guard condition does on the board what it does alone. -/
def Twin (b : Switchboard) (g : GuardCondition) (s : Solo) : Prop :=
  s.board.Quiet ∧ ∃ l, b.Plays g.latch l ∧ s.board.Plays s.guard.latch l

lemma Twin.present (h : Twin b g s) : g.latch < b.latches.size := by
  obtain ⟨-, l, hplays, -⟩ := h
  exact hplays.present

lemma Twin.act (h : Twin b g s) (quiet : b.Quiet) (a : Action) :
    (a.carryOut g.latch b).1 = (s.perform .listener a).1 ∧
      (a.carryOut g.latch b).1.ending = .returned ∧
      Twin (a.carryOut g.latch b).2 g (s.perform .listener a).2 := by
  obtain ⟨hquiet, l, hboard, halone⟩ := h
  obtain ⟨hseen, hplays⟩ := (hboard.supply a.label?).operate (quiet.supply _) (a.map_wired b)
  obtain ⟨hseen', hplays'⟩ :=
    (halone.supply a.label?).operate (hquiet.supply _) (a.map_wired s.board)
  rw [s.perform_eq]
  refine ⟨?_, ?_, ?_, _, hplays, hplays'⟩
  · simp only [Action.carryOut, hseen, hseen']
  · simp only [Action.carryOut, hseen, Effect.ofOperation]
  · exact (hquiet.supply _).operate (halone.supply a.label?).present _

lemma Action.quiet_carryOut (quiet : b.Quiet) {n : Nat} (hn : n < b.latches.size) (a : Action) :
    (a.carryOut n b).2.Quiet := by
  rw [← Switchboard.latches_supply a.label?] at hn
  exact (quiet.supply _).operate hn _

/-- The others do not notice. -/
lemma Action.plays_carryOut (quiet : b.Quiet) {n m : Nat} {l : Latch String} (h : b.Plays m l)
    (hn : n < b.latches.size) (hne : m ≠ n) (a : Action) : (a.carryOut n b).2.Plays m l := by
  rw [← Switchboard.latches_supply a.label?] at hn
  exact (h.supply _).operate_of_ne (quiet.supply _) hn hne _

end GuardCondition
end NullMiddleware
