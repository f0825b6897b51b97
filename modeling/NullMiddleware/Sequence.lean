import NullMiddleware.Text.Layout

/-!
Ids for entities: each kind of entity draws from a sequence of its own. Ids are 64-bit words, so
a sequence runs from its start to the largest word and on from zero.
-/

namespace NullMiddleware

structure Sequence where
  start : UInt64 := 0
  next : UInt64 := start
  deriving DecidableEq

namespace Sequence

def startingAt (start : UInt64) : Sequence := { start }

/-- Hands out the next id. -/
def draw (s : Sequence) : UInt64 × Sequence := (s.next, { s with next := s.next + 1 })

def reset (s : Sequence) : Sequence := { s with next := s.start }

/-- The next `n` ids, in the order in which they are handed out. -/
def drawMany (s : Sequence) : Nat → List UInt64 × Sequence
  | 0 => ([], s)
  | n + 1 =>
    let (id, s) := s.draw
    let (ids, s) := s.drawMany n
    (id :: ids, s)

@[simp] theorem draw_fst (s : Sequence) : s.draw.1 = s.next := rfl
@[simp] theorem draw_snd_start (s : Sequence) : s.draw.2.start = s.start := rfl
@[simp] theorem draw_snd_next (s : Sequence) : s.draw.2.next = s.next + 1 := rfl
@[simp] theorem reset_start (s : Sequence) : s.reset.start = s.start := rfl
@[simp] theorem reset_next (s : Sequence) : s.reset.next = s.start := rfl

def layout (s : Sequence) : Text.Layout :=
  .record "IdSequence" [("start", .word64 s.start), ("next", .word64 s.next)]

end Sequence

inductive EntityKind
  | publishers
  | subscriptions
  | services
  | clients
  | guardConditions
  deriving DecidableEq

def EntityKind.all : List EntityKind :=
  [publishers, subscriptions, services, clients, guardConditions]

def EntityKind.name : EntityKind → String
  | publishers => "publishers"
  | subscriptions => "subscriptions"
  | services => "services"
  | clients => "clients"
  | guardConditions => "guard_conditions"

structure Numbering where
  publishers : Sequence := {}
  subscriptions : Sequence := {}
  services : Sequence := {}
  clients : Sequence := {}
  guardConditions : Sequence := {}
  deriving DecidableEq

namespace Numbering

def get (s : Numbering) : EntityKind → Sequence
  | .publishers => s.publishers
  | .subscriptions => s.subscriptions
  | .services => s.services
  | .clients => s.clients
  | .guardConditions => s.guardConditions

def set (s : Numbering) (kind : EntityKind) (q : Sequence) : Numbering :=
  match kind with
  | .publishers => { s with publishers := q }
  | .subscriptions => { s with subscriptions := q }
  | .services => { s with services := q }
  | .clients => { s with clients := q }
  | .guardConditions => { s with guardConditions := q }

/-- Sequences with the given starts. -/
def startingAt (start : EntityKind → UInt64) : Numbering where
  publishers := .startingAt (start .publishers)
  subscriptions := .startingAt (start .subscriptions)
  services := .startingAt (start .services)
  clients := .startingAt (start .clients)
  guardConditions := .startingAt (start .guardConditions)

def draw (s : Numbering) (kind : EntityKind) : UInt64 × Numbering :=
  ((s.get kind).draw.1, s.set kind (s.get kind).draw.2)

def reset (s : Numbering) : Numbering where
  publishers := s.publishers.reset
  subscriptions := s.subscriptions.reset
  services := s.services.reset
  clients := s.clients.reset
  guardConditions := s.guardConditions.reset

theorem get_set (s : Numbering) (k j : EntityKind) (q : Sequence) :
    (s.set k q).get j = if j = k then q else s.get j := by
  cases k <;> cases j <;> rfl

@[simp] theorem get_reset (s : Numbering) (k : EntityKind) :
    s.reset.get k = (s.get k).reset := by
  cases k <;> rfl

def layout (s : Numbering) : Text.Layout :=
  .record "EntitySequences" (EntityKind.all.map fun k => (k.name, (s.get k).layout))

end Numbering
end NullMiddleware
