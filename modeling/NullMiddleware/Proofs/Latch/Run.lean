import NullMiddleware.Latch
import NullMiddleware.Proofs.Run

/-!
What the users of a latch do with it, and what they see.

Any number of users may share a latch; its lock puts their operations into one order. The calls
of an operation are made before the next operation, and return.
-/

namespace NullMiddleware.Latch

variable {L : Type}

inductive Operation (L : Type)
  | trigger
  | poll
  | register (listener : Option L) (replayPrevious : Bool)

namespace Operation

def step (l : Latch L) : Operation L → Step L
  | trigger => l.trigger
  | poll => { during := l.poll.2 }
  | register listener replayPrevious => l.register listener replayPrevious

/-- What a poll answers. -/
def answer (l : Latch L) : Operation L → Option Bool
  | poll => some l.poll.1
  | _ => none

def isTrigger : Operation L → Bool
  | trigger => true
  | _ => false

end Operation

/-- The number of triggers in a run. -/
def triggers (ops : List (Operation L)) : Nat := ops.countP Operation.isTrigger

@[simp] lemma triggers_nil : triggers ([] : List (Operation L)) = 0 := rfl
@[simp] lemma triggers_trigger (ops : List (Operation L)) :
    triggers (.trigger :: ops) = triggers ops + 1 := List.countP_cons_of_pos rfl
@[simp] lemma triggers_poll (ops : List (Operation L)) :
    triggers (.poll :: ops) = triggers ops := List.countP_cons_of_neg Bool.false_ne_true
@[simp] lemma triggers_register (listener : Option L) (r : Bool) (ops : List (Operation L)) :
    triggers (.register listener r :: ops) = triggers ops :=
  List.countP_cons_of_neg Bool.false_ne_true

/-- What is seen of an operation: its calls, its answer and its line, and the latch as it is
afterwards. -/
structure Report (C : Type) where
  calls : List C
  answer : Option Bool
  line : Option LogLine
  pending : UInt64
  unread : Bool
  attended : Bool

def perform (l : Latch L) (op : Operation L) : Report (L × Nat) × Latch L :=
  let step := op.step l
  ({ calls := step.calls
     answer := op.answer l
     line := step.line
     pending := step.after.pending
     unread := step.after.unread
     attended := step.after.attended }, step.after)

lemma perform_calls (l : Latch L) (op : Operation L) :
    (l.perform op).1.calls = (op.step l).calls := rfl
lemma perform_snd (l : Latch L) (op : Operation L) : (l.perform op).2 = (op.step l).after := rfl

/-- No operation changes how backlogs are replayed. -/
@[simp] lemma step_mode (l : Latch L) (op : Operation L) : (op.step l).after.mode = l.mode := by
  cases op with
  | trigger => cases h : l.listener <;> simp [Operation.step, trigger, h]
  | poll => rfl
  | register listener r => cases listener <;> rfl

end NullMiddleware.Latch
