/-!
Entries under numbers that their user chooses, in the order in which they were first put in.
-/

namespace NullMiddleware

structure Registry (α : Type) where
  entries : List (Nat × α) := []

namespace Registry

variable {α : Type}

def empty : Registry α := {}

def findIn (k : Nat) : List (Nat × α) → Option α
  | [] => none
  | e :: rest => if e.1 = k then some e.2 else findIn k rest

def get? (r : Registry α) (k : Nat) : Option α := findIn k r.entries

def putIn (k : Nat) (a : α) : List (Nat × α) → List (Nat × α)
  | [] => [(k, a)]
  | e :: rest => if e.1 = k then (k, a) :: rest else e :: putIn k a rest

/-- Replaces the entry in place, or adds one at the end. -/
def put (r : Registry α) (k : Nat) (a : α) : Registry α := ⟨putIn k a r.entries⟩

def erase (r : Registry α) (k : Nat) : Registry α := ⟨r.entries.filter (·.1 ≠ k)⟩

/-- Puts an entry in or takes it out. -/
def set (r : Registry α) (k : Nat) (a : Option α) : Registry α :=
  match a with
  | some a => r.put k a
  | none => r.erase k

def size (r : Registry α) : Nat := r.entries.length

@[simp] theorem get?_empty (k : Nat) : (empty : Registry α).get? k = none := rfl

theorem get?_put (r : Registry α) (k j : Nat) (a : α) :
    (r.put k a).get? j = if j = k then some a else r.get? j := by
  obtain ⟨es⟩ := r
  simp only [put, get?]
  induction es with
  | nil => grind [putIn, findIn]
  | cons e rest ih => grind [putIn, findIn]

theorem get?_erase (r : Registry α) (k j : Nat) :
    (r.erase k).get? j = if j = k then none else r.get? j := by
  obtain ⟨es⟩ := r
  simp only [erase, get?]
  induction es with
  | nil => grind [findIn]
  | cons e rest ih => grind [findIn]

theorem get?_set (r : Registry α) (k j : Nat) (a : Option α) :
    (r.set k a).get? j = if j = k then a else r.get? j := by
  cases a with
  | none => exact r.get?_erase k j
  | some a => exact r.get?_put k j a

end Registry
end NullMiddleware
