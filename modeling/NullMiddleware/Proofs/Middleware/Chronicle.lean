import Mathlib.Tactic.Common
import NullMiddleware.Log
import NullMiddleware.Participant

/-!
What the log of a context tells of its participant and its nodes.

The story of a context is told in lifetimes, one after another. Each begins with the creation of the
participant and ends with its destruction. In between nodes come and go, each of them created before
it is destroyed, and all of them are gone in the end.
-/

namespace NullMiddleware.Chronicle

/-- What a line tells of a participant, or of a node under its number. -/
inductive Note
  | opened (domain : UInt32) (enclave : String) (localhostOnly : Bool)
  | closed (domain : UInt32)
  | created (n : Nat)
  | destroyed (n : Nat)
  deriving DecidableEq

namespace Note

def node? : Note → Option Nat
  | created n | destroyed n => some n
  | _ => none

/-- What a line tells, if the node that it is about has this number. -/
def ofLine? (n : Option Nat) : LogLine → Option Note
  | .participantCreated domain enclave localhostOnly => some (opened domain enclave localhostOnly)
  | .participantDestroyed domain => some (closed domain)
  | .nodeCreated _ _ => n.map created
  | .nodeDestroyed _ => n.map destroyed
  | _ => none

end Note

/-- The node is created and destroyed in turn, and is there at the end or not. -/
def Rounds (n : Nat) (told : List Note) (there : Bool) : Prop :=
  ∃ k, told.filter (·.node? = some n) =
    (List.replicate k [Note.created n, .destroyed n]).flatten ++ if there then [.created n] else []

/-- Only nodes are told of, and each of them in order. -/
structure Visits (told : List Note) (there : Nat → Bool) : Prop where
  nodes : ∀ note ∈ told, note.node?.isSome
  rounds : ∀ n, Rounds n told (there n)

def opening (p : Participant) : Note := .opened p.domain p.enclave p.localhostOnly

def closing (p : Participant) : Note := .closed p.domain

/-- A participant's lifetime, with all that is told in it. -/
def lifetime (p : Participant) (told : List Note) : List Note :=
  opening p :: (told ++ [closing p])

/-- The lifetimes so far: all have ended, or the last one has not, and some nodes are there. -/
inductive Story (p : Participant) : List Note → Option (Nat → Bool) → Prop
  | between (past : List (List Note)) (complete : ∀ told ∈ past, Visits told fun _ => false) :
    Story p (past.flatMap (lifetime p)) none
  | within (past : List (List Note)) (complete : ∀ told ∈ past, Visits told fun _ => false)
    {told : List Note} {there : Nat → Bool} (visits : Visits told there) :
    Story p (past.flatMap (lifetime p) ++ opening p :: told) (some there)

/-! ### Nodes come and go -/

lemma visits_nil : Visits [] fun _ => false := ⟨by simp, fun _ => ⟨0, rfl⟩⟩

variable {told : List Note} {there : Nat → Bool} {n : Nat}

lemma filter_append_one (told : List Note) (note : Note) (j : Nat) :
    (told ++ [note]).filter (·.node? = some j) =
      told.filter (·.node? = some j) ++ if note.node? = some j then [note] else [] := by
  rw [List.filter_append]
  by_cases h : note.node? = some j <;> simp [h]

/-- Nothing new is told of the other nodes. -/
lemma Rounds.other (h : Visits told there) {note : Note} (hnote : note.node? = some n) {j : Nat}
    (hj : j ≠ n) (now : Bool) : Rounds j (told ++ [note]) (Function.update there n now j) := by
  obtain ⟨k, hk⟩ := h.rounds j
  have hother : ¬ note.node? = some j := by
    rw [hnote, Option.some_inj]
    exact Ne.symm hj
  refine ⟨k, ?_⟩
  rw [filter_append_one, if_neg hother, List.append_nil, hk, Function.update_of_ne hj]

lemma Visits.nodes_append (h : Visits told there) {note : Note} (hnote : note.node? = some n) :
    ∀ other ∈ told ++ [note], other.node?.isSome := by
  intro other hmem
  rcases List.mem_append.mp hmem with hmem | hmem
  · exact h.nodes other hmem
  · rw [List.mem_singleton.mp hmem, hnote]
    rfl

lemma Visits.created (h : Visits told there) (absent : there n = false) :
    Visits (told ++ [.created n]) (Function.update there n true) := by
  refine ⟨h.nodes_append rfl, ?_⟩
  intro j
  by_cases hj : j = n
  · subst hj
    obtain ⟨k, hk⟩ := h.rounds j
    rw [absent] at hk
    refine ⟨k, ?_⟩
    rw [filter_append_one, hk, Function.update_self]
    simp [Note.node?]
  · exact Rounds.other h rfl hj true

lemma Visits.destroyed (h : Visits told there) (present : there n) :
    Visits (told ++ [.destroyed n]) (Function.update there n false) := by
  refine ⟨h.nodes_append rfl, ?_⟩
  intro j
  by_cases hj : j = n
  · subst hj
    obtain ⟨k, hk⟩ := h.rounds j
    rw [present] at hk
    refine ⟨k + 1, ?_⟩
    rw [filter_append_one, hk, Function.update_self, List.replicate_succ']
    simp [Note.node?]
  · exact Rounds.other h rfl hj false

/-! ### The story goes on -/

namespace Story

variable {p : Participant} {log : List Note}

lemma nil (p : Participant) : Story p [] none := .between [] (by simp)

lemma opened (h : Story p log none) : Story p (log ++ [opening p]) (some fun _ => false) := by
  cases h with
  | between past complete => exact .within past complete visits_nil

lemma created (h : Story p log (some there)) (absent : there n = false) :
    Story p (log ++ [.created n]) (some (Function.update there n true)) := by
  cases h with
  | within past complete visits =>
    rw [List.append_assoc, List.cons_append]
    exact .within past complete (visits.created absent)

lemma destroyed (h : Story p log (some there)) (present : there n) :
    Story p (log ++ [.destroyed n]) (some (Function.update there n false)) := by
  cases h with
  | within past complete visits =>
    rw [List.append_assoc, List.cons_append]
    exact .within past complete (visits.destroyed present)

lemma closed (h : Story p log (some there)) (empty : ∀ n, there n = false) :
    Story p (log ++ [closing p]) none := by
  obtain rfl : there = fun _ => false := funext empty
  cases h with
  | @within past complete told _ visits =>
    have hpast : past.flatMap (lifetime p) ++ opening p :: told ++ [closing p] =
        (past ++ [told]).flatMap (lifetime p) := by
      rw [List.flatMap_append, List.flatMap_singleton, List.append_assoc, List.cons_append]
      rfl
    rw [hpast]
    refine .between _ ?_
    intro other hmem
    rcases List.mem_append.mp hmem with hmem | hmem
    · exact complete other hmem
    · exact List.mem_singleton.mp hmem ▸ visits

end Story
end NullMiddleware.Chronicle
