import Mathlib.Algebra.BigOperators.Group.Finset.Basic
import Mathlib.Algebra.Order.BigOperators.Group.Finset
import Mathlib.Data.Fintype.BigOperators
import Mathlib.Tactic.Common
import NullMiddleware.Proofs.Run

/-!
Threads that take turns.

A lock lets the calls of several threads in one after another. A schedule is the list of these
calls, each with the thread that makes it. Each thread has a program, the calls that it makes, and
a schedule interleaves the programs if each thread's part of it is the program of the thread.
-/

namespace NullMiddleware.Schedule

variable {T C D : Type}

/-- What a schedule lets in, whoever makes the calls. -/
def calls (s : List (T × C)) : List C := s.map Prod.snd

@[simp] lemma calls_nil : calls ([] : List (T × C)) = [] := rfl
@[simp] lemma calls_cons (a : T × C) (s : List (T × C)) : calls (a :: s) = a.2 :: calls s := rfl
@[simp] lemma calls_append (u v : List (T × C)) : calls (u ++ v) = calls u ++ calls v :=
  List.map_append ..

variable [DecidableEq T]

/-- The calls of one thread. -/
def part (i : T) (s : List (T × C)) : List C := (s.filter (·.1 = i)).map Prod.snd

def Interleaves (programs : T → List C) (s : List (T × C)) : Prop := ∀ i, part i s = programs i

@[simp] lemma part_nil (i : T) : part i ([] : List (T × C)) = [] := rfl
lemma part_cons (i : T) (a : T × C) (s : List (T × C)) :
    part i (a :: s) = if a.1 = i then a.2 :: part i s else part i s := by
  by_cases h : a.1 = i <;> simp [part, h]

lemma mem_part {a : T × C} {s : List (T × C)} (h : a ∈ s) : a.2 ∈ part a.1 s :=
  List.mem_map.mpr ⟨a, List.mem_filter.mpr ⟨h, by simp⟩, rfl⟩

lemma Interleaves.mem {programs : T → List C} {s : List (T × C)} (h : Interleaves programs s)
    {a : T × C} (ha : a ∈ s) : a.2 ∈ programs a.1 := h a.1 ▸ mem_part ha

lemma sum_countP_part [Fintype T] (p : C → Bool) (s : List (T × C)) :
    ∑ i, (part i s).countP p = (calls s).countP p := by
  induction s with
  | nil => simp
  | cons a rest ih =>
    have hpart : ∀ i, (part i (a :: rest)).countP p =
        (part i rest).countP p + if a.1 = i then (if p a.2 then 1 else 0) else 0 := by
      intro i
      by_cases h : a.1 = i <;> simp [part_cons, h, List.countP_cons]
    rw [Finset.sum_congr rfl fun i _ => hpart i, Finset.sum_add_distrib, ih]
    simp [List.countP_cons]

lemma Interleaves.countP [Fintype T] {programs : T → List C} {s : List (T × C)}
    (h : Interleaves programs s) (p : C → Bool) :
    (calls s).countP p = ∑ i, (programs i).countP p := by
  rw [← sum_countP_part]
  exact Finset.sum_congr rfl fun i _ => by rw [h i]

/-- What the threads have together, in any order, is what there is. -/
lemma sum_filterMap_part [Fintype T] (f : C → Option D) (s : List (T × C)) :
    ∑ i, ((part i s).filterMap f : Multiset D) = (calls s).filterMap f := by
  induction s with
  | nil => simp
  | cons a rest ih =>
    have hpart : ∀ i, ((part i (a :: rest)).filterMap f : Multiset D) =
        (if a.1 = i then ((f a.2).toList : Multiset D) else 0) + (part i rest).filterMap f := by
      intro i
      by_cases h : a.1 = i <;> cases hf : f a.2 <;> simp [part_cons, h, hf]
    rw [Finset.sum_congr rfl fun i _ => hpart i, Finset.sum_add_distrib, ih, Finset.sum_ite_eq]
    cases hf : f a.2 <;> simp [hf]

lemma filterMap_calls (f : C → Option D) {i : T} {s : List (T × C)}
    (only : ∀ a ∈ s, a.1 ≠ i → f a.2 = none) :
    (calls s).filterMap f = (part i s).filterMap f := by
  induction s with
  | nil => rfl
  | cons a rest ih =>
    have hrest := ih fun b hb => only b (List.mem_cons_of_mem _ hb)
    by_cases h : a.1 = i
    · simp [part_cons, h, List.filterMap_cons, hrest]
    · have hnone := only a List.mem_cons_self h
      simp [part_cons, h, hrest, hnone]

/-- A call that is the whole program of its thread comes after some calls of other threads and
before the rest of them. -/
lemma exists_of_part_eq_singleton {i : T} {c : C} {s : List (T × C)} (h : part i s = [c]) :
    ∃ u v, s = u ++ (i, c) :: v ∧ (∀ a ∈ u, a.1 ≠ i) ∧ ∀ a ∈ v, a.1 ≠ i := by
  induction s with
  | nil => simp at h
  | cons a rest ih =>
    by_cases ha : a.1 = i
    · rw [part_cons, if_pos ha, List.cons.injEq] at h
      obtain ⟨hc, hrest⟩ := h
      refine ⟨[], rest, by simp [← ha, ← hc], by simp, ?_⟩
      intro b hb hbi
      have hmem := mem_part hb
      rw [hbi, hrest] at hmem
      simp at hmem
    · rw [part_cons, if_neg ha] at h
      obtain ⟨u, v, rfl, hu, hv⟩ := ih h
      refine ⟨a :: u, v, rfl, ?_, hv⟩
      intro b hb
      rcases List.mem_cons.mp hb with rfl | hb
      · exact ha
      · exact hu b hb

/-! ### Threads that share nothing -/

section

variable {S O : Type} (step : T → S → C → O × S)

/-- Each thread has a state of its own, and its calls change no other. -/
def apart (states : T → S) (a : T × C) : (T × O) × (T → S) :=
  let (outcome, after) := step a.1 (states a.1) a.2
  ((a.1, outcome), Function.update states a.1 after)

/-- Such a thread goes through a schedule as if it were alone. -/
lemma run_apart (i : T) (states : T → S) (s : List (T × C)) :
    part i (Run.outcomes (apart step) states s) =
        Run.outcomes (step i) (states i) (part i s) ∧
      Run.final (apart step) states s i = Run.final (step i) (states i) (part i s) := by
  induction s generalizing states with
  | nil => exact ⟨rfl, rfl⟩
  | cons a rest ih =>
    obtain ⟨houtcomes, hfinal⟩ := ih (apart step states a).2
    rw [Run.outcomes_cons, Run.final_cons, part_cons, part_cons, houtcomes, hfinal]
    by_cases h : a.1 = i
    · subst h
      simp [apart]
    · simp [apart, h, Function.update_of_ne (Ne.symm h)]

end

/-! ### Threads that share everything -/

section

variable {S O : Type} (step : S → C → O × S)

/-- All the threads have one state, and each is answered for itself. -/
def together (s : S) (a : T × C) : (T × O) × S :=
  let (outcome, after) := step s a.2
  ((a.1, outcome), after)

omit [DecidableEq T] in
lemma run_together (s : S) (cs : List (T × C)) :
    calls (Run.outcomes (together step) s cs) = Run.outcomes step s (calls cs) ∧
      Run.final (together step) s cs = Run.final step s (calls cs) := by
  induction cs generalizing s with
  | nil => exact ⟨rfl, rfl⟩
  | cons a rest ih =>
    obtain ⟨houtcomes, hfinal⟩ := ih (step s a.2).2
    exact ⟨congrArg (_ :: ·) houtcomes, hfinal⟩

end

end NullMiddleware.Schedule
