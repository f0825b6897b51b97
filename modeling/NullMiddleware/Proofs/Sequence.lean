import Mathlib.Data.List.DropRight
import Mathlib.Data.Multiset.Range
import Mathlib.Tactic.Common
import NullMiddleware.Proofs.Schedule
import NullMiddleware.Sequence

/-!
Sequences under many threads.

Every call is one atomic step, so what any number of threads make of a sequence is a schedule of
their calls. The next id is as far from the start as ids have been drawn since the last reset, on
the circle of words; who has drawn them does not matter. The five sequences of a numbering are
five systems that share nothing.
-/

namespace NullMiddleware

namespace Sequence

open Schedule (calls part together)

/-! ### Calls -/

inductive Op
  | draw
  | peek
  | reset
  deriving DecidableEq

inductive Answer
  | drawn (id : UInt64)
  | upcoming (id : UInt64)
  | done
  deriving DecidableEq

/-- The id that an answer hands out. -/
def Answer.id? : Answer → Option UInt64
  | drawn id => some id
  | upcoming _ | done => none

def step (q : Sequence) : Op → Answer × Sequence
  | .draw => (.drawn q.draw.1, q.draw.2)
  | .peek => (.upcoming q.next, q)
  | .reset => (.done, q.reset)

/-! ### Where a sequence stands -/

/-- The number of ids that are drawn after the last reset, or after the start if there is none. -/
def sinceReset (ops : List Op) : Nat := (ops.rtakeWhile (· ≠ .reset)).count .draw

@[simp] lemma sinceReset_nil : sinceReset [] = 0 := rfl

@[simp] lemma sinceReset_concat (ops : List Op) (op : Op) :
    sinceReset (ops ++ [op]) =
      if op = .reset then 0 else if op = .draw then sinceReset ops + 1 else sinceReset ops := by
  cases op <;> simp [sinceReset]

lemma sinceReset_append {u w : List Op} (h : .reset ∉ w) :
    sinceReset (u ++ w) = sinceReset u + w.count .draw := by
  induction w using List.reverseRecOn with
  | nil => simp
  | append_singleton rest op ih =>
    have hrest : Op.reset ∉ rest := fun hmem => h (List.mem_append_left _ hmem)
    have hop : op ≠ .reset := fun hreset => h (by simp [hreset])
    rw [← List.append_assoc, sinceReset_concat, ih hrest, List.count_append, if_neg hop]
    cases op <;> simp [Nat.add_assoc]

lemma final_startingAt (start : UInt64) (ops : List Op) :
    Run.final step (startingAt start) ops =
      { start, next := start + UInt64.ofNat (sinceReset ops) } := by
  induction ops using List.reverseRecOn with
  | nil => simp [startingAt]
  | append_singleton rest op ih =>
    rw [Run.final_append, ih, Run.final_cons, Run.final_nil, sinceReset_concat]
    cases op <;> simp [step, draw, reset, UInt64.ofNat_add, UInt64.add_assoc]

/-! ### What is drawn -/

lemma add_ofNat_inj {start : UInt64} {a b : Nat} (ha : a < UInt64.size) (hb : b < UInt64.size) :
    start + UInt64.ofNat a = start + UInt64.ofNat b ↔ a = b := by
  rw [UInt64.add_right_inj]
  constructor
  · intro h
    rw [← UInt64.toNat_ofNat_of_lt' ha, ← UInt64.toNat_ofNat_of_lt' hb, h]
  · rintro rfl
    rfl

lemma ids_outcomes (q : Sequence) {w : List Op} (h : .reset ∉ w) :
    (Run.outcomes step q w).filterMap Answer.id? =
      (List.range (w.count .draw)).map fun k => q.next + UInt64.ofNat k := by
  induction w generalizing q with
  | nil => rfl
  | cons op rest ih =>
    obtain ⟨hop, hrest⟩ := not_or.mp (List.mem_cons.not.mp h)
    rw [Run.outcomes_cons]
    cases op with
    | draw =>
      have hids := ih q.draw.2 hrest
      have hshift : ∀ k : Nat,
          q.next + 1 + UInt64.ofNat k = q.next + UInt64.ofNat (k + 1) := by
        intro k
        rw [UInt64.ofNat_add, UInt64.add_assoc, UInt64.add_comm 1]
        rfl
      rw [List.count_cons_self, List.range_succ_eq_map, List.map_cons, List.map_map]
      simp only [step, Answer.id?, List.filterMap_cons, hids, draw_fst, draw_snd_next, hshift]
      simp [Function.comp_def]
    | peek =>
      have hids := ih q hrest
      simpa [step, List.filterMap_cons, Answer.id?] using hids
    | reset => exact absurd rfl hop

lemma start_final (q : Sequence) (ops : List Op) : (Run.final step q ops).start = q.start := by
  induction ops generalizing q with
  | nil => rfl
  | cons op rest ih =>
    rw [Run.final_cons, ih]
    cases op <;> rfl

/-! ### A schedule -/

section

variable {T : Type} (start : UInt64) (u w v : List (T × Op))

/-- The answers to a schedule. -/
def answers : List (T × Answer) := Run.outcomes (together step) (startingAt start) u

/-- The ids that a thread draws in `w`, which comes after `u`. -/
def idsAfter [DecidableEq T] (i : T) : List UInt64 :=
  let after := Run.final (together step) (startingAt start) u
  (part i (Run.outcomes (together step) after w)).filterMap Answer.id?

lemma final_together : Run.final (together step) (startingAt start) u =
    { start, next := start + UInt64.ofNat (sinceReset (calls u)) } := by
  rw [(Schedule.run_together step _ _).2, final_startingAt]

lemma answers_getElem? (i : T) (op : Op) :
    (answers start (u ++ (i, op) :: v))[u.length]? =
      some (i, (step { start, next := start + UInt64.ofNat (sinceReset (calls u)) } op).1) := by
  rw [answers, Run.outcomes_getElem?, final_together]
  rfl

/-- A peek tells the next draw, if there are only peeks between them. -/
lemma answers_peek_draw (i j : T) (peeks : ∀ a ∈ w, a.2 = .peek) :
    ∃ id, (answers start (u ++ (i, .peek) :: w ++ (j, .draw) :: v))[u.length]? =
        some (i, .upcoming id) ∧
      (answers start (u ++ (i, .peek) :: w ++ (j, .draw) :: v))[(u ++ (i, .peek) :: w).length]? =
        some (j, .drawn id) := by
  have hpeeks : ∀ op ∈ Op.peek :: calls w, op = .peek := by
    intro op hop
    rcases List.mem_cons.mp hop with rfl | hop
    · rfl
    · obtain ⟨a, ha, rfl⟩ := List.mem_map.mp hop
      exact peeks a ha
  have hreset : Op.reset ∉ Op.peek :: calls w := fun hmem => absurd (hpeeks _ hmem) (by decide)
  have hdraw : Op.draw ∉ Op.peek :: calls w := fun hmem => absurd (hpeeks _ hmem) (by decide)
  have hsince : sinceReset (calls (u ++ (i, .peek) :: w)) = sinceReset (calls u) := by
    rw [Schedule.calls_append, Schedule.calls_cons, sinceReset_append hreset,
      List.count_eq_zero.mpr hdraw, Nat.add_zero]
  refine ⟨start + UInt64.ofNat (sinceReset (calls u)), ?_, ?_⟩
  · rw [List.append_assoc]
    exact answers_getElem? start u _ i .peek
  · rw [answers_getElem? start (u ++ (i, .peek) :: w) v j .draw, hsince]
    rfl

variable [DecidableEq T] [Fintype T]

/-- Whoever draws, without a reset the ids follow each other. -/
lemma sum_idsAfter (kept : ∀ a ∈ w, a.2 ≠ .reset) :
    ∑ i, (idsAfter start u w i : Multiset UInt64) =
      (Multiset.range ((calls w).count .draw)).map fun k =>
        start + UInt64.ofNat (sinceReset (calls u) + k) := by
  have hreset : Op.reset ∉ calls w := by
    intro hmem
    obtain ⟨a, ha, hop⟩ := List.mem_map.mp hmem
    exact kept a ha hop
  simp only [idsAfter]
  rw [Schedule.sum_filterMap_part, (Schedule.run_together step _ _).1, final_together,
    ids_outcomes _ hreset]
  refine congrArg _ (List.map_congr_left ?_)
  intro k _
  rw [UInt64.ofNat_add, UInt64.add_assoc]

lemma nodup_idsAfter (kept : ∀ a ∈ w, a.2 ≠ .reset)
    (few : (calls w).count .draw ≤ UInt64.size) :
    (∑ i, (idsAfter start u w i : Multiset UInt64)).Nodup := by
  rw [sum_idsAfter start u w kept]
  refine Multiset.Nodup.map_on ?_ (Multiset.nodup_range _)
  intro a ha b hb hab
  have ha' : a < UInt64.size := Nat.lt_of_lt_of_le (Multiset.mem_range.mp ha) few
  have hb' : b < UInt64.size := Nat.lt_of_lt_of_le (Multiset.mem_range.mp hb) few
  rw [UInt64.ofNat_add, UInt64.ofNat_add, ← UInt64.add_assoc, ← UInt64.add_assoc] at hab
  exact (add_ofNat_inj ha' hb').mp hab

end

end Sequence

namespace Numbering

open Schedule (part together apart)
open Sequence (Op Answer)

variable {T : Type}

/-- A thread calls one of the sequences. -/
def step (s : Numbering) : EntityKind × T × Op → (EntityKind × T × Answer) × Numbering
  | (kind, i, .draw) => ((kind, i, .drawn (s.draw kind).1), (s.draw kind).2)
  | (kind, i, .peek) => ((kind, i, .upcoming (s.get kind).next), s)
  | (kind, i, .reset) => ((kind, i, .done), s.set kind (s.get kind).reset)

lemma get_set_eq_update (s : Numbering) (kind : EntityKind) (q : Sequence) :
    (s.set kind q).get = Function.update s.get kind q := by
  funext k
  rw [get_set, Function.update_apply]

lemma step_eq (s : Numbering) (a : EntityKind × T × Op) :
    (step s a).1 = (apart (fun _ => together Sequence.step) s.get a).1 ∧
      (step s a).2.get = (apart (fun _ => together Sequence.step) s.get a).2 := by
  obtain ⟨kind, i, op⟩ := a
  cases op with
  | draw => exact ⟨rfl, get_set_eq_update ..⟩
  | peek => exact ⟨rfl, (Function.update_eq_self kind s.get).symm⟩
  | reset => exact ⟨rfl, get_set_eq_update ..⟩

/-- Each sequence is called as if it were the only one. -/
lemma run_step (s : Numbering) (cs : List (EntityKind × T × Op)) (kind : EntityKind) :
    part kind (Run.outcomes step s cs) =
        Run.outcomes (together Sequence.step) (s.get kind) (part kind cs) ∧
      (Run.final step s cs).get kind =
        Run.final (together Sequence.step) (s.get kind) (part kind cs) := by
  have hsame : ∀ (s : Numbering) (states : EntityKind → Sequence), ∀ c ∈ cs, s.get = states →
      (apart (fun _ => together Sequence.step) states c).1 = id (step s c).1 ∧
        (step s c).2.get = (apart (fun _ => together Sequence.step) states c).2 := by
    rintro s _ c - rfl
    obtain ⟨hanswer, hafter⟩ := step_eq s c
    exact ⟨hanswer.symm, hafter⟩
  obtain ⟨hanswers, hafter⟩ := Run.simulates hsame rfl
  rw [List.map_id] at hanswers
  obtain ⟨hpart, hfinal⟩ := Schedule.run_apart (fun _ => together Sequence.step) kind s.get cs
  exact ⟨by rw [← hanswers, hpart], by rw [hafter, hfinal]⟩

lemma step_other (s : Numbering) (a : EntityKind × T × Op) {kind : EntityKind}
    (h : kind ≠ a.1) : (step s a).2.get kind = s.get kind := by
  rw [(step_eq s a).2]
  exact Function.update_of_ne h _ _

lemma get_reset_final (s : Numbering) (cs : List (EntityKind × T × Op)) (kind : EntityKind) :
    (Run.final step s cs).reset.get kind = .startingAt (s.get kind).start := by
  have hstart : ((Run.final step s cs).get kind).start = (s.get kind).start := by
    rw [(run_step s cs kind).2, (Schedule.run_together _ _ _).2, Sequence.start_final]
  rw [get_reset, Sequence.reset, Sequence.startingAt, hstart]

lemma final_resets (s : Numbering) (i : T) :
    Run.final step s (EntityKind.all.map fun kind => (kind, i, .reset)) = s.reset := rfl

end Numbering

open Schedule (calls part together)
open Sequence (Op answers idsAfter sinceReset)

/-- **Ids follow the last reset.** However threads interleave, an id that is drawn is as far from
the start as ids have been drawn since the last reset, and a peek tells the id that is drawn next.
Without a reset, the ids that the threads draw together are consecutive words, all different as
long as there are no more of them than words. The five sequences of a numbering do the same, each
as if it were alone, and a reset of the numbering, which resets one after the other, puts each of
them back to its own start. -/
theorem ids_follow_the_last_reset {T : Type} [DecidableEq T] [Fintype T] (start : UInt64) :
    (∀ (u v : List (T × Op)) i, (answers start (u ++ (i, .draw) :: v))[u.length]? =
        some (i, .drawn (start + UInt64.ofNat (sinceReset (calls u))))) ∧
      (∀ (u w v : List (T × Op)) i j, (∀ a ∈ w, a.2 = .peek) →
        ∃ id, (answers start (u ++ (i, .peek) :: w ++ (j, .draw) :: v))[u.length]? =
            some (i, .upcoming id) ∧
          (answers start (u ++ (i, .peek) :: w ++ (j, .draw) :: v))[
            (u ++ (i, .peek) :: w).length]? = some (j, .drawn id)) ∧
      (∀ u w : List (T × Op), (∀ a ∈ w, a.2 ≠ .reset) →
        ∑ i, (idsAfter start u w i : Multiset UInt64) =
            ((Multiset.range ((calls w).count .draw)).map fun k =>
              start + UInt64.ofNat (sinceReset (calls u) + k)) ∧
          ((calls w).count .draw ≤ UInt64.size →
            (∑ i, (idsAfter start u w i : Multiset UInt64)).Nodup)) ∧
      (∀ (s : Numbering) (cs : List (EntityKind × T × Op)) kind,
        part kind (Run.outcomes Numbering.step s cs) =
            Run.outcomes (together Sequence.step) (s.get kind) (part kind cs) ∧
          (Run.final Numbering.step s cs).get kind =
            Run.final (together Sequence.step) (s.get kind) (part kind cs)) ∧
      (∀ (s : Numbering) (c : EntityKind × T × Op) kind, kind ≠ c.1 →
        (Numbering.step s c).2.get kind = s.get kind) ∧
      (∀ (s : Numbering) (cs : List (EntityKind × T × Op)) kind,
        (Run.final Numbering.step s cs).reset.get kind = .startingAt (s.get kind).start) ∧
      ∀ (s : Numbering) (i : T),
        Run.final Numbering.step s (EntityKind.all.map fun kind => (kind, i, .reset)) =
          s.reset := by
  refine ⟨?_, ?_, ?_, Numbering.run_step, ?_, Numbering.get_reset_final, Numbering.final_resets⟩
  · intro u v i
    exact Sequence.answers_getElem? start u v i .draw
  · intro u w v i j
    exact Sequence.answers_peek_draw start u w v i j
  · intro u w kept
    exact ⟨Sequence.sum_idsAfter start u w kept, Sequence.nodup_idsAfter start u w kept⟩
  · intro s c kind
    exact Numbering.step_other s c

/-- Two threads share a sequence that starts with the last word but one. After a reset each of
them draws, and they have that word, the last one and zero; a peek has told the one that is drawn
after it. -/
theorem ids_pass_the_last_word :
    let start : UInt64 := 18446744073709551614
    let u : List (Bool × Op) := [(true, .draw), (false, .reset)]
    let w : List (Bool × Op) := [(true, .draw), (false, .peek), (false, .draw), (true, .draw)]
    (∀ a ∈ w, a.2 ≠ .reset) ∧ (calls w).count .draw ≤ UInt64.size ∧
      (∑ i, (idsAfter start u w i : Multiset UInt64)) =
        {18446744073709551614, 18446744073709551615, 0} ∧
      (∑ i, (idsAfter start u w i : Multiset UInt64)).Nodup ∧
      ∃ id, (answers start (u ++ w))[3]? = some (false, .upcoming id) ∧
        (answers start (u ++ w))[4]? = some (false, .drawn id) := by
  intro start u w
  obtain ⟨-, hpeek, hids, -⟩ := ids_follow_the_last_reset (T := Bool) start
  have hkept : ∀ a ∈ w, a.2 ≠ .reset := by decide
  have hfew : (calls w).count .draw ≤ UInt64.size := by decide +kernel
  obtain ⟨hsum, hnodup⟩ := hids u w hkept
  have hwords : ((Multiset.range ((calls w).count .draw)).map fun k =>
      start + UInt64.ofNat (sinceReset (calls u) + k)) =
        {18446744073709551614, 18446744073709551615, 0} := by
    decide +kernel
  refine ⟨hkept, hfew, hsum.trans hwords, hnodup hfew, ?_⟩
  exact hpeek (u ++ [(true, .draw)]) [] [(true, .draw)] false false (by decide)

end NullMiddleware
