import Mathlib.Data.List.ReduceOption
import Mathlib.Tactic.Common

/-!
Runs: what holds after any number of calls, one after another.

A lock, or a single user, puts the calls into one order, so a run is a list of calls. Each call
finds a state, leaves a state and has an outcome. Where some calls cannot be made in some states,
the outcome of a call that is made is its event.
-/

namespace NullMiddleware.Run

variable {S S' C C' O O' : Type} (step : S → C → O × S) (step' : S' → C → O' × S')

/-- The state after a run. -/
def final (s : S) (cs : List C) : S := cs.foldl (fun s c => (step s c).2) s

/-- The outcomes of the calls, in order. -/
def outcomes (s : S) : List C → List O
  | [] => []
  | c :: rest => (step s c).1 :: outcomes (step s c).2 rest

@[simp] lemma final_nil (s : S) : final step s [] = s := rfl
@[simp] lemma final_cons (s : S) (c : C) (rest : List C) :
    final step s (c :: rest) = final step (step s c).2 rest := rfl

lemma final_append (s : S) (u v : List C) :
    final step s (u ++ v) = final step (final step s u) v := by
  simp [final, List.foldl_append]

@[simp] lemma outcomes_nil (s : S) : outcomes step s [] = [] := rfl
@[simp] lemma outcomes_cons (s : S) (c : C) (rest : List C) :
    outcomes step s (c :: rest) = (step s c).1 :: outcomes step (step s c).2 rest := rfl

lemma outcomes_append (s : S) (u v : List C) :
    outcomes step s (u ++ v) = outcomes step s u ++ outcomes step (final step s u) v := by
  induction u generalizing s with
  | nil => rfl
  | cons c rest ih => rw [List.cons_append, outcomes_cons, outcomes_cons, final_cons, ih,
      List.cons_append]

@[simp] lemma length_outcomes (s : S) (cs : List C) : (outcomes step s cs).length = cs.length := by
  induction cs generalizing s with
  | nil => rfl
  | cons c rest ih => rw [outcomes_cons, List.length_cons, ih, List.length_cons]

lemma outcomes_getElem? (s : S) (u v : List C) (c : C) :
    (outcomes step s (u ++ c :: v))[u.length]? = some (step (final step s u) c).1 := by
  rw [outcomes_append, List.getElem?_append_right (by simp), length_outcomes, Nat.sub_self,
    outcomes_cons]
  rfl

/-- Each call suits the state that it finds. -/
def Suits (P : S → C → Prop) (s : S) : List C → Prop
  | [] => True
  | c :: rest => P s c ∧ Suits P (step s c).2 rest

instance Suits.decidable (P : S → C → Prop) [∀ s c, Decidable (P s c)] (s : S) (cs : List C) :
    Decidable (Suits step P s cs) :=
  match cs with
  | [] => .isTrue trivial
  | c :: rest =>
    have := Suits.decidable P (step s c).2 rest
    inferInstanceAs (Decidable (P s c ∧ Suits step P (step s c).2 rest))

lemma suits_append (P : S → C → Prop) (s : S) (u v : List C) :
    Suits step P s (u ++ v) ↔ Suits step P s u ∧ Suits step P (final step s u) v := by
  induction u generalizing s with
  | nil => simp [Suits]
  | cons c rest ih => simp [Suits, ih, and_assoc]

/-- The events of a run, in order. -/
def events (step : S → C → Option O × S) (s : S) (cs : List C) : List O :=
  (outcomes step s cs).reduceOption

@[simp] lemma events_nil (step : S → C → Option O × S) (s : S) : events step s [] = [] := rfl

lemma events_cons (step : S → C → Option O × S) (s : S) (c : C) (rest : List C) :
    events step s (c :: rest) = (step s c).1.toList ++ events step (step s c).2 rest := by
  unfold events
  rw [outcomes_cons]
  rcases (step s c).1 with _ | o
  · rw [List.reduceOption_cons_of_none]
    rfl
  · rw [List.reduceOption_cons_of_some]
    rfl

lemma events_append (step : S → C → Option O × S) (s : S) (u v : List C) :
    events step s (u ++ v) = events step s u ++ events step (final step s u) v := by
  induction u generalizing s with
  | nil => rfl
  | cons c rest ih =>
    rw [List.cons_append, events_cons, events_cons, final_cons, ih, List.append_assoc]

lemma eq_take_cons_drop {es : List O} {i : Nat} {o : O} (h : es[i]? = some o) :
    es = es.take i ++ o :: es.drop (i + 1) := by
  obtain ⟨hi, rfl⟩ := List.getElem?_eq_some_iff.mp h
  rw [List.getElem_cons_drop, List.take_append_drop]

variable {step step'}

/-- What does not hold at the start and holds at the end is brought about by one of the calls. -/
lemma exists_call_of_final {P : S → Prop} {s : S} {cs : List C} (hs : ¬ P s)
    (h : P (final step s cs)) :
    ∃ u c v, cs = u ++ c :: v ∧ ¬ P (final step s u) ∧ P (step (final step s u) c).2 := by
  induction cs generalizing s with
  | nil => exact absurd h hs
  | cons c rest ih =>
    by_cases hc : P (step s c).2
    · exact ⟨[], c, rest, rfl, hs, hc⟩
    · obtain ⟨u, d, v, rfl, hu, hd⟩ := ih hc h
      exact ⟨c :: u, d, v, rfl, hu, hd⟩

/-- What every call keeps, and says of its outcome, holds of a whole run. -/
theorem keeps {P : S → Prop} {Q : O → Prop} {cs : List C}
    (h : ∀ s, ∀ c ∈ cs, P s → Q (step s c).1 ∧ P (step s c).2) {s : S} (hs : P s) :
    (∀ o ∈ outcomes step s cs, Q o) ∧ P (final step s cs) := by
  induction cs generalizing s with
  | nil => exact ⟨by simp, hs⟩
  | cons c rest ih =>
    obtain ⟨hq, hp⟩ := h s c List.mem_cons_self hs
    obtain ⟨ho, hf⟩ := ih (fun s c hc => h s c (List.mem_cons_of_mem _ hc)) hp
    refine ⟨?_, hf⟩
    intro o ho'
    rcases List.mem_cons.mp ho' with rfl | hmem
    · exact hq
    · exact ho o hmem

/-- The same where not every call is made. -/
theorem keeps_events {step : S → C → Option O × S} {P : S → Prop} {Q : O → Prop} {cs : List C}
    (h : ∀ s, ∀ c ∈ cs, P s → (∀ o ∈ (step s c).1, Q o) ∧ P (step s c).2) {s : S} (hs : P s) :
    (∀ o ∈ events step s cs, Q o) ∧ P (final step s cs) := by
  obtain ⟨houtcomes, hfinal⟩ := keeps (Q := fun o : Option O => ∀ a ∈ o, Q a) h hs
  refine ⟨?_, hfinal⟩
  intro o ho
  exact houtcomes _ (List.reduceOption_mem_iff.mp ho) o rfl

/-- The same where what a call keeps, and what it says of its event, may look back on the events
before it. -/
theorem keeps_looking_back {step : S → C → Option O × S} {P : List O → S → Prop}
    {Q : List O → O → Prop}
    (h : ∀ past s c, P past s →
      (∀ o ∈ (step s c).1, Q past o) ∧ P (past ++ (step s c).1.toList) (step s c).2)
    {past : List O} {s : S} (hs : P past s) (cs : List C) :
    (∀ u o v, events step s cs = u ++ o :: v → Q (past ++ u) o) ∧
      P (past ++ events step s cs) (final step s cs) := by
  induction cs generalizing past s with
  | nil => simpa using hs
  | cons c rest ih =>
    obtain ⟨hq, hp⟩ := h past s c hs
    obtain ⟨hrest, hfinal⟩ := ih hp
    rw [events_cons, final_cons, ← List.append_assoc]
    refine ⟨?_, hfinal⟩
    intro u o v heq
    rcases ho : (step s c).1 with _ | first
    · simp only [ho, Option.toList_none, List.nil_append, List.append_nil] at heq hrest
      exact hrest u o v heq
    · simp only [ho, Option.toList_some, List.singleton_append] at heq hrest
      rcases u with _ | ⟨b, u⟩
      · rw [List.nil_append, List.cons.injEq] at heq
        rw [List.append_nil, ← heq.1]
        exact hq first ho
      · rw [List.cons_append, List.cons.injEq] at heq
        rw [← heq.1, List.append_cons]
        exact hrest u o v heq.2

/-- Of a run beside a second one, only the calls that some events are about need be made in the
second one, if the others leave the two related. -/
theorem events_part {V : Type} {step : S → C → Option O × S} {R : S → S → Prop} {G : O → Prop}
    {keep : O → Bool} {call : O → C} {see : O → V}
    (unmade : ∀ s s' c, R s s' → (step s c).1 = none → R (step s c).2 s')
    (other : ∀ s s' c o, R s s' → (step s c).1 = some o → G o → keep o = false →
      R (step s c).2 s')
    (own : ∀ s s' c o, R s s' → (step s c).1 = some o → G o → keep o = true →
      ∃ o', (step s' (call o)).1 = some o' ∧ see o' = see o ∧ R (step s c).2 (step s' (call o)).2)
    {s s' : S} (hs : R s s') {cs : List C} (good : ∀ o ∈ events step s cs, G o) :
    (events step s' (((events step s cs).filter keep).map call)).map see =
        ((events step s cs).filter keep).map see ∧
      R (final step s cs) (final step s' (((events step s cs).filter keep).map call)) := by
  induction cs generalizing s s' with
  | nil => exact ⟨rfl, hs⟩
  | cons c rest ih =>
    rw [events_cons] at good ⊢
    rw [final_cons]
    have hrest : ∀ o ∈ events step (step s c).2 rest, G o :=
      fun o ho => good o (List.mem_append_right _ ho)
    rcases ho : (step s c).1 with _ | o
    · exact ih (unmade s s' c hs ho) hrest
    · have hgood : G o := good o (List.mem_append_left _ (by simp [ho]))
      rw [Option.toList_some, List.singleton_append]
      rcases hkeep : keep o
      · rw [List.filter_cons_of_neg (by simp [hkeep])]
        exact ih (other s s' c o hs ho hgood hkeep) hrest
      · obtain ⟨o', ho', hsee, hnext⟩ := own s s' c o hs ho hgood hkeep
        obtain ⟨hevents, hfinal⟩ := ih hnext hrest
        rw [List.filter_cons_of_pos hkeep, List.map_cons, events_cons, final_cons, ho',
          Option.toList_some, List.singleton_append]
        refine ⟨?_, hfinal⟩
        rw [List.map_cons, List.map_cons, hsee, hevents]

/-- Calls that leave the state as it was may be left out, some or all of them. -/
theorem events_filter {step : S → C → Option O × S} {P : S → Prop} {keep : O → Bool} {call : O → C}
    (kept : ∀ s c, P s → P (step s c).2)
    (unmade : ∀ s c, (step s c).1 = none → (step s c).2 = s)
    (made : ∀ s c o, P s → (step s c).1 = some o →
      call o = c ∧ (keep o = false → (step s c).2 = s))
    {s : S} (hs : P s) (cs : List C) :
    events step s (((events step s cs).filter keep).map call) = (events step s cs).filter keep ∧
      final step s (((events step s cs).filter keep).map call) = final step s cs := by
  let R : S → S → Prop := fun s s' => s' = s ∧ P s
  have hunmade : ∀ s s' c, R s s' → (step s c).1 = none → R (step s c).2 s' := by
    rintro s _ c ⟨rfl, hs⟩ hnone
    exact ⟨(unmade _ c hnone).symm, kept _ c hs⟩
  have hother : ∀ s s' c o, R s s' → (step s c).1 = some o → True → keep o = false →
      R (step s c).2 s' := by
    rintro s _ c o ⟨rfl, hs⟩ ho - hkeep
    exact ⟨((made _ c o hs ho).2 hkeep).symm, kept _ c hs⟩
  have hown : ∀ s s' c o, R s s' → (step s c).1 = some o → True → keep o = true →
      ∃ o', (step s' (call o)).1 = some o' ∧ id o' = id o ∧
        R (step s c).2 (step s' (call o)).2 := by
    rintro s _ c o ⟨rfl, hs⟩ ho - -
    obtain ⟨rfl, -⟩ := made _ c o hs ho
    exact ⟨o, ho, rfl, rfl, kept _ _ hs⟩
  have hstart : R s s := ⟨rfl, hs⟩
  obtain ⟨hevents, hfinal, -⟩ := events_part hunmade hother hown hstart (fun _ _ => trivial)
  rw [List.map_id, List.map_id] at hevents
  exact ⟨hevents, hfinal⟩

/-- Two systems that stay related, call by call, have related outcomes. -/
theorem simulates_renamed {f : C → C'} {R : S → S' → Prop} {step' : S' → C' → O' × S'}
    {g : O → O'} {cs : List C}
    (h : ∀ s s', ∀ c ∈ cs, R s s' →
      (step' s' (f c)).1 = g (step s c).1 ∧ R (step s c).2 (step' s' (f c)).2)
    {s : S} {s' : S'} (hs : R s s') :
    outcomes step' s' (cs.map f) = (outcomes step s cs).map g ∧
      R (final step s cs) (final step' s' (cs.map f)) := by
  induction cs generalizing s s' with
  | nil => exact ⟨rfl, hs⟩
  | cons c rest ih =>
    obtain ⟨ho, hr⟩ := h s s' c List.mem_cons_self hs
    obtain ⟨hos, hrs⟩ := ih (fun s s' c hc => h s s' c (List.mem_cons_of_mem _ hc)) hr
    refine ⟨?_, hrs⟩
    rw [List.map_cons, outcomes_cons, outcomes_cons, List.map_cons, ho, hos]

/-- The same where calls have the same names. -/
theorem simulates {R : S → S' → Prop} {g : O → O'} {cs : List C}
    (h : ∀ s s', ∀ c ∈ cs, R s s' →
      (step' s' c).1 = g (step s c).1 ∧ R (step s c).2 (step' s' c).2)
    {s : S} {s' : S'} (hs : R s s') :
    outcomes step' s' cs = (outcomes step s cs).map g ∧
      R (final step s cs) (final step' s' cs) := by
  simpa using simulates_renamed (f := id) h hs

/-- Calls that show more of what they do are not seen to do more. -/
theorem events_map {step : S → C → Option O × S} {step' : S → C → Option O' × S} {g : O → O'}
    (h : ∀ s c, step' s c = ((step s c).1.map g, (step s c).2)) (s : S) (cs : List C) :
    events step' s cs = (events step s cs).map g ∧ final step' s cs = final step s cs := by
  induction cs generalizing s with
  | nil => exact ⟨rfl, rfl⟩
  | cons c rest ih =>
    obtain ⟨hevents, hfinal⟩ := ih (step s c).2
    rw [events_cons, events_cons, final_cons, final_cons, h, List.map_append, ← hevents, hfinal]
    refine ⟨?_, rfl⟩
    rcases (step s c).1 with _ | o <;> rfl

end NullMiddleware.Run
