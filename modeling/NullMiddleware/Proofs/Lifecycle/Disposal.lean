import NullMiddleware.Proofs.Lifecycle.Sharing

/-!
How resources end.

A resource that is made is destroyed when the last registration is given back. If the owners go and
leave a registration behind, the resource goes away with the lifecycle, and the last owner complains
of what is left over. No resource ends in any other way, or twice.
-/

namespace NullMiddleware

variable {F R E : Type}

/-! ### Beginnings and ends -/

inductive Fate (R : Type)
  | made (resource : R)
  | destroyed (resource : R)
  /-- The resource goes away without being destroyed. -/
  | discarded (resource : R)
  deriving DecidableEq

def Deed.fate : Deed R → Fate R
  | made resource => .made resource
  | destroyed resource => .destroyed resource

/-- The resources that begin and end, in order. -/
def fates (trace : List (FactoryCall R ⊕ E)) : List (Fate R) :=
  trace.filterMap fun
    | .inl (.create (.made resource)) => some (.made resource)
    | .inl (.destroy resource) => some (.destroyed resource)
    | .inl (.discard resource) => some (.discarded resource)
    | _ => none

@[simp] lemma fates_nil : fates ([] : List (FactoryCall R ⊕ E)) = [] := rfl
@[simp] lemma fates_append (u v : List (FactoryCall R ⊕ E)) :
    fates (u ++ v) = fates u ++ fates v := List.filterMap_append ..

@[simp] lemma fates_discard (r : R) (rest : List (FactoryCall R ⊕ E)) :
    fates (.inl (.discard r) :: rest) = .discarded r :: fates rest := rfl
@[simp] lemma fates_map_inr (es : List E) :
    fates (es.map Sum.inr : List (FactoryCall R ⊕ E)) = [] := by
  unfold fates
  rw [List.filterMap_map]
  exact List.filterMap_eq_nil_iff.mpr fun _ _ => rfl

/-- Resources that are not discarded are made and destroyed. -/
lemma fates_eq_deeds {trace : List (FactoryCall R ⊕ E)} (h : ∀ r, .inl (.discard r) ∉ trace) :
    fates trace = (deeds trace).map Deed.fate := by
  unfold fates deeds
  rw [List.map_filterMap]
  refine List.filterMap_congr ?_
  intro entry hmem
  rcases entry with (creation | r | r) | e
  · cases creation <;> rfl
  · rfl
  · exact absurd hmem (h r)
  · rfl

/-- The registrations that the last owner leaves over. -/
def leftOver? : LogLine → Option Nat
  | .dependentsLeft count => some count
  | _ => none

/-- Nothing in the trace tells of the end of the lifecycle. -/
structure Ongoing (trace : List (FactoryCall R ⊕ LogLine ⊕ E)) : Prop where
  keeps : ∀ r, .inl (.discard r) ∉ trace
  calm : ∀ line ∈ lines trace, leftOver? line = none

lemma Ongoing.append {u v : List (FactoryCall R ⊕ LogLine ⊕ E)} (hu : Ongoing u)
    (hv : Ongoing v) : Ongoing (u ++ v) := by
  refine ⟨?_, ?_⟩
  · intro r hmem
    rcases List.mem_append.mp hmem with hmem | hmem
    · exact hu.keeps r hmem
    · exact hv.keeps r hmem
  · intro line hmem
    rw [lines_append] at hmem
    rcases List.mem_append.mp hmem with hmem | hmem
    · exact hu.calm line hmem
    · exact hv.calm line hmem

lemma ongoing_nil : Ongoing ([] : List (FactoryCall R ⊕ LogLine ⊕ E)) := ⟨by simp, by simp⟩

lemma ongoing_say (f : Factory F R E) {line : LogLine} (h : leftOver? line = none) :
    Ongoing [f.observed.say line] := by
  refine ⟨by simp [Factory.observed], ?_⟩
  intro said hmem
  rw [lines_say, List.mem_singleton] at hmem
  rwa [hmem]

namespace Lifecycle

lemma acquire_ongoing (f : Factory F R E) (l : Lifecycle F R) :
    Ongoing (l.acquire f.observed).trace := by
  refine ⟨?_, ?_⟩
  · have hacquired := acquired f.observed l
    generalize l.acquire f.observed = turn at hacquired
    cases hacquired with
    | refused | joined => simp
    | made up idle made =>
      obtain ⟨es, rfl⟩ := create_recorded made
      simp [Factory.observed]
    | failed up idle failed =>
      obtain ⟨es, rfl⟩ := create_recorded failed
      simp
    | panicked up idle panicked =>
      obtain ⟨es, rfl⟩ := create_recorded panicked
      simp
  · intro line hmem
    rw [l.lines_acquire f line hmem]
    rfl

lemma release_destroys (f : Factory F R E) {l : Lifecycle F R} (h : l.Housed) (r : R) :
    .inl (.destroy r) ∈ (l.release f.observed).trace ↔ l.count = 1 ∧ l.resource = some r := by
  have hreleased := released f.observed h
  generalize l.release f.observed = turn at hreleased
  cases hreleased with
  | unbalanced idle => simp [idle]
  | left busy =>
    have hne : l.count ≠ 1 := by omega
    simp [hne]
  | destroyed last present destroyed =>
    obtain ⟨es, rfl⟩ := destroy_recorded destroyed
    simp [last, present, Factory.observed, eq_comm]
  | panicked last present panicked =>
    obtain ⟨es, rfl⟩ := destroy_recorded panicked
    simp [last, present, eq_comm]

lemma release_ongoing (f : Factory F R E) {l : Lifecycle F R} (h : l.Housed) :
    Ongoing (l.release f.observed).trace := by
  refine ⟨?_, ?_⟩
  · have hreleased := released f.observed h
    generalize l.release f.observed = turn at hreleased
    cases hreleased with
    | unbalanced | left => simp
    | destroyed last present destroyed =>
      obtain ⟨es, rfl⟩ := destroy_recorded destroyed
      simp [Factory.observed]
    | panicked last present panicked =>
      obtain ⟨es, rfl⟩ := destroy_recorded panicked
      simp
  · intro line hmem
    rw [l.lines_release f h line hmem]
    rfl

lemma lines_finish (f : Factory F R E) (l : Lifecycle F R) :
    lines (l.finish f.observed) = if l.count = 0 then [] else [.dependentsLeft l.count] := by
  have hdiscard : lines ((l.resource.map fun r => (f.observed.discard l.factory r).2).getD []) =
      [] := by
    rcases l.resource with _ | r
    · rfl
    · exact lines_own _ _
  unfold finish
  rw [lines_append, hdiscard, List.append_nil]
  split
  · rfl
  · exact lines_say f _

lemma fates_finish (f : Factory F R E) (l : Lifecycle F R) :
    fates (l.finish f.observed) = l.resource.toList.map .discarded := by
  have hsaid : fates (if l.count = 0 then [] else [f.observed.say (.dependentsLeft l.count)]) =
      [] := by
    split <;> rfl
  unfold finish
  rw [fates_append, hsaid, List.nil_append]
  rcases l.resource with _ | r
  · rfl
  · have htrace : (f.observed.discard l.factory r).2 =
        .inl (.discard r) :: ((f.discard l.factory r).2.map Sum.inr).map Sum.inr := rfl
    rw [Option.map_some, Option.getD_some, htrace, fates_discard, fates_map_inr]
    rfl

lemma finish_destroys_nothing (f : Factory F R E) (l : Lifecycle F R) (r : R) :
    .inl (.destroy r) ∉ l.finish f.observed := by
  intro hmem
  obtain ⟨resource, hcall⟩ := l.finish_idle f.apart _ hmem
  cases hcall

end Lifecycle

/-- What a guard says when it goes, by how its registration was taken back. -/
def complaint (f : Factory F R E) (exit : Exit (Except Failure Unit)) : List E :=
  match exit with
  | .returned (.error cause) => [f.say (.releaseFailed cause)]
  | _ => []

namespace Shared

lemma depart_letGo (f : Factory F R E) (s : Shared F R) :
    (s.depart f).state = (letGo f { s with lifecycle := (s.lifecycle.release f).state }).1 ∧
      (s.depart f).trace = (s.lifecycle.release f).trace ++
        complaint f (s.lifecycle.release f).exit ++
          (letGo f { s with lifecycle := (s.lifecycle.release f).state }).2 := by
  unfold depart
  rcases hexit : (s.lifecycle.release f).exit with (cause | _) | text <;> simp [complaint, hexit]

lemma letGo_cases (f : Factory F R E) (s : Shared F R) :
    s.letGo f = (none, s.lifecycle.finish f) ∨
      ∃ s', s'.lifecycle = s.lifecycle ∧ s.letGo f = (some s', []) := by
  unfold letGo
  split
  · exact .inl rfl
  · exact .inr ⟨{ s with owners := s.owners - 1 }, rfl, rfl⟩

end Shared

namespace Tenancy

/-! ### One call -/

/-- What a call does before its owner goes, if it goes, and the lifecycle that it leaves then. -/
structure Event.Does (e : Event F R (FactoryCall R ⊕ LogLine ⊕ E))
    (body : List (FactoryCall R ⊕ LogLine ⊕ E)) (l : Lifecycle F R) : Prop where
  careful : Careful e.before l body e.grants e.frees
  ongoing : Ongoing body
  destroys : ∀ r, .inl (.destroy r) ∈ body ↔
    (e.call = .release ∨ e.call = .depart) ∧ e.before.count = 1 ∧ e.before.resource = some r
  complains : (∃ cause, .releaseFailed cause ∈ lines body) ↔
    e.call = .depart ∧ e.before.count = 0

section

variable (f : Factory F R E) {l : Lifecycle F R} (trace : List (FactoryCall R ⊕ LogLine ⊕ E))
  (after : Option (Lifecycle F R))

lemma does_of_registers {call : Call} (asks : call.registers) (h : l.Housed) :
    Event.Does ⟨call, l, (l.acquire f.observed).exit, trace, after⟩
      (l.acquire f.observed).trace (l.acquire f.observed).state := by
  have hcareful := (Lifecycle.acquired f.observed l).careful (f := f.apart) h
  have hcall : call ≠ .release ∧ call ≠ .depart := by
    refine ⟨?_, ?_⟩ <;> rintro rfl <;> cases asks
  refine ⟨?_, l.acquire_ongoing f, ?_, ?_⟩
  · rw [Event.grants_eq, Event.frees_of_registers asks, asks, Bool.true_and]
    exact hcareful
  · intro r
    have hnone : .inl (.destroy r) ∉ (l.acquire f.observed).trace := by
      intro hmem
      obtain ⟨hone, hzero⟩ := hcareful.destroy r hmem
      have hcount := hcareful.count
      rw [Bool.toNat_false] at hcount
      omega
    simp [hnone, hcall]
  · have hnone : ∀ cause, .releaseFailed cause ∉ lines (l.acquire f.observed).trace := by
      intro cause hmem
      cases l.lines_acquire f _ hmem
    simp [hnone, hcall]

lemma complaint_iff (h : l.Housed) :
    (∃ cause, .releaseFailed cause ∈ lines (complaint f.observed (l.release f.observed).exit)) ↔
      l.count = 0 := by
  have hreleased := Lifecycle.released f.observed h
  generalize l.release f.observed = turn at hreleased
  cases hreleased with
  | unbalanced idle => simp [complaint, idle]
  | left busy =>
    have hne : l.count ≠ 0 := by omega
    simp [complaint, hne]
  | destroyed last | panicked last => simp [complaint, last]

lemma complaint_ongoing (exit : Exit (Except Failure Unit)) :
    Ongoing (complaint f.observed exit) := by
  rcases exit with (cause | _) | text
  · exact ongoing_say f rfl
  · exact ongoing_nil
  · exact ongoing_nil

lemma complaint_idle (exit : Exit (Except Failure Unit)) : Idle (complaint f.observed exit) := by
  rcases exit with (cause | _) | text <;> intro call hmem <;>
    simp [complaint, Factory.observed] at hmem

lemma does_of_release (exit : Exit (Except Failure Unit)) (h : l.Housed) :
    Event.Does ⟨.release, l, exit, trace, after⟩ (l.release f.observed).trace
      (l.release f.observed).state := by
  refine ⟨(Lifecycle.released f.observed h).careful (f := f.apart) h, l.release_ongoing f h, ?_, ?_⟩
  · intro r
    rw [l.release_destroys f h]
    simp
  · have hnone : ∀ cause, .releaseFailed cause ∉ lines (l.release f.observed).trace := by
      intro cause hmem
      cases l.lines_release f h _ hmem
    simp [hnone]

lemma does_of_depart (exit : Exit (Except Failure Unit)) (h : l.Housed) :
    Event.Does ⟨.depart, l, exit, trace, after⟩
      ((l.release f.observed).trace ++ complaint f.observed (l.release f.observed).exit)
      (l.release f.observed).state := by
  have hrelease := does_of_release f trace after exit h
  refine ⟨?_, hrelease.ongoing.append (complaint_ongoing f _), ?_, ?_⟩
  · exact hrelease.careful.append (complaint_idle f _)
  · intro r
    have hnone : .inl (.destroy r) ∉ complaint f.observed (l.release f.observed).exit := by
      intro hmem
      obtain ⟨resource, hcall⟩ := complaint_idle f _ _ hmem
      cases hcall
    rw [List.mem_append, hrelease.destroys]
    simp [hnone]
  · have hnone := hrelease.complains
    have hguard := complaint_iff f h
    simp only [reduceCtorEq, false_and, iff_false, not_exists] at hnone
    simp [hnone, hguard]

lemma does_of_idle {call : Call} (other : call = .shutdown ∨ call = .share ∨ call = .leave)
    (exit : Exit (Except Failure Unit)) (h : l.Housed) {l' : Lifecycle F R}
    (count : l'.count = l.count) (resource : l'.resource = l.resource) :
    Event.Does ⟨call, l, exit, trace, after⟩ [] l' := by
  have hcareful : Careful l l' ([] : List (FactoryCall R ⊕ LogLine ⊕ E)) false false :=
    careful_of_eq h count resource
  rcases other with rfl | rfl | rfl <;>
    exact ⟨hcareful, ongoing_nil, by simp, by simp⟩

end

/-- How an event ends: its owner stays or leaves others behind, or was the last one. -/
inductive Event.Ends (f : Factory F R E) (e : Event F R (FactoryCall R ⊕ LogLine ⊕ E))
    (body : List (FactoryCall R ⊕ LogLine ⊕ E)) (l : Lifecycle F R) :
    Option (Shared F R) → Prop
  | owned {s : Shared F R} (state : s.lifecycle = l) (trace : e.trace = body)
    (after : e.after = some l) : Event.Ends f e body l (some s)
  | closed (trace : e.trace = body ++ l.finish f.observed) (after : e.after = none) :
    Event.Ends f e body l none

lemma ends_of_letGo (f : Factory F R E) {e : Event F R (FactoryCall R ⊕ LogLine ⊕ E)}
    {body : List (FactoryCall R ⊕ LogLine ⊕ E)} {s : Shared F R}
    (trace : e.trace = body ++ (s.letGo f.observed).2)
    (after : e.after = (s.letGo f.observed).1.map (·.lifecycle)) :
    e.Ends f body s.lifecycle (s.letGo f.observed).1 := by
  rcases s.letGo_cases f.observed with hlast | ⟨s', hsame, hmore⟩
  · rw [hlast] at trace after ⊢
    exact .closed trace after
  · rw [hmore, List.append_nil] at trace
    rw [hmore, Option.map_some, hsame] at after
    rw [hmore]
    exact .owned hsame trace after

lemma step_does (f : Factory F R E) {t : Tenancy F R} {s : Shared F R}
    (present : t.shared = some s) (h : s.lifecycle.Housed) (call : Call) :
    step f.observed t call = (none, t) ∨
      ∃ e body l, (step f.observed t call).1 = some e ∧ e.call = call ∧
        e.before = s.lifecycle ∧ e.Does body l ∧
        e.Ends f body l (step f.observed t call).2.shared := by
  unfold step
  rw [present]
  cases call with
  | acquire =>
    exact .inr ⟨_, _, _, rfl, rfl, rfl, does_of_registers f _ _ rfl h, .owned rfl rfl rfl⟩
  | join =>
    exact .inr ⟨_, _, _, rfl, rfl, rfl, does_of_registers f _ _ rfl h, .owned rfl rfl rfl⟩
  | release =>
    exact .inr ⟨_, _, _, rfl, rfl, rfl, does_of_release f _ _ _ h, .owned rfl rfl rfl⟩
  | shutdown =>
    exact .inr ⟨_, _, s.lifecycle.shutdown, rfl, rfl, rfl, does_of_idle _ _ (.inl rfl) _ h rfl rfl,
      .owned rfl rfl rfl⟩
  | share =>
    exact .inr ⟨_, _, _, rfl, rfl, rfl, does_of_idle _ _ (.inr (.inl rfl)) _ h rfl rfl,
      .owned rfl rfl rfl⟩
  | leave =>
    by_cases howners : s.owners ≤ t.guards
    · exact .inl (by simp [perform, howners])
    · simp only [perform, if_neg howners]
      exact .inr ⟨_, _, _, rfl, rfl, rfl, does_of_idle _ _ (.inr (.inr rfl)) _ h rfl rfl,
        ends_of_letGo f rfl rfl⟩
  | depart =>
    by_cases hguards : t.guards = 0
    · exact .inl (by simp [perform, hguards])
    · obtain ⟨hstate, htrace⟩ := s.depart_letGo f.observed
      have hends := ends_of_letGo f (e := ⟨.depart, s.lifecycle,
        (s.depart f.observed).exit.ofUnit, (s.depart f.observed).trace,
        (s.depart f.observed).state.map (·.lifecycle)⟩) htrace
        (congrArg (Option.map (·.lifecycle)) hstate)
      rw [← hstate] at hends
      simp only [perform, if_neg hguards]
      exact .inr ⟨_, _, _, rfl, rfl, rfl, does_of_depart f _ _ _ h, hends⟩

/-- What can be said of each call. The resource is destroyed by whoever gives the last registration
back, a guard complains when nobody is registered, and nothing is discarded or left over as long as
there is an owner. -/
structure Event.Orderly (e : Event F R (FactoryCall R ⊕ LogLine ⊕ E)) : Prop where
  destroys : ∀ r, .inl (.destroy r) ∈ e.trace ↔
    (e.call = .release ∨ e.call = .depart) ∧ e.before.count = 1 ∧ e.before.resource = some r
  complains : (∃ cause, .releaseFailed cause ∈ lines e.trace) ↔
    e.call = .depart ∧ e.before.count = 0
  ongoing : e.after.isSome → Ongoing e.trace

lemma Event.Does.orderly {f : Factory F R E} {e : Event F R (FactoryCall R ⊕ LogLine ⊕ E)}
    {body : List (FactoryCall R ⊕ LogLine ⊕ E)} {l : Lifecycle F R} (h : e.Does body l)
    {left : Option (Shared F R)} (ends : e.Ends f body l left) : e.Orderly := by
  cases ends with
  | owned state trace after =>
    subst trace
    exact ⟨h.destroys, h.complains, fun _ => h.ongoing⟩
  | closed trace after =>
    refine ⟨?_, ?_, ?_⟩
    · intro r
      have hnone := l.finish_destroys_nothing f r
      rw [trace, List.mem_append, or_iff_left hnone]
      exact h.destroys r
    · have hnone : ∀ cause, .releaseFailed cause ∉ lines (l.finish f.observed) := by
        intro cause hmem
        rw [l.lines_finish f] at hmem
        split at hmem <;> simp at hmem
      simp only [trace, lines_append, List.mem_append, hnone, or_false]
      exact h.complains
    · intro hsome
      rw [after] at hsome
      cases hsome

/-! ### A whole run -/

/-- The call is made by hand, and not by a guard. -/
def Event.raw (e : Event F R E) : Bool :=
  match e.call with
  | .acquire | .release => true
  | _ => false

/-- What is known of registrations, by the calls so far: the guards that are there have theirs, or
had it taken from them by hand. -/
structure Reckoned (past : List (Event F R E)) (t : Tenancy F R) (s : Shared F R) : Prop where
  housed : s.lifecycle.Housed
  count : s.lifecycle.count + past.countP Event.frees = past.countP Event.grants
  guards : t.guards + (past.filter fun e => !e.raw).countP Event.frees ≤
    (past.filter fun e => !e.raw).countP Event.grants

lemma reckoned_new (start : F) : Reckoned ([] : List (Event F R E)) (new start)
    { lifecycle := { factory := start } } := by
  refine ⟨?_, rfl, Nat.le_refl 0⟩
  simp [Lifecycle.Housed]

lemma countP_filter_one {α : Type} (p q : α → Bool) (a : α) :
    ([a].filter q).countP p = (q a && p a).toNat := by
  rcases hq : q a <;> rcases hp : p a <;> simp [hq, hp]

/-- Guards come with a registration each, and only one that is there can go. -/
lemma step_guards {f : Factory F R E} {t : Tenancy F R} {s : Shared F R}
    (present : t.shared = some s) {call : Call} {e : Event F R E}
    (he : (step f t call).1 = some e) :
    (step f t call).2.guards + (!e.raw && e.frees).toNat ≤
        t.guards + (!e.raw && e.grants).toNat ∧ (e.call = .depart → 0 < t.guards) := by
  unfold step at he ⊢
  rw [present] at he ⊢
  cases call with
  | acquire | release | shutdown | share =>
    cases he
    exact ⟨Nat.le_refl _, by simp⟩
  | join =>
    cases he
    refine ⟨?_, by simp⟩
    rcases hexit : (s.lifecycle.acquire f).exit with (cause | _) | text <;>
      simp [perform, Shared.join, hexit, Event.raw, Event.grants, Event.frees,
        Lifecycle.succeeds]
  | leave =>
    by_cases howners : s.owners ≤ t.guards
    · simp [perform, howners] at he
    · simp only [perform, if_neg howners] at he ⊢
      cases he
      exact ⟨Nat.le_refl _, by simp⟩
  | depart =>
    by_cases hguards : t.guards = 0
    · simp [perform, hguards] at he
    · simp only [perform, if_neg hguards] at he ⊢
      cases he
      have hbit := Bool.toNat_le (decide (s.lifecycle.count ≠ 0))
      refine ⟨?_, fun _ => Nat.pos_of_ne_zero hguards⟩
      simp only [Event.raw, Event.frees, Event.grants, Bool.not_false, Bool.true_and,
        Bool.toNat_false]
      omega

lemma Reckoned.step {f : Factory F R E}
    {past : List (Event F R (FactoryCall R ⊕ LogLine ⊕ E))} {t : Tenancy F R} {s : Shared F R}
    (present : t.shared = some s) (h : Reckoned past t s) {call : Call}
    {e : Event F R (FactoryCall R ⊕ LogLine ⊕ E)} {l : Lifecycle F R}
    {body : List (FactoryCall R ⊕ LogLine ⊕ E)}
    (he : (step f.observed t call).1 = some e) (before : e.before = s.lifecycle)
    (does : e.Does body l) {s' : Shared F R} (state : s'.lifecycle = l) :
    Reckoned (past ++ [e]) (step f.observed t call).2 s' := by
  obtain ⟨hguards, -⟩ := step_guards present he
  have hcareful := does.careful
  have hstep := hcareful.count
  have hcount := h.count
  have hearlier := h.guards
  rw [before] at hstep
  refine ⟨state ▸ hcareful.housed, ?_, ?_⟩
  · rw [state, List.countP_append, List.countP_append, countP_one, countP_one]
    omega
  · rw [List.filter_append, List.countP_append, List.countP_append, countP_filter_one,
      countP_filter_one]
    omega

/-- A guard that finds nobody registered has lost its registration to somebody who has given back by
hand more than was registered by hand. -/
lemma Reckoned.robbed {past : List (Event F R E)} {t : Tenancy F R} {s : Shared F R}
    (h : Reckoned past t s) (guarded : 0 < t.guards) (idle : s.lifecycle.count = 0) :
    (past.filter Event.raw).countP Event.grants < (past.filter Event.raw).countP Event.frees := by
  have hgrants := List.countP_eq_countP_filter_add past Event.grants Event.raw
  have hfrees := List.countP_eq_countP_filter_add past Event.frees Event.raw
  have hcount := h.count
  have hguards := h.guards
  omega

lemma run_orderly (f : Factory F R E) (start : F) (calls : List Call) :
    let es := Run.events (step f.observed) (new start) calls
    (∀ past e later, es = past ++ e :: later → e.Orderly ∧
        (e.call = .depart → e.before.count = 0 →
          (past.filter Event.raw).countP Event.grants <
            (past.filter Event.raw).countP Event.frees)) ∧
      ∀ s, (Run.final (step f.observed) (new start) calls).shared = some s →
        Reckoned es (Run.final (step f.observed) (new start) calls) s := by
  intro es
  -- who may be robbed is seen from all that was done before, so the reckoning looks back
  have hstep : ∀ past t call, (∀ s, t.shared = some s → Reckoned past t s) →
      (∀ e ∈ (step f.observed t call).1, e.Orderly ∧ (e.call = .depart → e.before.count = 0 →
        (past.filter Event.raw).countP Event.grants <
          (past.filter Event.raw).countP Event.frees)) ∧
      ∀ s, (step f.observed t call).2.shared = some s →
        Reckoned (past ++ (step f.observed t call).1.toList) (step f.observed t call).2 s := by
    intro past t call hpast
    rcases hs : t.shared with _ | s
    · have hgone : step f.observed t call = (none, t) := by rw [step, hs]
      rw [hgone]
      simp [hs]
    · have hnow := hpast s hs
      rcases step_does f hs hnow.housed call with
        hnone | ⟨e, body, l, hsome, -, hbefore, hdoes, hends⟩
      · rw [hnone]
        refine ⟨by simp, ?_⟩
        intro s' hs'
        rw [Option.toList_none, List.append_nil]
        exact hpast s' hs'
      · refine ⟨?_, ?_⟩
        · intro e' he'
          obtain rfl : e = e' := Option.some_inj.mp (hsome.symm.trans he')
          refine ⟨hdoes.orderly hends, ?_⟩
          intro hguard hidle
          rw [hbefore] at hidle
          exact hnow.robbed ((step_guards hs hsome).2 hguard) hidle
        · intro s' hs'
          have hstate : s'.lifecycle = l := by
            rw [hs'] at hends
            cases hends with
            | owned state => exact state
          rw [hsome]
          exact hnow.step hs hsome hbefore hdoes hstate
  have hstart : ∀ s : Shared F R, (new start).shared = some s →
      Reckoned (E := FactoryCall R ⊕ LogLine ⊕ E) [] (new start) s := by
    rintro s ⟨⟩
    exact reckoned_new start
  simpa using Run.keeps_looking_back hstep hstart calls

lemma shared_of_after {f : Factory F R E} {t : Tenancy F R} {calls : List Call}
    {e : Event F R E} (he : e ∈ Run.events (step f) t calls) (after : e.after = none) :
    (Run.final (step f) t calls).shared = none := by
  induction calls generalizing t with
  | nil => simp at he
  | cons call rest ih =>
    rw [Run.events_cons] at he
    rw [Run.final_cons]
    rcases List.mem_append.mp he with hmem | hmem
    · have hfirst := Option.mem_toList.mp hmem
      have hgone : (step f t call).2.shared = none := by
        unfold step at hfirst ⊢
        rcases hs : t.shared with _ | s
        · simp [hs] at hfirst
        · rcases hp : perform f s t.guards call with _ | turn
          · simp [hs, hp] at hfirst
          · simp only [hs, hp] at hfirst
            cases hfirst
            simpa [lifecycle?, hp] using after
      rw [(run_gone f hgone rest).2]
      exact hgone
    · exact ih hmem

/-- How a run ends with the last owner. The lifecycle `l` is what this one leaves. -/
structure Farewell (f : Factory F R E)
    (earlier : List (Event F R (FactoryCall R ⊕ LogLine ⊕ E)))
    (last : Event F R (FactoryCall R ⊕ LogLine ⊕ E))
    (body : List (FactoryCall R ⊕ LogLine ⊕ E)) (l : Lifecycle F R) : Prop where
  owned : ∀ e ∈ earlier, e.after.isSome ∧ e.Orderly
  after : last.after = none
  ongoing : Ongoing body
  trace : last.trace = body ++ l.finish f.observed
  housed : l.Housed
  succession : Succession none (earlier.flatMap (deeds ·.trace) ++ deeds body) l.resource
  count : l.count + (earlier ++ [last]).countP Event.frees =
    (earlier ++ [last]).countP Event.grants

lemma run_farewell (f : Factory F R E) (start : F) (calls : List Call)
    (gone : (Run.final (step f.observed) (new start) calls).shared = none) :
    ∃ earlier last body l,
      Run.events (step f.observed) (new start) calls = earlier ++ [last] ∧
        Farewell f earlier last body l := by
  have hstart : (new start : Tenancy F R).shared ≠ none := by simp [new]
  -- one call makes the last owner go; none after it is made
  obtain ⟨u, call, v, rfl, hu, hcall⟩ :=
    Run.exists_call_of_final (P := fun t : Tenancy F R => t.shared = none) hstart gone
  obtain ⟨s, hs⟩ := Option.ne_none_iff_exists'.mp hu
  obtain ⟨hevents, hreckoned⟩ := run_orderly f start u
  have hnow := hreckoned s hs
  obtain ⟨-, l', -, hsuccession, -, hl'⟩ := run_last f.apart (t := new start) (s :=
    { lifecycle := { factory := start } }) rfl (by simp [Lifecycle.Housed]) u
  have hresource : l'.resource = s.lifecycle.resource := by
    rw [hl' s.lifecycle (by rw [lifecycle?, ← Factory.observed, hs]; rfl)]
  rw [hresource] at hsuccession
  rcases step_does f hs hnow.housed call with
    hnone | ⟨e, body, l, hsome, -, hbefore, hdoes, hends⟩
  · rw [hnone] at hcall
    exact absurd hcall hu
  · rw [hcall] at hends
    cases hends with
    | closed trace after =>
      have hes : Run.events (step f.observed) (new start) (u ++ call :: v) =
          Run.events (step f.observed) (new start) u ++ [e] := by
        rw [Run.events_append, Run.events_cons, (run_gone f.observed hcall v).1, hsome]
        rfl
      have hcareful := hdoes.careful
      rw [hbefore] at hcareful
      refine ⟨_, e, body, l, hes, ?_, after, hdoes.ongoing, trace, hcareful.housed,
        hsuccession.trans hcareful.succession, ?_⟩
      · intro a ha
        refine ⟨?_, ?_⟩
        · rw [Option.isSome_iff_ne_none]
          intro hnone
          exact hu (shared_of_after ha hnone)
        · obtain ⟨past, later, hsplit⟩ := List.append_of_mem ha
          exact (hevents past a later hsplit).1
      · have hstep := hcareful.count
        have hcount := hnow.count
        rw [List.countP_append, List.countP_append, countP_one, countP_one]
        omega

namespace Farewell

variable {f : Factory F R E} {earlier : List (Event F R (FactoryCall R ⊕ LogLine ⊕ E))}
  {last : Event F R (FactoryCall R ⊕ LogLine ⊕ E)}
  {body : List (FactoryCall R ⊕ LogLine ⊕ E)} {l : Lifecycle F R}

/-- All that was made is destroyed, up to what the last owner leaves. -/
lemma fates_eq (h : Farewell f earlier last body l) :
    ∃ past : List R, (earlier ++ [last]).flatMap (fates ·.trace) =
      (past.flatMap fun r => [.made r, .destroyed r]) ++
        l.resource.toList.flatMap fun r => [.made r, .discarded r] := by
  have hearlier : earlier.flatMap (fates ·.trace) =
      (earlier.flatMap (deeds ·.trace)).map Deed.fate := by
    rw [List.map_flatMap]
    refine List.flatMap_congr ?_
    intro e he
    obtain ⟨hsome, horderly⟩ := h.owned e he
    exact fates_eq_deeds (horderly.ongoing hsome).keeps
  obtain ⟨past, hpast⟩ := h.succession
  have hmade : ((earlier.flatMap (deeds ·.trace)) ++ deeds body).map Deed.fate =
      (past.flatMap fun r => [.made r, .destroyed r]) ++ l.resource.toList.map .made := by
    have hmap := congrArg (List.map Deed.fate) hpast
    have hpairs : (past.flatMap fun r => [Deed.made r, .destroyed r]).map Deed.fate =
        past.flatMap fun r => [.made r, .destroyed r] := List.map_flatMap ..
    rw [Option.toList_none, List.map_nil, List.nil_append] at hmap
    rw [hmap, List.map_append, hpairs, List.map_map]
    rfl
  refine ⟨past, ?_⟩
  rw [List.flatMap_append, List.flatMap_singleton, h.trace, fates_append, hearlier,
    fates_eq_deeds h.ongoing.keeps, l.fates_finish, ← List.append_assoc, ← List.map_append, hmade,
    List.append_assoc]
  cases l.resource <;> rfl

lemma leftOver_of_ongoing {trace : List (FactoryCall R ⊕ LogLine ⊕ E)} (h : Ongoing trace) :
    (lines trace).filterMap leftOver? = [] :=
  List.filterMap_eq_nil_iff.mpr h.calm

lemma leftOver_eq (h : Farewell f earlier last body l) :
    ((earlier ++ [last]).flatMap (lines ·.trace)).filterMap leftOver? =
      if l.count = 0 then [] else [l.count] := by
  have hearlier : (earlier.flatMap (lines ·.trace)).filterMap leftOver? = [] := by
    rw [List.filterMap_flatMap]
    refine List.flatMap_eq_nil_iff.mpr ?_
    intro e he
    obtain ⟨hsome, horderly⟩ := h.owned e he
    exact leftOver_of_ongoing (horderly.ongoing hsome)
  rw [List.flatMap_append, List.filterMap_append, hearlier, List.nil_append,
    List.flatMap_singleton, h.trace, lines_append, List.filterMap_append,
    leftOver_of_ongoing h.ongoing, List.nil_append, l.lines_finish]
  split <;> rfl

end Farewell

/-- **Every resource ends once, and the leak is told exactly.** When all owners have gone, each
resource that was made has been destroyed, when the last registration was given back; only the one
made last may have gone away with the lifecycle. That is so if and only if more registrations were
made than were given back. The last owner then says by how many, and nobody else says so. A guard
complains if and only if it finds nobody registered; then more was given back by hand than was
registered by hand. -/
theorem every_resource_ends_once (f : Factory F R E) (start : F) (calls : List Call)
    (gone : (Run.final (step f) (new start) calls).shared = none) :
    let es := Run.events (step f.observed) (new start) calls
    let granted := es.countP Event.grants
    let freed := es.countP Event.frees
    (Run.events (step f) (new start) calls = es.map (Event.keep (unobserved f)) ∧
        Run.final (step f) (new start) calls = Run.final (step f.observed) (new start) calls) ∧
      (∃ earlier last, es = earlier ++ [last] ∧ last.after = none ∧
        ∀ e ∈ earlier, e.after.isSome) ∧
      (∃ (past : List R) (left : Option R),
        es.flatMap (fates ·.trace) = (past.flatMap fun r => [.made r, .destroyed r]) ++
            left.toList.flatMap (fun r => [.made r, .discarded r]) ∧
          (left.isSome ↔ freed < granted)) ∧
      (es.flatMap (lines ·.trace)).filterMap leftOver? =
        (if freed < granted then [granted - freed] else []) ∧
      ∀ past e later, es = past ++ e :: later → e.Orderly ∧
        (e.call = .depart → e.before.count = 0 →
          (past.filter Event.raw).countP Event.grants <
            (past.filter Event.raw).countP Event.frees) := by
  intro es granted freed
  obtain ⟨hevents, hfinal⟩ := run_extends f.observed_extends (new start) calls
  rw [hfinal] at gone
  obtain ⟨earlier, last, body, l, hes, hfarewell⟩ := run_farewell f start calls gone
  obtain ⟨past, hpast⟩ := hfarewell.fates_eq
  have hleft := hfarewell.leftOver_eq
  have hcount : l.count + freed = granted := by
    have hsame := hfarewell.count
    rwa [← hes] at hsame
  have hhoused : l.resource.isSome ↔ 0 < l.count := hfarewell.housed
  rw [← hes] at hpast hleft
  refine ⟨⟨hevents, hfinal⟩, ⟨earlier, last, hes, hfarewell.after,
    fun e he => (hfarewell.owned e he).1⟩, ⟨past, l.resource, hpast, ?_⟩, ?_,
    (run_orderly f start calls).1⟩
  · rw [hhoused]
    omega
  · rw [hleft]
    by_cases hzero : l.count = 0
    · rw [if_pos hzero, if_neg (by omega)]
    · have hdiff : l.count = granted - freed := by omega
      rw [if_neg hzero, if_pos (by omega), hdiff]

/-- A creation fails and one panics. A guard loses its registration to a release by hand, and
complains. The owners go while two are registered for the second resource. -/
theorem second_resource_is_left_over :
    let start : Script := { outcomes := [.failure .unbalancedRelease, .panic],
                            destroyPanics := true }
    let calls : List Call :=
      [.acquire, .join, .join, .release, .depart, .acquire, .share, .leave, .acquire, .leave]
    let es := Run.events (step Script.factory.observed) (new start) calls
    (Run.final (step Script.factory) (new start) calls).shared = none ∧
      es.flatMap (fates ·.trace) = [.made 0, .destroyed 0, .made 1, .discarded 1] ∧
      (es.flatMap (lines ·.trace)).filterMap leftOver? = [2] ∧
      ∃ e, es[4]? = some e ∧ (∃ cause, .releaseFailed cause ∈ lines e.trace) ∧
        ((es.take 4).filter Event.raw).countP Event.grants <
          ((es.take 4).filter Event.raw).countP Event.frees := by
  intro start calls es
  have hgone : (Run.final (step Script.factory) (new start) calls).shared = none := by rfl
  have hgranted : es.countP Event.grants = 3 := by decide +kernel
  have hfreed : es.countP Event.frees = 1 := by decide +kernel
  have hfifth : (es[4]?).map (fun e => (e.call, e.before.count)) = some (.depart, 0) := by rfl
  obtain ⟨-, -, -, hleft, hevents⟩ := every_resource_ends_once Script.factory start calls hgone
  obtain ⟨e, he, hevent⟩ := Option.map_eq_some_iff.mp hfifth
  obtain ⟨hcall, hidle⟩ := Prod.mk.inj hevent
  obtain ⟨horderly, hrobbed⟩ := hevents _ _ _ (Run.eq_take_cons_drop he)
  refine ⟨hgone, by decide +kernel, ?_, e, he, horderly.complains.mpr ⟨hcall, hidle⟩,
    hrobbed hcall hidle⟩
  rw [hleft, hgranted, hfreed]
  rfl

end Tenancy
end NullMiddleware
