import NullMiddleware.Lifecycle.Scripted
import NullMiddleware.Proofs.Lifecycle.Run

/-!
One resource for each busy period.

A lifecycle is busy from the registration that finds nobody registered to the one that is given
back last. Whatever the factory does, each busy period has one resource, which is made at its
beginning and destroyed at its end.
-/

namespace NullMiddleware

variable {F R E : Type}

/-! ### Resources that follow one another -/

inductive Deed (R : Type)
  | made (resource : R)
  | destroyed (resource : R)
  deriving DecidableEq

def Deed.isMade : Deed R → Bool
  | made _ => true
  | destroyed _ => false

def Deed.isDestroyed : Deed R → Bool
  | made _ => false
  | destroyed _ => true

/-- The resources made and destroyed, in order. -/
def deeds (trace : List (FactoryCall R ⊕ E)) : List (Deed R) :=
  trace.filterMap fun
    | .inl (.create (.made resource)) => some (.made resource)
    | .inl (.destroy resource) => some (.destroyed resource)
    | _ => none

@[simp] lemma deeds_nil : deeds ([] : List (FactoryCall R ⊕ E)) = [] := rfl
@[simp] lemma deeds_append (u v : List (FactoryCall R ⊕ E)) :
    deeds (u ++ v) = deeds u ++ deeds v := List.filterMap_append ..
@[simp] lemma deeds_inr (e : E) (rest : List (FactoryCall R ⊕ E)) :
    deeds (.inr e :: rest) = deeds rest := rfl
@[simp] lemma deeds_map_inr (es : List E) :
    deeds (es.map Sum.inr : List (FactoryCall R ⊕ E)) = [] := by
  induction es with
  | nil => rfl
  | cons e rest ih => rw [List.map_cons, deeds_inr, ih]

@[simp] lemma deeds_made (r : R) (rest : List (FactoryCall R ⊕ E)) :
    deeds (.inl (.create (.made r)) :: rest) = .made r :: deeds rest := rfl
@[simp] lemma deeds_failed (cause : Failure) (rest : List (FactoryCall R ⊕ E)) :
    deeds (.inl (.create (.failed cause)) :: rest) = deeds rest := rfl
@[simp] lemma deeds_panicked (text : String) (rest : List (FactoryCall R ⊕ E)) :
    deeds (.inl (.create (.panicked text)) :: rest) = deeds rest := rfl
@[simp] lemma deeds_destroy (r : R) (rest : List (FactoryCall R ⊕ E)) :
    deeds (.inl (.destroy r) :: rest) = .destroyed r :: deeds rest := rfl
@[simp] lemma deeds_discard (r : R) (rest : List (FactoryCall R ⊕ E)) :
    deeds (.inl (.discard r) :: rest) = deeds rest := rfl

/-- From one resource to another: those in between are made and destroyed, one after another. -/
def Succession (first : Option R) (done : List (Deed R)) (last : Option R) : Prop :=
  ∃ past : List R, first.toList.map .made ++ done =
    (past.flatMap fun r => [.made r, .destroyed r]) ++ last.toList.map .made

namespace Succession

lemma refl (r : Option R) : Succession r [] r := ⟨[], by simp⟩

lemma made (r : R) : Succession none [.made r] (some r) := ⟨[], rfl⟩

lemma destroyed (r : R) : Succession (some r) [.destroyed r] none := ⟨[r], rfl⟩

lemma trans {a b c : Option R} {u v : List (Deed R)} (h : Succession a u b)
    (h' : Succession b v c) : Succession a (u ++ v) c := by
  obtain ⟨past, hu⟩ := h
  obtain ⟨later, hv⟩ := h'
  refine ⟨past ++ later, ?_⟩
  rw [← List.append_assoc, hu, List.append_assoc, hv, List.flatMap_append, List.append_assoc]

lemma countP_past (past : List R) :
    (past.flatMap fun r => [Deed.made r, .destroyed r]).countP Deed.isMade =
      (past.flatMap fun r => [Deed.made r, .destroyed r]).countP Deed.isDestroyed := by
  induction past with
  | nil => rfl
  | cons r rest ih => simp [List.countP_cons, Deed.isMade, Deed.isDestroyed, ih]

lemma balance {first last : Option R} {done : List (Deed R)} (h : Succession first done last) :
    done.countP Deed.isMade + first.isSome.toNat =
      done.countP Deed.isDestroyed + last.isSome.toNat := by
  obtain ⟨past, hpast⟩ := h
  have hmade := congrArg (List.countP Deed.isMade) hpast
  have hdestroyed := congrArg (List.countP Deed.isDestroyed) hpast
  rw [List.countP_append, List.countP_append] at hmade hdestroyed
  rw [← countP_past] at hdestroyed
  cases first <;> cases last <;> simp [Deed.isMade, Deed.isDestroyed] at hmade hdestroyed ⊢ <;>
    omega

end Succession

/-! ### One call -/

/-- What a call that found lifecycle `l` may leave behind: it registers or gives back at most what
is said, and uses the factory only at the ends of a busy period. -/
structure Careful (l l' : Lifecycle F R) (trace : List (FactoryCall R ⊕ E))
    (granted freed : Bool) : Prop where
  housed : l'.Housed
  count : l'.count + freed.toNat = l.count + granted.toNat
  create : ∀ outcome, .inl (.create outcome) ∈ trace → l.count = 0
  destroy : ∀ resource, .inl (.destroy resource) ∈ trace → l.count = 1 ∧ l'.count = 0
  succession : Succession l.resource (deeds trace) l'.resource

/-- Nothing is made or destroyed. -/
def Idle (trace : List (FactoryCall R ⊕ E)) : Prop :=
  ∀ call, .inl call ∈ trace → ∃ resource, call = .discard resource

lemma Idle.nil : Idle ([] : List (FactoryCall R ⊕ E)) := fun _ h => by simp at h

lemma Idle.deeds {trace : List (FactoryCall R ⊕ E)} (h : Idle trace) : deeds trace = [] := by
  refine List.filterMap_eq_nil_iff.mpr ?_
  intro entry hmem
  rcases entry with call | e
  · obtain ⟨resource, rfl⟩ := h call hmem
    rfl
  · rfl

lemma Careful.append {l l' : Lifecycle F R} {trace more : List (FactoryCall R ⊕ E)}
    {granted freed : Bool} (h : Careful l l' trace granted freed) (idle : Idle more) :
    Careful l l' (trace ++ more) granted freed := by
  refine ⟨h.housed, h.count, ?_, ?_, ?_⟩
  · intro outcome hmem
    rcases List.mem_append.mp hmem with hmem | hmem
    · exact h.create outcome hmem
    · obtain ⟨resource, hcall⟩ := idle _ hmem
      cases hcall
  · intro resource hmem
    rcases List.mem_append.mp hmem with hmem | hmem
    · exact h.destroy resource hmem
    · obtain ⟨resource, hcall⟩ := idle _ hmem
      cases hcall
  · rw [deeds_append, idle.deeds, List.append_nil]
    exact h.succession

/-- A call that writes nothing and leaves the count and the resource. -/
lemma careful_of_eq {l l' : Lifecycle F R} (h : l.Housed) (hcount : l'.count = l.count)
    (hresource : l'.resource = l.resource) :
    Careful l l' ([] : List (FactoryCall R ⊕ E)) false false := by
  refine ⟨?_, by simp [hcount], by simp, by simp, ?_⟩
  · unfold Lifecycle.Housed at h ⊢
    rw [hcount, hresource]
    exact h
  · rw [hresource]
    exact .refl _

namespace Lifecycle

/-- Whether a call came back with success. -/
def succeeds : Exit (Except Failure Unit) → Bool
  | .returned (.ok _) => true
  | _ => false

lemma resource_of_idle {l : Lifecycle F R} (h : l.Housed) (idle : l.count = 0) :
    l.resource = none := by
  rcases hr : l.resource with _ | r
  · rfl
  · have := h.mp (by simp [hr])
    omega

/-- What the recording factory answers comes from the factory, after its call is written down. -/
lemma create_recorded {f : Factory F R E} {s s' : F} {creation : Creation R}
    {trace : List (FactoryCall R ⊕ E)} (h : f.recorded.create s = (creation, s', trace)) :
    ∃ es : List E, trace = .inl (.create creation) :: es.map .inr := by
  simp only [Factory.recorded, Prod.mk.injEq] at h
  obtain ⟨rfl, -, rfl⟩ := h
  exact ⟨_, rfl⟩

lemma destroy_recorded {f : Factory F R E} {s s' : F} {resource : R} {panic : Option String}
    {trace : List (FactoryCall R ⊕ E)}
    (h : f.recorded.destroy s resource = (panic, s', trace)) :
    ∃ es : List E, trace = .inl (.destroy resource) :: es.map .inr := by
  simp only [Factory.recorded, Prod.mk.injEq] at h
  obtain ⟨-, -, rfl⟩ := h
  exact ⟨_, rfl⟩

lemma Acquired.careful {f : Factory F R E} {l : Lifecycle F R} (h : l.Housed)
    {turn : Turn (Lifecycle F R) (FactoryCall R ⊕ E) (Except Failure Unit)}
    (acquired : Acquired f.recorded l turn) :
    Careful l turn.state turn.trace (succeeds turn.exit) false := by
  cases acquired with
  | refused down => exact careful_of_eq h rfl rfl
  | joined up busy =>
    refine ⟨?_, rfl, by simp, by simp, .refl _⟩
    exact ⟨fun _ => Nat.succ_pos _, fun _ => h.mpr busy⟩
  | @made r _ _ up idle made =>
    obtain ⟨es, rfl⟩ := create_recorded made
    refine ⟨by simp [Housed], by simp [succeeds, idle], fun _ _ => idle, ?_, ?_⟩
    · simp [Factory.recorded]
    · rw [resource_of_idle h idle]
      simpa [Factory.recorded] using Succession.made r
  | failed up idle failed =>
    obtain ⟨es, rfl⟩ := create_recorded failed
    refine ⟨h, rfl, fun _ _ => idle, by simp, ?_⟩
    simpa using Succession.refl l.resource
  | panicked up idle panicked =>
    obtain ⟨es, rfl⟩ := create_recorded panicked
    refine ⟨h, rfl, fun _ _ => idle, by simp, ?_⟩
    simpa using Succession.refl l.resource

lemma Released.careful {f : Factory F R E} {l : Lifecycle F R} (h : l.Housed)
    {turn : Turn (Lifecycle F R) (FactoryCall R ⊕ E) (Except Failure Unit)}
    (released : Released f.recorded l turn) :
    Careful l turn.state turn.trace false (l.count ≠ 0) := by
  cases released with
  | unbalanced idle =>
    have hnothing : decide (l.count ≠ 0) = false := by simp [idle]
    rw [hnothing]
    exact careful_of_eq h rfl rfl
  | left busy =>
    refine ⟨?_, ?_, by simp, by simp, .refl _⟩
    · have hresource := h.mpr (by omega)
      exact ⟨fun _ => Nat.sub_pos_of_lt busy, fun _ => hresource⟩
    · have hne : l.count ≠ 0 := by omega
      simp [hne]
      omega
  | @destroyed r _ _ last present destroyed =>
    obtain ⟨es, rfl⟩ := destroy_recorded destroyed
    refine ⟨by simp [Housed], by simp [last], by simp [Factory.recorded], ?_, ?_⟩
    · intro _ _
      exact ⟨last, rfl⟩
    · rw [present]
      simpa [Factory.recorded] using Succession.destroyed r
  | @panicked r _ _ _ last present panicked =>
    obtain ⟨es, rfl⟩ := destroy_recorded panicked
    refine ⟨by simp [Housed], by simp [last], by simp, ?_, ?_⟩
    · intro _ _
      exact ⟨last, rfl⟩
    · rw [present]
      simpa using Succession.destroyed r

lemma finish_idle (f : Factory F R E) (l : Lifecycle F R) : Idle (l.finish f.recorded) := by
  intro call hmem
  unfold finish at hmem
  by_cases hidle : l.count = 0 <;> rcases hr : l.resource with _ | resource <;>
    simp_all [Factory.recorded]

end Lifecycle

lemma Idle.append {u v : List (FactoryCall R ⊕ E)} (hu : Idle u) (hv : Idle v) :
    Idle (u ++ v) := by
  intro call hmem
  rcases List.mem_append.mp hmem with h | h
  · exact hu call h
  · exact hv call h

namespace Shared

lemma letGo_idle (f : Factory F R E) (s : Shared F R) : Idle (s.letGo f.recorded).2 := by
  unfold letGo
  by_cases h : s.owners ≤ 1
  · rw [if_pos h]
    exact s.lifecycle.finish_idle f
  · rw [if_neg h]
    intro call hmem
    simp at hmem

lemma letGo_lifecycle {f : Factory F R E} {s s' : Shared F R} (h : (s.letGo f).1 = some s') :
    s'.lifecycle = s.lifecycle := by
  unfold letGo at h
  by_cases hlast : s.owners ≤ 1
  · simp [hlast] at h
  · rw [if_neg hlast] at h
    cases h
    rfl

/-- A guard that goes gives its registration back; all else that it does is to complain. -/
lemma depart_release (f : Factory F R E) (s : Shared F R) :
    (∃ more, Idle more ∧ (s.depart f.recorded).trace =
      (s.lifecycle.release f.recorded).trace ++ more) ∧
    ∀ s', (s.depart f.recorded).state = some s' →
      s'.lifecycle = (s.lifecycle.release f.recorded).state := by
  refine ⟨?_, ?_⟩
  · have hletGo := letGo_idle f { s with lifecycle := (s.lifecycle.release f.recorded).state }
    unfold depart
    rcases hexit : (s.lifecycle.release f.recorded).exit with (cause | _) | text
    · refine ⟨_, Idle.append ?_ hletGo, List.append_assoc ..⟩
      intro call hmem
      simp [hexit] at hmem
    · exact ⟨_, hletGo, by simp [hexit]⟩
    · exact ⟨_, hletGo, by simp [hexit]⟩
  · intro s' hs'
    exact letGo_lifecycle (s := { s with lifecycle := (s.lifecycle.release f.recorded).state }) hs'

end Shared

/-! ### A whole run -/

namespace Tenancy

/-- The call registers a dependent. -/
def Event.grants (e : Event F R E) : Bool :=
  match e.call with
  | .acquire | .join => Lifecycle.succeeds e.exit
  | _ => false

/-- The call gives a registration back. -/
def Event.frees (e : Event F R E) : Bool :=
  match e.call with
  | .release | .depart => e.before.count ≠ 0
  | _ => false

/-- Whether the call asks for a registration. -/
def Call.registers : Call → Bool
  | acquire | join => true
  | _ => false

lemma Event.grants_eq (e : Event F R E) :
    e.grants = (e.call.registers && Lifecycle.succeeds e.exit) := by
  unfold Event.grants
  rcases e.call <;> rfl

lemma Event.frees_of_registers {e : Event F R E} (h : e.call.registers) : e.frees = false := by
  obtain ⟨call, before, exit, trace, after⟩ := e
  cases call with
  | acquire => rfl
  | join => rfl
  | _ => simp [Call.registers] at h

/-- What a call makes of the lifecycle that it finds. -/
inductive Event.Leaves (f : Factory F R E) (e : Event F R (FactoryCall R ⊕ E))
    (l : Lifecycle F R) : Prop
  | registers (asks : e.call.registers)
      (exit : e.exit = (e.before.acquire f.recorded).exit)
      (trace : e.trace = (e.before.acquire f.recorded).trace)
      (state : l = (e.before.acquire f.recorded).state)
  /-- A guard may complain, and its owner be the last. -/
  | givesBack (call : e.call = .release ∨ e.call = .depart)
      (more : List (FactoryCall R ⊕ E)) (idle : Idle more)
      (trace : e.trace = (e.before.release f.recorded).trace ++ more)
      (state : l = (e.before.release f.recorded).state)
  | shutsDown (call : e.call = .shutdown) (trace : e.trace = []) (state : l = e.before.shutdown)
  | stays (call : e.call = .share ∨ e.call = .leave) (idle : Idle e.trace) (state : l = e.before)

lemma step_cases (f : Factory F R E) {t : Tenancy F R} {s : Shared F R}
    (present : t.shared = some s) (call : Call) :
    step f.recorded t call = (none, t) ∨
      ∃ e l', (step f.recorded t call).1 = some e ∧ e.call = call ∧ e.before = s.lifecycle ∧
        e.Leaves f l' ∧ e.after = (step f.recorded t call).2.lifecycle? ∧
        ∀ s', (step f.recorded t call).2.shared = some s' → s'.lifecycle = l' := by
  unfold step
  rw [present]
  cases call with
  | acquire =>
    refine .inr ⟨_, _, rfl, rfl, rfl, .registers rfl rfl rfl rfl, rfl, ?_⟩
    rintro s' ⟨⟩
    rfl
  | release =>
    refine .inr ⟨_, _, rfl, rfl, rfl, .givesBack (.inl rfl) [] Idle.nil ?_ rfl, rfl, ?_⟩
    · rw [List.append_nil]
    · rintro s' ⟨⟩
      rfl
  | join =>
    refine .inr ⟨_, _, rfl, rfl, rfl, .registers rfl rfl rfl rfl, rfl, ?_⟩
    rintro s' ⟨⟩
    rfl
  | depart =>
    by_cases hguards : t.guards = 0
    · exact .inl (by simp [perform, hguards])
    · obtain ⟨⟨more, hidle, htrace⟩, hstate⟩ := s.depart_release f
      simp only [perform, if_neg hguards]
      exact .inr ⟨_, _, rfl, rfl, rfl, .givesBack (.inr rfl) more hidle htrace rfl, rfl, hstate⟩
  | shutdown =>
    refine .inr ⟨_, _, rfl, rfl, rfl, .shutsDown rfl rfl rfl, rfl, ?_⟩
    rintro s' ⟨⟩
    rfl
  | share =>
    refine .inr ⟨_, _, rfl, rfl, rfl, .stays (.inl rfl) Idle.nil rfl, rfl, ?_⟩
    rintro s' ⟨⟩
    rfl
  | leave =>
    by_cases howners : s.owners ≤ t.guards
    · exact .inl (by simp [perform, howners])
    · simp only [perform, if_neg howners]
      exact .inr ⟨_, _, rfl, rfl, rfl, .stays (.inr rfl) (s.letGo_idle f) rfl, rfl,
        fun s' hs' => Shared.letGo_lifecycle hs'⟩

lemma Event.Leaves.careful {f : Factory F R E} {e : Event F R (FactoryCall R ⊕ E)}
    {l : Lifecycle F R} (h : e.Leaves f l) (housed : e.before.Housed) :
    Careful e.before l e.trace e.grants e.frees := by
  cases h with
  | registers asks exit trace state =>
    rw [e.grants_eq, asks, Bool.true_and, Event.frees_of_registers asks, exit, trace, state]
    exact (Lifecycle.acquired f.recorded e.before).careful housed
  | givesBack call more idle trace state =>
    have hgrants : e.grants = false := by rcases call with call | call <;> simp [Event.grants, call]
    have hfrees : e.frees = decide (e.before.count ≠ 0) := by
      rcases call with call | call <;> simp [Event.frees, call]
    rw [hgrants, hfrees, trace, state]
    exact ((Lifecycle.released f.recorded housed).careful housed).append idle
  | shutsDown call trace state =>
    rw [Event.grants, Event.frees, call, trace, state]
    exact careful_of_eq housed rfl rfl
  | stays call idle state =>
    have hcareful := (careful_of_eq (E := E) housed rfl rfl).append idle
    have hgrants : e.grants = false := by rcases call with call | call <;> simp [Event.grants, call]
    have hfrees : e.frees = false := by rcases call with call | call <;> simp [Event.frees, call]
    rw [hgrants, hfrees, state]
    exact hcareful

lemma step_careful (f : Factory F R E) {t : Tenancy F R} {s : Shared F R}
    (present : t.shared = some s) (h : s.lifecycle.Housed) (call : Call) :
    step f.recorded t call = (none, t) ∨
      ∃ e l', (step f.recorded t call).1 = some e ∧ e.before = s.lifecycle ∧
        Careful s.lifecycle l' e.trace e.grants e.frees ∧
        e.after = (step f.recorded t call).2.lifecycle? ∧
        ∀ s', (step f.recorded t call).2.shared = some s' → s'.lifecycle = l' := by
  rcases step_cases f present call with
    hnone | ⟨e, l', hsome, -, hbefore, hleaves, hafter, hl'⟩
  · exact .inl hnone
  · rw [← hbefore] at h
    exact .inr ⟨e, l', hsome, hbefore, hbefore ▸ hleaves.careful h, hafter, hl'⟩

/-- The factory is used only at the ends of a busy period. -/
def Event.Timely (e : Event F R (FactoryCall R ⊕ E)) : Prop :=
  (∀ outcome, .inl (.create outcome) ∈ e.trace → e.before.count = 0) ∧
    ∀ resource, .inl (.destroy resource) ∈ e.trace →
      e.before.count = 1 ∧ ∀ l ∈ e.after, l.count = 0

lemma timely_of_careful {e : Event F R (FactoryCall R ⊕ E)} {l : Lifecycle F R}
    {granted freed : Bool} (h : Careful e.before l e.trace granted freed)
    (after : ∀ l' ∈ e.after, l' = l) : e.Timely := by
  refine ⟨h.create, ?_⟩
  intro resource hmem
  obtain ⟨hone, hzero⟩ := h.destroy resource hmem
  refine ⟨hone, ?_⟩
  intro l' hl'
  rw [after l' hl']
  exact hzero

lemma countP_one {α : Type} (p : α → Bool) (a : α) : [a].countP p = (p a).toNat := by
  rw [List.countP_singleton]
  rcases p a <;> rfl

/-- A run as a whole is careful. The lifecycle `last` is what the run leaves, or what the last
owner left when it went. -/
lemma run_last (f : Factory F R E) {t : Tenancy F R} {s : Shared F R}
    (present : t.shared = some s) (h : s.lifecycle.Housed) (calls : List Call) :
    (∀ e ∈ Run.events (step f.recorded) t calls, e.Timely) ∧
      ∃ last : Lifecycle F R, last.Housed ∧
        Succession s.lifecycle.resource
          ((Run.events (step f.recorded) t calls).flatMap (deeds ·.trace)) last.resource ∧
        last.count + (Run.events (step f.recorded) t calls).countP Event.frees =
          s.lifecycle.count + (Run.events (step f.recorded) t calls).countP Event.grants ∧
        ∀ l ∈ (Run.final (step f.recorded) t calls).lifecycle?, l = last := by
  -- induction on the calls, from any lifecycle that has a resource just for its dependents
  induction calls generalizing t s with
  | nil =>
    refine ⟨by simp, s.lifecycle, h, .refl _, by simp, ?_⟩
    intro l hl
    simp only [Run.final_nil, lifecycle?, present, Option.map_some, Option.mem_some_iff] at hl
    exact hl.symm
  | cons call rest ih =>
    rw [Run.events_cons, Run.final_cons]
    rcases step_careful f present h call with hnone | ⟨e, l', hsome, hbefore, hcareful, hafter, hl'⟩
    · rw [hnone]
      exact ih present h
    · have htimely : e.Timely := by
        rw [← hbefore] at hcareful
        refine timely_of_careful hcareful ?_
        intro l hl
        rw [hafter] at hl
        obtain ⟨s', hs', rfl⟩ := Option.map_eq_some_iff.mp hl
        exact hl' s' hs'
      have hstep := hcareful.count
      rw [hsome]
      rcases hshared : (step f.recorded t call).2.shared with _ | s'
      · -- the last owner has gone, and what is left of the run is not made
        obtain ⟨hevents, hfinal⟩ := run_gone f.recorded hshared rest
        rw [hevents, hfinal]
        refine ⟨by simpa using htimely, l', hcareful.housed, by simpa using hcareful.succession,
          ?_, by simp [lifecycle?, hshared]⟩
        rw [Option.toList_some, List.append_nil, countP_one, countP_one]
        exact hstep
      · obtain rfl := hl' s' hshared
        obtain ⟨htimelies, last, hhoused, hsuccession, hcount, hlast⟩ := ih hshared hcareful.housed
        refine ⟨?_, last, hhoused, ?_, ?_, hlast⟩
        · intro e' he'
          rcases List.mem_append.mp he' with hmem | hmem
          · rw [Option.toList_some, List.mem_singleton] at hmem
            exact hmem ▸ htimely
          · exact htimelies e' hmem
        · simpa using hcareful.succession.trans hsuccession
        · rw [Option.toList_some, List.countP_append, List.countP_append, countP_one, countP_one]
          omega

lemma run_careful (f : Factory F R E) {t : Tenancy F R} {s : Shared F R}
    (present : t.shared = some s) (h : s.lifecycle.Housed) (calls : List Call) :
    (∀ e ∈ Run.events (step f.recorded) t calls, e.Timely) ∧
      ∃ last, Succession s.lifecycle.resource
          ((Run.events (step f.recorded) t calls).flatMap (deeds ·.trace)) last ∧
        ∀ l ∈ (Run.final (step f.recorded) t calls).lifecycle?, l.Housed ∧ l.resource = last ∧
          l.count + (Run.events (step f.recorded) t calls).countP Event.frees =
            s.lifecycle.count + (Run.events (step f.recorded) t calls).countP Event.grants := by
  obtain ⟨htimely, last, hhoused, hsuccession, hcount, hlast⟩ := run_last f present h calls
  refine ⟨htimely, last.resource, hsuccession, ?_⟩
  intro l hl
  rw [hlast l hl]
  exact ⟨hhoused, rfl, hcount⟩

/-- There is a handle left. -/
def Held (t : Tenancy F R) : Prop := ∃ s, t.shared = some s ∧ t.guards < s.owners

lemma held_new (factory : F) : (new factory : Tenancy F R).Held := ⟨_, rfl, Nat.one_pos⟩

lemma Held.step {f : Factory F R E} {t : Tenancy F R} (h : t.Held) {call : Call}
    (stays : call ≠ .leave) : (step f t call).2.Held := by
  obtain ⟨s, hs, howners⟩ := h
  unfold Tenancy.step
  rw [hs]
  cases call with
  | acquire => exact ⟨_, rfl, howners⟩
  | release => exact ⟨_, rfl, howners⟩
  | join =>
    refine ⟨_, rfl, ?_⟩
    rcases hexit : (s.lifecycle.acquire f).exit with (cause | _) | text <;>
      simp [perform, Shared.join, hexit, howners]
  | depart =>
    by_cases hguards : t.guards = 0
    · simp only [perform, if_pos hguards]
      exact ⟨s, hs, howners⟩
    · have hmore : ¬ s.owners ≤ 1 := by omega
      simp only [perform, if_neg hguards, Shared.depart, Shared.letGo, if_neg hmore]
      exact ⟨_, rfl, by simp only; omega⟩
  | shutdown => exact ⟨_, rfl, howners⟩
  | share => exact ⟨_, rfl, Nat.lt_succ_of_lt howners⟩
  | leave => exact absurd rfl stays

/-- **One resource for each busy period.** After any calls the count is what was granted less what
was given back, and the resource is there if it is not zero. Resources are made and destroyed in
turn, each one destroyed that was made before, and the present one is the one made last. The factory
is called for a first registration and for a last one. -/
theorem one_resource_per_busy_period (f : Factory F R E) (start : F) (calls : List Call) :
    let es := Run.events (step f.recorded) (new start) calls
    let t := Run.final (step f.recorded) (new start) calls
    (Run.events (step f) (new start) calls = es.map Event.forget ∧
        Run.final (step f) (new start) calls = t) ∧
      (.leave ∉ calls → t.lifecycle?.isSome) ∧
      (∀ e ∈ es, e.Timely) ∧
      ∃ (past : List R) (present : Option R),
        es.flatMap (deeds ·.trace) = (past.flatMap fun r => [.made r, .destroyed r]) ++
          present.toList.map .made ∧
        ∀ l ∈ t.lifecycle?, l.resource = present ∧ (l.resource.isSome ↔ 0 < l.count) ∧
          l.count + es.countP Event.frees = es.countP Event.grants := by
  intro es t
  have hhoused : Lifecycle.Housed ({ factory := start } : Lifecycle F R) := by
    simp [Lifecycle.Housed]
  obtain ⟨htimely, present, ⟨past, hdeeds⟩, hfinal⟩ :=
    run_careful f (t := new start) rfl hhoused calls
  refine ⟨run_recorded f (new start) calls, ?_, htimely, past, present, by simpa using hdeeds, ?_⟩
  · intro hstays
    have hheld : t.Held := (Run.keeps (Q := fun _ => True) (fun u call hmem hu =>
      ⟨trivial, hu.step (f := f.recorded) fun heq => hstays (heq ▸ hmem)⟩) (held_new start)).2
    obtain ⟨s, hs, -⟩ := hheld
    simp [lifecycle?, hs]
  · intro l hl
    obtain ⟨hl, hresource, hcount⟩ := hfinal l hl
    exact ⟨hresource, hl, by simpa using hcount⟩

/-- A creation fails, one is followed by a destruction that panics, one panics, and one stands. -/
theorem busy_periods_of_a_bad_factory :
    let start : Script := { outcomes := [.failure .unbalancedRelease, .ok, .panic],
                            destroyPanics := true }
    let calls : List Call :=
      [.acquire, .join, .acquire, .release, .depart, .release, .acquire, .acquire]
    let es := Run.events (step Script.factory.recorded) (new start) calls
    .leave ∉ calls ∧ es.flatMap (deeds ·.trace) = [.made 0, .destroyed 0, .made 1] ∧
      ∃ l ∈ (Run.final (step Script.factory.recorded) (new start) calls).lifecycle?,
        l.resource = some 1 ∧ l.count + es.countP Event.frees = es.countP Event.grants := by
  intro start calls es
  have hstays : .leave ∉ calls := by simp [calls]
  have hdeeds : es.flatMap (deeds ·.trace) = [.made 0, .destroyed 0, .made 1] := by
    decide +kernel
  obtain ⟨-, hpresent, -, past, present, -, hfinal⟩ :=
    one_resource_per_busy_period Script.factory start calls
  obtain ⟨l, hl⟩ := Option.isSome_iff_exists.mp (hpresent hstays)
  have hresource : (Run.final (step Script.factory.recorded) (new start) calls).lifecycle?.map
      (·.resource) = some (some 1) := by
    decide +kernel
  refine ⟨hstays, hdeeds, l, hl, ?_, (hfinal l hl).2.2⟩
  rw [hl] at hresource
  exact Option.some_inj.mp hresource

end Tenancy
end NullMiddleware
