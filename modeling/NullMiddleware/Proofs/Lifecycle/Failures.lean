import NullMiddleware.Proofs.Lifecycle.Shutdown

/-!
Calls that fail.

A registration is refused after a shutdown, and fails if the resource is needed and cannot be made.
A release is refused if nobody is registered. Such a call leaves the lifecycle as it was, so all
that follows is the same without it, if the factory answers the calls that are left as it did.
-/

namespace NullMiddleware

variable {F R E : Type}

/-! ### The calls of a factory -/

/-- The calls of the factory in a trace. -/
def factoryCalls (trace : List (FactoryCall R ⊕ E)) : List (FactoryCall R) :=
  trace.filterMap Sum.getLeft?

@[simp] lemma factoryCalls_nil : factoryCalls ([] : List (FactoryCall R ⊕ E)) = [] := rfl
@[simp] lemma factoryCalls_append (u v : List (FactoryCall R ⊕ E)) :
    factoryCalls (u ++ v) = factoryCalls u ++ factoryCalls v := List.filterMap_append ..
@[simp] lemma factoryCalls_inl (call : FactoryCall R) (rest : List (FactoryCall R ⊕ E)) :
    factoryCalls (.inl call :: rest) = call :: factoryCalls rest := rfl
@[simp] lemma factoryCalls_inr (e : E) (rest : List (FactoryCall R ⊕ E)) :
    factoryCalls (.inr e :: rest) = factoryCalls rest := rfl
@[simp] lemma factoryCalls_map_inr (es : List E) :
    factoryCalls (es.map Sum.inr : List (FactoryCall R ⊕ E)) = [] := by
  unfold factoryCalls
  rw [List.filterMap_map]
  exact List.filterMap_eq_nil_iff.mpr fun _ _ => rfl

/-! ### What registering and giving back have the factory do -/

/-- A registration that needs a resource comes out as the making of it does. A creation that fails
is reported as a failed allocation, in its own words or in those of its message. -/
inductive Creation.Reported : Creation R → Exit (Except Failure Unit) → Prop
  | made (resource : R) : Reported (.made resource) (.returned (.ok ()))
  | failed {cause : Failure} {what : String} (own : ∀ text, cause = .badAlloc text → what = text)
    (other : (∀ text, cause ≠ .badAlloc text) → what = cause.message) :
    Reported (.failed cause) (.returned (.error (.badAlloc what)))
  | panicked (text : String) : Reported (.panicked text) (.panicked text)

namespace Lifecycle

/-- What comes of asking for a registration. -/
structure Asked (l : Lifecycle F R) (exit : Exit (Except Failure Unit))
    (calls : List (FactoryCall R)) : Prop where
  refused : (∃ what, exit = .returned (.error (.invalidState what))) ↔ l.shutDown
  spared : l.shutDown → calls = []
  joined : l.shutDown = false → 0 < l.count → exit = .returned (.ok ()) ∧ calls = []
  needed : l.shutDown = false → l.count = 0 →
    ∃ creation, calls = [.create creation] ∧ creation.Reported exit
  status : l.shutDown = false → ∀ cause, exit = .returned (.error cause) → cause.status = .badAlloc

lemma reported_failed (cause : Failure) :
    (Creation.failed cause : Creation R).Reported
      (.returned (.error (allocationFailure cause))) := by
  cases cause with
  | badAlloc text =>
    refine .failed ?_ ?_
    · rintro _ ⟨⟩
      rfl
    · intro other
      exact absurd rfl (other text)
  | _ => exact .failed (by simp) fun _ => rfl

lemma asked (f : Factory F R E) (l : Lifecycle F R) :
    Asked l (l.acquire f.recorded).exit (factoryCalls (l.acquire f.recorded).trace) := by
  have hacquired := acquired f.recorded l
  generalize l.acquire f.recorded = turn at hacquired
  cases hacquired with
  | refused down =>
    exact ⟨by simp [down, Failure.contextShutDown], by simp, by simp [down], by simp [down],
      by simp [down]⟩
  | joined up busy =>
    exact ⟨by simp [up], by simp, by simp, fun _ idle => absurd idle busy.ne', by simp⟩
  | @made resource _ _ up idle made =>
    obtain ⟨es, rfl⟩ := create_recorded made
    refine ⟨by simp [up], by simp [up], by simp [idle], fun _ _ => ⟨_, ?_, .made resource⟩,
      by simp⟩
    simp
  | @failed cause _ _ up idle failed =>
    obtain ⟨es, rfl⟩ := create_recorded failed
    refine ⟨?_, by simp [up], by simp [idle], fun _ _ => ⟨_, ?_, reported_failed cause⟩, ?_⟩
    · cases cause <;> simp [up, allocationFailure]
    · simp
    · rintro - _ ⟨⟩
      cases cause <;> rfl
  | @panicked text _ _ up idle panicked =>
    obtain ⟨es, rfl⟩ := create_recorded panicked
    refine ⟨by simp [up], by simp [up], by simp [idle], fun _ _ => ⟨_, ?_, .panicked text⟩,
      by simp⟩
    simp

/-- What comes of giving a registration back. -/
structure Returned (l : Lifecycle F R) (exit : Exit (Except Failure Unit))
    (calls : List (FactoryCall R)) : Prop where
  refused : (∃ cause, exit = .returned (.error cause)) ↔ l.count = 0
  reason : ∀ cause, exit = .returned (.error cause) → cause = .unbalancedRelease
  spared : l.count = 0 → calls = []

lemma returned (f : Factory F R E) {l : Lifecycle F R} (h : l.Housed) :
    Returned l (l.release f.recorded).exit (factoryCalls (l.release f.recorded).trace) := by
  have hreleased := released f.recorded h
  generalize l.release f.recorded = turn at hreleased
  cases hreleased with
  | unbalanced idle => exact ⟨by simp [idle], by simp [eq_comm], by simp⟩
  | left busy =>
    have hne : l.count ≠ 0 := by omega
    exact ⟨by simp [hne], by simp, by simp⟩
  | destroyed last | panicked last => exact ⟨by simp [last], by simp, by simp [last]⟩

end Lifecycle

lemma Shared.depart_idle (f : Factory F R E) {s : Shared F R} (h : s.lifecycle.Housed)
    (idle : s.lifecycle.count = 0) :
    factoryCalls (s.depart f.recorded).trace = [] ∧
      ∀ s', (s.depart f.recorded).state = some s' → s'.lifecycle = s.lifecycle := by
  have hrelease : s.lifecycle.release f.recorded =
      ⟨.returned (.error .unbalancedRelease), s.lifecycle, []⟩ := by
    rw [Lifecycle.release, if_pos idle]
  have hresource := Lifecycle.resource_of_idle h idle
  refine ⟨?_, ?_⟩
  · by_cases howners : s.owners ≤ 1 <;>
      simp [depart, letGo, Lifecycle.finish, hrelease, hresource, howners, idle]
  · intro s' hs'
    rw [(s.depart_release f).2 s' hs', hrelease]

/-! ### The same answers again -/

/-- The factory that answers each call as `f` does in the next of some states. A factory that is not
asked on behalf of some calls is in other states later; what is to be the same is what it answers to
the calls that are left. -/
def Factory.recalling (f : Factory F R E) (last : F) : Factory (List F) R E where
  create states :=
    let (creation, _, trace) := f.create (states.headD last)
    (creation, states.tail, trace)
  destroy states resource :=
    let (panic, _, trace) := f.destroy (states.headD last) resource
    (panic, states.tail, trace)
  discard states resource :=
    let (_, trace) := f.discard (states.headD last) resource
    (states.tail, trace)
  say := f.say

/-- The state, once for each call of the factory in a trace. -/
def perCall (state : F) (trace : List (FactoryCall R ⊕ E)) : List F :=
  (factoryCalls trace).map fun _ => state

/-- The lifecycle, with its factory in another state. -/
def Lifecycle.withFactory {F' : Type} (l : Lifecycle F R) (factory : F') : Lifecycle F' R :=
  ⟨factory, l.count, l.shutDown, l.resource⟩

def Shared.withFactory {F' : Type} (s : Shared F R) (factory : F') : Shared F' R :=
  ⟨s.lifecycle.withFactory factory, s.owners⟩

def Tenancy.withFactory {F' : Type} (t : Tenancy F R) (factory : F') : Tenancy F' R :=
  ⟨t.shared.map (·.withFactory factory), t.guards⟩

namespace Lifecycle

lemma acquire_recalling (f : Factory F R E) (last : F) (l : Lifecycle F R) (rest : List F) :
    (l.withFactory (perCall l.factory (l.acquire f.recorded).trace ++ rest)).acquire
        (f.recalling last).recorded =
      ⟨(l.acquire f.recorded).exit, (l.acquire f.recorded).state.withFactory rest,
        (l.acquire f.recorded).trace⟩ := by
  unfold acquire
  by_cases hdown : l.shutDown
  · simp [withFactory, perCall, hdown]
  · by_cases hidle : l.count = 0
    · rcases hc : f.create l.factory with ⟨creation, factory, trace⟩
      cases creation <;>
        simp [withFactory, perCall, hdown, hidle, hc, Factory.recorded, Factory.recalling]
    · simp [withFactory, perCall, hdown, hidle]

lemma release_recalling (f : Factory F R E) (last : F) (l : Lifecycle F R) (rest : List F) :
    (l.withFactory (perCall l.factory (l.release f.recorded).trace ++ rest)).release
        (f.recalling last).recorded =
      ⟨(l.release f.recorded).exit, (l.release f.recorded).state.withFactory rest,
        (l.release f.recorded).trace⟩ := by
  unfold release
  by_cases hidle : l.count = 0
  · simp [withFactory, perCall, hidle]
  · rcases hr : l.resource with _ | resource
    · simp [withFactory, perCall, hidle, hr]
    · by_cases hmore : l.count - 1 = 0
      · rcases hd : f.destroy l.factory resource with ⟨panic, factory, trace⟩
        cases panic <;>
          simp [withFactory, perCall, hidle, hr, hmore, hd, Factory.recorded, Factory.recalling]
      · simp [withFactory, perCall, hidle, hr, hmore]

lemma finish_recalling (f : Factory F R E) (last : F) (l : Lifecycle F R) (rest : List F) :
    (l.withFactory (perCall l.factory (l.finish f.recorded) ++ rest)).finish
        (f.recalling last).recorded = l.finish f.recorded := by
  unfold finish
  by_cases hidle : l.count = 0 <;> rcases hr : l.resource with _ | resource <;>
    simp [withFactory, perCall, hidle, hr, Factory.recorded, Factory.recalling]

lemma withFactory_of_not_succeeds (f : Factory F R E) (l : Lifecycle F R)
    (h : succeeds (l.acquire f).exit = false) {F' : Type} (factory : F') :
    (l.acquire f).state.withFactory factory = l.withFactory factory := by
  have hacquired := acquired f l
  generalize l.acquire f = turn at *
  cases hacquired with
  | refused | failed | panicked => rfl
  | joined | made => simp [succeeds] at h

/-- Whether a call came back with a failure. -/
def refuses : Exit (Except Failure Unit) → Bool
  | .returned (.error _) => true
  | _ => false

lemma release_of_refuses (f : Factory F R E) {l : Lifecycle F R} (housed : l.Housed)
    (h : refuses (l.release f).exit) : (l.release f).state = l := by
  have hreleased := released f housed
  generalize l.release f = turn at *
  cases hreleased with
  | unbalanced => rfl
  | left | destroyed | panicked => simp [refuses] at h

/-- Where a release calls the factory, nothing is left for the last owner to discard. -/
lemma perCall_farewell (f : Factory F R E) {l : Lifecycle F R} (h : l.Housed) (owners : Nat) :
    perCall l.factory
        (Shared.letGo f.recorded { lifecycle := (l.release f.recorded).state, owners }).2 =
      perCall (l.release f.recorded).state.factory
        (Shared.letGo f.recorded { lifecycle := (l.release f.recorded).state, owners }).2 := by
  have hreleased := released f.recorded h
  generalize l.release f.recorded = turn at hreleased
  cases hreleased with
  | unbalanced idle => rfl
  | left busy => rfl
  | destroyed last | panicked last =>
    by_cases howners : owners ≤ 1 <;> simp [perCall, Shared.letGo, finish, howners]

end Lifecycle

namespace Shared

lemma letGo_recalling (f : Factory F R E) (last : F) (s : Shared F R) (rest : List F) :
    (s.withFactory (perCall s.lifecycle.factory (s.letGo f.recorded).2 ++ rest)).letGo
        (f.recalling last).recorded =
      ((s.letGo f.recorded).1.map (·.withFactory rest), (s.letGo f.recorded).2) := by
  unfold letGo
  by_cases hlast : s.owners ≤ 1
  · simp only [withFactory, if_pos hlast, Lifecycle.finish_recalling, Option.map_none]
  · simp [withFactory, hlast, perCall, Lifecycle.withFactory]

lemma depart_recalling (f : Factory F R E) (last : F) {s : Shared F R} (h : s.lifecycle.Housed)
    (rest : List F) :
    (s.withFactory (perCall s.lifecycle.factory (s.depart f.recorded).trace ++ rest)).depart
        (f.recalling last).recorded =
      ⟨(s.depart f.recorded).exit, (s.depart f.recorded).state.map (·.withFactory rest),
        (s.depart f.recorded).trace⟩ := by
  have hfarewell := Lifecycle.perCall_farewell f h s.owners
  have hletGo := letGo_recalling f last
    { s with lifecycle := (s.lifecycle.release f.recorded).state } rest
  have hperCall : perCall s.lifecycle.factory (s.depart f.recorded).trace =
      perCall s.lifecycle.factory (s.lifecycle.release f.recorded).trace ++
        perCall (s.lifecycle.release f.recorded).state.factory
          (letGo f.recorded { s with lifecycle := (s.lifecycle.release f.recorded).state }).2 := by
    rw [← hfarewell]
    unfold depart
    rcases hexit : (s.lifecycle.release f.recorded).exit with (cause | _) | text <;>
      simp [perCall, hexit]
  have hrelease := Lifecycle.release_recalling f last s.lifecycle
    (perCall (s.lifecycle.release f.recorded).state.factory
      (letGo f.recorded { s with lifecycle := (s.lifecycle.release f.recorded).state }).2 ++ rest)
  rw [hperCall, List.append_assoc]
  simp only [withFactory] at hletGo
  simp only [depart, withFactory, hrelease, hletGo]
  rcases hexit : (s.lifecycle.release f.recorded).exit with (cause | _) | text <;> rfl

end Shared

namespace Tenancy

/-- The event, whatever state the factory is in. -/
def Event.bare (e : Event F R E) : Event Unit R E :=
  ⟨e.call, e.before.withFactory (), e.exit, e.trace, e.after.map (·.withFactory ())⟩

/-- The states in which the call has the factory called. -/
def Event.moments (e : Event F R (FactoryCall R ⊕ E)) : List F :=
  perCall e.before.factory e.trace

lemma perform_recalling (f : Factory F R E) (last : F) {s : Shared F R} (h : s.lifecycle.Housed)
    (guards : Nat) (call : Call) (rest : List F) :
    perform (f.recalling last).recorded
        (s.withFactory (((perform f.recorded s guards call).elim [] fun turn =>
          perCall s.lifecycle.factory turn.trace) ++ rest)) guards call =
      (perform f.recorded s guards call).map fun turn =>
        ⟨turn.exit, turn.state.withFactory rest, turn.trace⟩ := by
  cases call with
  | acquire =>
    have hacquire := Lifecycle.acquire_recalling f last s.lifecycle rest
    simp [perform, Shared.withFactory, hacquire, Tenancy.withFactory]
  | join =>
    have hacquire := Lifecycle.acquire_recalling f last s.lifecycle rest
    simp [perform, Shared.join, Shared.withFactory, hacquire, Tenancy.withFactory]
  | release =>
    have hrelease := Lifecycle.release_recalling f last s.lifecycle rest
    simp [perform, Shared.withFactory, hrelease, Tenancy.withFactory]
  | depart =>
    have hdepart := Shared.depart_recalling f last h rest
    by_cases hguards : guards = 0
    · simp [perform, hguards]
    · simp [perform, hguards, hdepart, Tenancy.withFactory]
  | shutdown =>
    simp [perform, Shared.withFactory, Tenancy.withFactory, Lifecycle.withFactory,
      Lifecycle.shutdown, perCall]
  | share => simp [perform, Shared.withFactory, Tenancy.withFactory, perCall]
  | leave =>
    have hletGo := Shared.letGo_recalling f last s rest
    by_cases howners : s.owners ≤ guards
    · simp [perform, howners, Shared.withFactory]
    · simp only [Shared.withFactory] at hletGo
      simp [perform, howners, hletGo, Shared.withFactory, Tenancy.withFactory]

/-- The resource is there as long as somebody is registered, or the lifecycle is gone. -/
def Housed (t : Tenancy F R) : Prop := ∀ s, t.shared = some s → s.lifecycle.Housed

lemma Housed.step {f : Factory F R E} {t : Tenancy F R} (h : t.Housed) (call : Call) :
    (step f.recorded t call).2.Housed := by
  intro s' hs'
  rcases hs : t.shared with _ | s
  · have hgone : Tenancy.step f.recorded t call = (none, t) := by rw [Tenancy.step, hs]
    rw [hgone] at hs'
    exact h s' hs'
  · rcases step_careful f hs (h s hs) call with hnone | ⟨e, l', -, -, hcareful, -, hl'⟩
    · rw [hnone] at hs'
      exact h s' hs'
    · rw [hl' s' hs']
      exact hcareful.housed

lemma step_recalling (f : Factory F R E) (last : F) {t : Tenancy F R} (h : t.Housed) (call : Call)
    (rest : List F) :
    (step (f.recalling last).recorded
        (t.withFactory (((step f.recorded t call).1.elim [] Event.moments) ++ rest)) call).1.map
          Event.bare = (step f.recorded t call).1.map Event.bare ∧
      (step (f.recalling last).recorded
        (t.withFactory (((step f.recorded t call).1.elim [] Event.moments) ++ rest)) call).2 =
        (step f.recorded t call).2.withFactory rest := by
  rcases hs : t.shared with _ | s
  · simp [step, withFactory, hs]
  · have hperform := perform_recalling f last (h s hs) t.guards call rest
    simp only [step, hs]
    rcases hturn : perform f.recorded s t.guards call with _ | turn
    · simp only [hturn, Option.elim_none, Option.map_none, List.nil_append] at hperform ⊢
      simp [withFactory, hs, hperform]
    · simp only [hturn, Option.elim_some, Option.map_some] at hperform
      simp only [withFactory, hs, Option.elim_some, Option.map_some, Event.moments, hperform]
      refine ⟨?_, trivial⟩
      simp only [Event.bare, lifecycle?]
      rcases turn.state.shared with _ | s' <;> rfl

/-! ### Runs without the calls that fail -/

/-- The call is refused, or making the resource for it fails or panics. -/
def Event.fails (e : Event F R E) : Bool :=
  match e.call with
  | .acquire | .join => !Lifecycle.succeeds e.exit
  | .release => Lifecycle.refuses e.exit
  | _ => false

lemma step_call {f : Factory F R E} {t : Tenancy F R} {call : Call} {e : Event F R E}
    (he : (step f t call).1 = some e) : e.call = call := by
  rcases hs : t.shared with _ | s
  · simp [step, hs] at he
  · rcases hturn : perform f s t.guards call with _ | turn
    · simp [step, hs, hturn] at he
    · simp only [step, hs, hturn, Option.some.injEq] at he
      rw [← he]

lemma step_unmade {f : Factory F R E} {t : Tenancy F R} {call : Call}
    (hnone : (step f t call).1 = none) : (step f t call).2 = t := by
  rcases hs : t.shared with _ | s
  · simp [step, hs]
  · rcases hturn : perform f s t.guards call with _ | turn
    · simp [step, hs, hturn]
    · simp [step, hs, hturn] at hnone

lemma step_unregistered (f : Factory F R E) {t : Tenancy F R} {s : Shared F R}
    (present : t.shared = some s) {call : Call} (h : call.registers)
    (fails : Lifecycle.succeeds (s.lifecycle.acquire f).exit = false) :
    step f t call = (some ⟨call, s.lifecycle, (s.lifecycle.acquire f).exit,
        (s.lifecycle.acquire f).trace, some (s.lifecycle.acquire f).state⟩,
      { t with shared := some { s with lifecycle := (s.lifecycle.acquire f).state } }) := by
  cases call with
  | acquire => simp [step, present, perform, lifecycle?]
  | join =>
    rcases hexit : (s.lifecycle.acquire f).exit with (cause | _) | text
    · simp [step, present, perform, lifecycle?, Shared.join, hexit]
    · simp [hexit, Lifecycle.succeeds] at fails
    · simp [step, present, perform, lifecycle?, Shared.join, hexit]
  | _ => simp [Call.registers] at h

lemma Event.fails_cases {e : Event F R E} (h : e.fails) :
    e.call.registers ∧ Lifecycle.succeeds e.exit = false ∨
      e.call = .release ∧ Lifecycle.refuses e.exit := by
  obtain ⟨call, before, exit, trace, after⟩ := e
  cases call with
  | acquire | join => exact .inl ⟨rfl, by simpa [fails] using h⟩
  | release => exact .inr ⟨rfl, h⟩
  | _ => simp [fails] at h

/-- A call that fails leaves all as it was, up to what the factory makes of being asked. -/
lemma withFactory_of_fails (f : Factory F R E) {t : Tenancy F R} (h : t.Housed) {call : Call}
    {e : Event F R (FactoryCall R ⊕ E)} (he : (step f.recorded t call).1 = some e)
    (fails : e.fails) {F' : Type} (factory : F') :
    (step f.recorded t call).2.withFactory factory = t.withFactory factory ∧
      e.after.map (·.withFactory ()) = some (e.before.withFactory ()) := by
  have hcall := step_call he
  rcases hs : t.shared with _ | s
  · simp [step, hs] at he
  · rcases Event.fails_cases fails with ⟨hregisters, hfails⟩ | ⟨hrelease, hrefuses⟩
    · rw [hcall] at hregisters
      rw [(step_registers f.recorded hs hregisters).1] at he
      cases he
      have hsame : ∀ {G : Type} (factory : G),
          (s.lifecycle.acquire f.recorded).state.withFactory factory =
            s.lifecycle.withFactory factory :=
        Lifecycle.withFactory_of_not_succeeds f.recorded s.lifecycle hfails
      rw [step_unregistered f.recorded hs hregisters hfails]
      simp [withFactory, hs, Shared.withFactory, hsame]
    · obtain rfl := hcall.symm.trans hrelease
      simp only [step, hs, perform, Option.some.injEq] at he ⊢
      subst he
      have hsame := Lifecycle.release_of_refuses f.recorded (h s hs) hrefuses
      simp [withFactory, hs, lifecycle?, hsame]

/-- What a call comes to, and what is left if it fails. -/
structure Event.Answered (e : Event F R (FactoryCall R ⊕ E)) : Prop where
  asked : e.call.registers → e.before.Asked e.exit (factoryCalls e.trace)
  returned : e.call = .release → e.before.Returned e.exit (factoryCalls e.trace)
  /-- A guard that finds nobody registered leaves the lifecycle as it was, too. -/
  robbed : e.call = .depart → e.before.count = 0 →
    factoryCalls e.trace = [] ∧ ∀ l ∈ e.after, l = e.before
  failed : e.fails → e.after.map (·.withFactory ()) = some (e.before.withFactory ())

lemma step_answered (f : Factory F R E) {t : Tenancy F R} (h : t.Housed) (call : Call) :
    ∀ e ∈ (step f.recorded t call).1, e.Answered := by
  intro e he
  have hcall := step_call he
  have hfailed := fun hfails => (withFactory_of_fails f h he hfails ()).2
  rcases hs : t.shared with _ | s
  · simp [step, hs] at he
  · refine ⟨?_, ?_, ?_, hfailed⟩
    · intro hregisters
      rw [(step_registers f.recorded hs (hcall ▸ hregisters)).1] at he
      cases he
      exact Lifecycle.asked f s.lifecycle
    · intro hrelease
      obtain rfl := hcall.symm.trans hrelease
      simp only [step, hs, perform, Option.mem_some_iff] at he
      subst he
      exact Lifecycle.returned f (h s hs)
    · intro hdepart hidle
      obtain rfl := hcall.symm.trans hdepart
      by_cases hguards : t.guards = 0
      · simp [step, hs, perform, hguards] at he
      · simp only [step, hs, perform, if_neg hguards, Option.mem_some_iff] at he
        subst he
        obtain ⟨hcalls, hsame⟩ := s.depart_idle f (h s hs) hidle
        refine ⟨hcalls, ?_⟩
        intro l hl
        obtain ⟨s', hs', rfl⟩ := Option.map_eq_some_iff.mp hl
        exact hsame s' hs'

/-- The run is the same without some or all of the calls that fail. -/
lemma run_recalling (f : Factory F R E) (last : F)
    {keep : Event F R (FactoryCall R ⊕ E) → Bool} (fails : ∀ e, keep e = false → e.fails)
    {t : Tenancy F R} (h : t.Housed) (calls : List Call) :
    let kept := (Run.events (step f.recorded) t calls).filter keep
    let origin := t.withFactory (kept.flatMap Event.moments)
    (Run.events (step (f.recalling last).recorded) origin (kept.map (·.call))).map Event.bare =
        kept.map Event.bare ∧
      Run.final (step (f.recalling last).recorded) origin (kept.map (·.call)) =
        (Run.final (step f.recorded) t calls).withFactory [] := by
  induction calls generalizing t with
  | nil => exact ⟨rfl, rfl⟩
  | cons call rest ih =>
    obtain ⟨hevents, hfinal⟩ := ih (h.step (f := f) call)
    simp only [Run.events_cons, Run.final_cons]
    generalize hlater : (Run.events (step f.recorded) (step f.recorded t call).2 rest).filter keep =
      later at hevents hfinal
    rcases ho : (step f.recorded t call).1 with _ | e
    · rw [step_unmade ho] at hevents hfinal hlater ⊢
      rw [Option.toList_none, List.nil_append, hlater]
      exact ⟨hevents, hfinal⟩
    · rw [Option.toList_some, List.singleton_append]
      rcases hkeep : keep e
      · -- nothing is asked in the second run, so all the answers are for the calls after this one
        rw [List.filter_cons_of_neg (by simp [hkeep]), hlater]
        rw [(withFactory_of_fails f h ho (fails e hkeep) _).1] at hevents hfinal
        exact ⟨hevents, hfinal⟩
      · -- the call takes its own answers off the list, and leaves those of the later calls
        obtain ⟨hevent, hnext⟩ := step_recalling f last h call (later.flatMap Event.moments)
        rw [ho, Option.elim_some] at hevent hnext
        rw [List.filter_cons_of_pos hkeep, hlater, List.flatMap_cons, List.map_cons,
          Run.events_cons, Run.final_cons, step_call ho, hnext, List.map_append, hevents]
        refine ⟨?_, hfinal⟩
        obtain ⟨e', he', hbare⟩ := Option.map_eq_some_iff.mp hevent
        rw [he', Option.toList_some, List.map_singleton, hbare]
        rfl

/-- **Calls that fail are invisible.** A registration is refused if and only if the lifecycle is
shut down, and then nothing is made. Otherwise the first one has a resource made, once, and fails if
that fails; all others succeed. A release is refused if and only if nobody is registered. A call
that fails, or for which the making panics, leaves the count, the shutdown and the resource as they
were; so all that follows is the same if some or all of these calls are left out, and with them what
the factory answered to them. -/
theorem failures_are_invisible (f : Factory F R E) (start : F) (calls : List Call) :
    let es := Run.events (step f.recorded) (new start) calls
    let t := Run.final (step f.recorded) (new start) calls
    (Run.events (step f) (new start) calls = es.map Event.forget ∧
        Run.final (step f) (new start) calls = t) ∧
      (∀ e ∈ es, e.Answered) ∧
      ∀ pick : Event F R (FactoryCall R ⊕ E) → Bool,
        let kept := es.filter fun e => !e.fails || pick e
        let again := (f.recalling start).recorded
        let origin := new (kept.flatMap Event.moments)
        (Run.events (step again) origin (kept.map (·.call))).map Event.bare =
            kept.map Event.bare ∧
          Run.final (step again) origin (kept.map (·.call)) = t.withFactory [] := by
  intro es t
  have hstart : (new start : Tenancy F R).Housed := by
    rintro s ⟨⟩
    simp [Lifecycle.Housed]
  refine ⟨run_recorded f (new start) calls, ?_, ?_⟩
  · have hkept : ∀ u : Tenancy F R, ∀ call ∈ calls, u.Housed →
        (∀ e ∈ (step f.recorded u call).1, e.Answered) ∧ (step f.recorded u call).2.Housed :=
      fun u call _ hu => ⟨step_answered f hu call, hu.step call⟩
    exact (Run.keeps_events hkept hstart).1
  · intro pick
    refine run_recalling f start ?_ hstart calls
    intro e hleft
    simp only [Bool.or_eq_false_iff, Bool.not_eq_false'] at hleft
    exact hleft.1

/-- A release finds nobody, one creation fails and one panics, and a guard comes after the shutdown.
Without these four calls, and with a script that says nothing of their creations, the rest of the
run is the same. -/
theorem failures_between_busy_periods :
    let start : Script := { outcomes := [.failure (.unsupported "sharing"), .ok, .panic] }
    let calls : List Call :=
      [.release, .acquire, .acquire, .release, .join, .acquire, .shutdown, .join]
    let es := Run.events (step Script.factory.recorded) (new start) calls
    let kept := es.filter fun e => !e.fails || false
    let again := (Script.factory.recalling start).recorded
    let left : List Call := [.acquire, .release, .acquire, .shutdown]
    kept.map (·.call) = left ∧
      (∃ e ∈ es, e.exit = .returned (.error (.badAlloc "sharing not implemented")) ∧
        e.after.map (·.withFactory ()) = some (e.before.withFactory ())) ∧
      (Run.events (step again) (new (kept.flatMap Event.moments)) left).map Event.bare =
        (Run.events (step Script.factory.recorded) (new {}) left).map Event.bare := by
  intro start calls es kept again left
  have hleft : kept.map (·.call) = left := by rfl
  obtain ⟨-, hanswered, hkept⟩ := failures_are_invisible Script.factory start calls
  have hsecond : (es[1]?).map (fun e => (e.exit, e.fails)) =
      some (.returned (.error (.badAlloc "sharing not implemented")), true) := by rfl
  obtain ⟨e, he, hevent⟩ := Option.map_eq_some_iff.mp hsecond
  obtain ⟨hexit, hfails⟩ := Prod.mk.inj hevent
  have hmem := List.mem_of_getElem? he
  refine ⟨hleft, ⟨e, hmem, hexit, (hanswered e hmem).failed hfails⟩, ?_⟩
  have hagain := (hkept fun _ => false).1
  rw [hleft] at hagain
  rw [hagain]
  rfl

end Tenancy
end NullMiddleware
