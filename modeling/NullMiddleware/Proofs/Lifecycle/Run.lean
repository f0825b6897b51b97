import NullMiddleware.Lifecycle
import NullMiddleware.Proofs.Run

/-!
Lifecycles in the hands of their owners.

Handles and guards own a lifecycle. Through any of them, on any thread, calls are made, and the
lock of the lifecycle puts these into one order. The calls of the factory are read off the trace
of a factory that writes them there.
-/

namespace NullMiddleware

variable {F R E : Type}

/-! ### The calls of a factory -/

inductive FactoryCall (R : Type)
  | create (outcome : Creation R)
  | destroy (resource : R)
  /-- The resource goes away without being destroyed. -/
  | discard (resource : R)

/-- The factory that does the same, and writes each of its calls into the trace. -/
def Factory.recorded (f : Factory F R E) : Factory F R (FactoryCall R ⊕ E) where
  create s :=
    let (creation, s, trace) := f.create s
    (creation, s, .inl (.create creation) :: trace.map .inr)
  destroy s resource :=
    let (panic, s, trace) := f.destroy s resource
    (panic, s, .inl (.destroy resource) :: trace.map .inr)
  discard s resource :=
    let (s, trace) := f.discard s resource
    (s, .inl (.discard resource) :: trace.map .inr)
  say line := .inr (f.say line)

@[simp] lemma Factory.recorded_say (f : Factory F R E) (line : LogLine) :
    f.recorded.say line = .inr (f.say line) := rfl

/-- The trace without the calls of the factory. -/
def forget (trace : List (FactoryCall R ⊕ E)) : List E := trace.filterMap Sum.getRight?

@[simp] lemma forget_nil : forget ([] : List (FactoryCall R ⊕ E)) = [] := rfl
@[simp] lemma forget_append (u v : List (FactoryCall R ⊕ E)) :
    forget (u ++ v) = forget u ++ forget v := List.filterMap_append ..
@[simp] lemma forget_inl (call : FactoryCall R) (rest : List (FactoryCall R ⊕ E)) :
    forget (.inl call :: rest) = forget rest := rfl
@[simp] lemma forget_inr (e : E) (rest : List (FactoryCall R ⊕ E)) :
    forget (.inr e :: rest) = e :: forget rest := rfl
@[simp] lemma forget_map_inr (es : List E) :
    forget (es.map Sum.inr : List (FactoryCall R ⊕ E)) = es := by
  induction es with
  | nil => rfl
  | cons e rest ih => rw [List.map_cons, forget_inr, ih]

/-- `g` does what `f` does. Of the entries that it writes, `keep` gives those of `f`. -/
structure Factory.Extends {E' : Type} (g : Factory F R E') (f : Factory F R E)
    (keep : E' → Option E) : Prop where
  create : ∀ s, f.create s =
    ((g.create s).1, (g.create s).2.1, (g.create s).2.2.filterMap keep)
  destroy : ∀ s resource, f.destroy s resource =
    ((g.destroy s resource).1, (g.destroy s resource).2.1,
      (g.destroy s resource).2.2.filterMap keep)
  discard : ∀ s resource, f.discard s resource =
    ((g.discard s resource).1, (g.discard s resource).2.filterMap keep)
  say : ∀ line, keep (g.say line) = some (f.say line)

lemma Factory.Extends.trans {E₁ E₂ : Type} {f : Factory F R E} {g : Factory F R E₁}
    {k : Factory F R E₂} {keep : E₁ → Option E} {keep' : E₂ → Option E₁}
    (h : g.Extends f keep) (h' : k.Extends g keep') :
    k.Extends f fun entry => (keep' entry).bind keep where
  create s := by simp only [h.create, h'.create, List.filterMap_filterMap]
  destroy s resource := by simp only [h.destroy, h'.destroy, List.filterMap_filterMap]
  discard s resource := by simp only [h.discard, h'.discard, List.filterMap_filterMap]
  say line := by rw [h'.say, Option.bind_some, h.say]

lemma Factory.recorded_extends (f : Factory F R E) : f.recorded.Extends f Sum.getRight? where
  create s := by
    change _ = (_, _, forget (.inl _ :: (f.create s).2.2.map .inr))
    rw [forget_inl, forget_map_inr]
    rfl
  destroy s resource := by
    change _ = (_, _, forget (.inl _ :: (f.destroy s resource).2.2.map .inr))
    rw [forget_inl, forget_map_inr]
    rfl
  discard s resource := by
    change _ = (_, forget (.inl _ :: (f.discard s resource).2.map .inr))
    rw [forget_inl, forget_map_inr]
    rfl
  say _ := rfl

/-- The factory that does the same, with the lines of the lifecycle set apart from its own
entries. -/
def Factory.apart (f : Factory F R E) : Factory F R (LogLine ⊕ E) where
  create s :=
    let (creation, s, trace) := f.create s
    (creation, s, trace.map .inr)
  destroy s resource :=
    let (panic, s, trace) := f.destroy s resource
    (panic, s, trace.map .inr)
  discard s resource :=
    let (s, trace) := f.discard s resource
    (s, trace.map .inr)
  say := .inl

lemma Factory.apart_extends (f : Factory F R E) :
    f.apart.Extends f fun entry => some (entry.elim f.say id) where
  create s := by simp [Factory.apart, List.filterMap_map, Function.comp_def]
  destroy s resource := by simp [Factory.apart, List.filterMap_map, Function.comp_def]
  discard s resource := by simp [Factory.apart, List.filterMap_map, Function.comp_def]
  say _ := rfl

/-- The factory that shows all: its calls, the lines of the lifecycle, and its own entries. -/
def Factory.observed (f : Factory F R E) : Factory F R (FactoryCall R ⊕ LogLine ⊕ E) :=
  f.apart.recorded

/-- What of all this the factory itself writes. -/
def unobserved (f : Factory F R E) (entry : FactoryCall R ⊕ LogLine ⊕ E) : Option E :=
  entry.getRight?.bind fun entry => some (entry.elim f.say id)

lemma Factory.observed_extends (f : Factory F R E) : f.observed.Extends f (unobserved f) :=
  f.apart_extends.trans f.apart.recorded_extends

/-! ### What registering and giving back can come to -/

namespace Lifecycle

/-- The resource is there as long as somebody is registered. -/
def Housed (l : Lifecycle F R) : Prop := l.resource.isSome ↔ 0 < l.count

inductive Acquired (f : Factory F R E) (l : Lifecycle F R) :
    Turn (Lifecycle F R) E (Except Failure Unit) → Prop
  | refused (down : l.shutDown) : Acquired f l ⟨.returned (.error .contextShutDown), l, []⟩
  | joined (up : l.shutDown = false) (busy : 0 < l.count) :
    Acquired f l ⟨.returned (.ok ()), { l with count := l.count + 1 }, []⟩
  | made {resource : R} {factory : F} {trace : List E} (up : l.shutDown = false)
    (idle : l.count = 0) (made : f.create l.factory = (.made resource, factory, trace)) :
    Acquired f l ⟨.returned (.ok ()),
      { l with factory, count := 1, resource := some resource }, trace ++ [f.say .resourceCreated]⟩
  | failed {cause : Failure} {factory : F} {trace : List E} (up : l.shutDown = false)
    (idle : l.count = 0) (failed : f.create l.factory = (.failed cause, factory, trace)) :
    Acquired f l ⟨.returned (.error (allocationFailure cause)), { l with factory }, trace⟩
  | panicked {text : String} {factory : F} {trace : List E} (up : l.shutDown = false)
    (idle : l.count = 0) (panicked : f.create l.factory = (.panicked text, factory, trace)) :
    Acquired f l ⟨.panicked text, { l with factory }, trace⟩

lemma acquired (f : Factory F R E) (l : Lifecycle F R) : Acquired f l (l.acquire f) := by
  unfold acquire
  by_cases hdown : l.shutDown
  · rw [if_pos hdown]
    exact .refused hdown
  · have hup : l.shutDown = false := by simpa using hdown
    rw [if_neg hdown]
    by_cases hidle : l.count = 0
    · rw [if_pos hidle]
      rcases hc : f.create l.factory with ⟨creation, factory, trace⟩
      cases creation with
      | made resource => exact .made hup hidle hc
      | failed cause => exact .failed hup hidle hc
      | panicked text => exact .panicked hup hidle hc
    · rw [if_neg hidle]
      exact .joined hup (by omega)

inductive Released (f : Factory F R E) (l : Lifecycle F R) :
    Turn (Lifecycle F R) E (Except Failure Unit) → Prop
  | unbalanced (idle : l.count = 0) :
    Released f l ⟨.returned (.error .unbalancedRelease), l, []⟩
  | left (busy : 1 < l.count) :
    Released f l ⟨.returned (.ok ()), { l with count := l.count - 1 }, []⟩
  | destroyed {resource : R} {factory : F} {trace : List E} (last : l.count = 1)
    (present : l.resource = some resource)
    (destroyed : f.destroy l.factory resource = (none, factory, trace)) :
    Released f l ⟨.returned (.ok ()), { l with factory, count := 0, resource := none },
      trace ++ [f.say .resourceDestroyed]⟩
  | panicked {resource : R} {factory : F} {trace : List E} {text : String} (last : l.count = 1)
    (present : l.resource = some resource)
    (panicked : f.destroy l.factory resource = (some text, factory, trace)) :
    Released f l ⟨.panicked text, { l with factory, count := 0, resource := none }, trace⟩

lemma released (f : Factory F R E) {l : Lifecycle F R} (h : l.Housed) :
    Released f l (l.release f) := by
  unfold release
  by_cases hidle : l.count = 0
  · rw [if_pos hidle]
    exact .unbalanced hidle
  · rw [if_neg hidle]
    obtain ⟨resource, hr⟩ := Option.isSome_iff_exists.mp (h.mpr (by omega))
    by_cases hlast : l.count = 1
    · have hzero : l.count - 1 = 0 := by omega
      rcases hd : f.destroy l.factory resource with ⟨panic, factory, trace⟩
      cases panic with
      | some text => simpa [hr, hzero, hd] using Released.panicked hlast hr hd
      | none => simpa [hr, hzero, hd] using Released.destroyed hlast hr hd
    · have hmore : ¬ l.count - 1 = 0 := by omega
      simpa [hr, hmore] using Released.left (f := f) (l := l) (by omega)

/-! ### Factories that write more -/

variable {E' : Type} {g : Factory F R E'} {f : Factory F R E} {keep : E' → Option E}

lemma acquire_extends (h : g.Extends f keep) (l : Lifecycle F R) :
    l.acquire f = ⟨(l.acquire g).exit, (l.acquire g).state,
      (l.acquire g).trace.filterMap keep⟩ := by
  unfold acquire
  by_cases hdown : l.shutDown
  · simp [hdown]
  · by_cases hidle : l.count = 0
    · have hf := h.create l.factory
      rcases hc : g.create l.factory with ⟨creation, factory, trace⟩
      rw [hc] at hf
      cases creation <;> simp [hdown, hidle, hf, h.say]
    · simp [hdown, hidle]

lemma release_extends (h : g.Extends f keep) (l : Lifecycle F R) :
    l.release f = ⟨(l.release g).exit, (l.release g).state,
      (l.release g).trace.filterMap keep⟩ := by
  unfold release
  by_cases hidle : l.count = 0
  · simp [hidle]
  · rcases hr : l.resource with _ | resource
    · simp [hidle]
    · by_cases hmore : l.count - 1 = 0
      · have hf := h.destroy l.factory resource
        rcases hd : g.destroy l.factory resource with ⟨panic, factory, trace⟩
        rw [hd] at hf
        cases panic <;> simp [hidle, hmore, hf, hd, h.say]
      · simp [hidle, hmore]

lemma finish_extends (h : g.Extends f keep) (l : Lifecycle F R) :
    l.finish f = (l.finish g).filterMap keep := by
  unfold finish
  by_cases hidle : l.count = 0 <;> rcases l.resource with _ | resource <;>
    simp [hidle, h.say, h.discard]

end Lifecycle

/-! ### Owners and their calls -/

def Exit.ofUnit : Exit Unit → Exit (Except Failure Unit)
  | .returned _ => .returned (.ok ())
  | .panicked text => .panicked text

/-- A lifecycle, if it has an owner left, and how many of its owners are guards. -/
structure Tenancy (F R : Type) where
  shared : Option (Shared F R)
  guards : Nat := 0

namespace Tenancy

/-- A new lifecycle, owned by one handle. -/
def new (factory : F) : Tenancy F R := { shared := some { lifecycle := { factory } } }

inductive Call
  | acquire
  | release
  /-- Registers a dependent that holds a guard. -/
  | join
  /-- A guard goes. -/
  | depart
  | shutdown
  /-- A handle is copied. -/
  | share
  /-- A handle goes. -/
  | leave

def lifecycle? (t : Tenancy F R) : Option (Lifecycle F R) := t.shared.map (·.lifecycle)

/-- What comes of a call, if somebody is there to make it: a guard or a handle can only go if
there is one. -/
def perform (f : Factory F R E) (s : Shared F R) (guards : Nat) :
    Call → Option (Turn (Tenancy F R) E (Except Failure Unit))
  | .acquire =>
    let turn := s.lifecycle.acquire f
    some ⟨turn.exit, { shared := some { s with lifecycle := turn.state }, guards }, turn.trace⟩
  | .release =>
    let turn := s.lifecycle.release f
    some ⟨turn.exit, { shared := some { s with lifecycle := turn.state }, guards }, turn.trace⟩
  | .join =>
    let turn := s.join f
    let guards := match turn.exit with
      | .returned (.ok _) => guards + 1
      | _ => guards
    some ⟨turn.exit, { shared := some turn.state, guards }, turn.trace⟩
  | .depart =>
    if guards = 0 then none
    else
      let turn := s.depart f
      some ⟨turn.exit.ofUnit, { shared := turn.state, guards := guards - 1 }, turn.trace⟩
  | .shutdown =>
    some ⟨.returned (.ok ()),
      { shared := some { s with lifecycle := s.lifecycle.shutdown }, guards }, []⟩
  | .share =>
    some ⟨.returned (.ok ()), { shared := some { s with owners := s.owners + 1 }, guards }, []⟩
  | .leave =>
    if s.owners ≤ guards then none
    else
      let (shared, trace) := s.letGo f
      some ⟨.returned (.ok ()), { shared, guards }, trace⟩

/-- A call that was made. -/
structure Event (F R E : Type) where
  call : Call
  before : Lifecycle F R
  exit : Exit (Except Failure Unit)
  trace : List E
  /-- The lifecycle afterwards, unless its last owner has gone. -/
  after : Option (Lifecycle F R)

/-- Makes a call, if it can be made. All calls go through an owner. -/
def step (f : Factory F R E) (t : Tenancy F R) (call : Call) :
    Option (Event F R E) × Tenancy F R :=
  match t.shared with
  | none => (none, t)
  | some s =>
    match perform f s t.guards call with
    | none => (none, t)
    | some turn =>
      (some ⟨call, s.lifecycle, turn.exit, turn.trace, turn.state.lifecycle?⟩, turn.state)

lemma run_gone (f : Factory F R E) {t : Tenancy F R} (gone : t.shared = none)
    (calls : List Call) : Run.events (step f) t calls = [] ∧ Run.final (step f) t calls = t := by
  induction calls with
  | nil => exact ⟨rfl, rfl⟩
  | cons call rest ih =>
    have hstep : step f t call = (none, t) := by rw [step, gone]
    rw [Run.events_cons, Run.final_cons, hstep]
    exact ih

/-! ### Factories that write more -/

/-- The event with some of the entries that it left in the trace, and those as others. -/
def Event.keep {E' : Type} (keep : E' → Option E) (e : Event F R E') : Event F R E :=
  { e with trace := e.trace.filterMap keep }

/-- The event without the calls of the factory. -/
def Event.forget (e : Event F R (FactoryCall R ⊕ E)) : Event F R E :=
  { e with trace := NullMiddleware.forget e.trace }

section

variable {E' : Type} {g : Factory F R E'} {f : Factory F R E} {keep : E' → Option E}

lemma letGo_extends (h : g.Extends f keep) (s : Shared F R) :
    s.letGo f = ((s.letGo g).1, (s.letGo g).2.filterMap keep) := by
  unfold Shared.letGo
  by_cases hlast : s.owners ≤ 1
  · rw [if_pos hlast, if_pos hlast, Lifecycle.finish_extends h]
  · rw [if_neg hlast, if_neg hlast, List.filterMap_nil]

lemma depart_extends (h : g.Extends f keep) (s : Shared F R) :
    s.depart f = ⟨(s.depart g).exit, (s.depart g).state, (s.depart g).trace.filterMap keep⟩ := by
  unfold Shared.depart
  rw [Lifecycle.release_extends h s.lifecycle]
  rcases hexit : (s.lifecycle.release g).exit with (cause | _) | text <;>
    simp [letGo_extends h, hexit, h.say]

lemma perform_extends (h : g.Extends f keep) (s : Shared F R) (guards : Nat) (call : Call) :
    perform f s guards call = (perform g s guards call).map fun turn =>
      ⟨turn.exit, turn.state, turn.trace.filterMap keep⟩ := by
  cases call with
  | acquire => simp [perform, Lifecycle.acquire_extends h]
  | release => simp [perform, Lifecycle.release_extends h]
  | join => simp [perform, Shared.join, Lifecycle.acquire_extends h]
  | depart => by_cases hguards : guards = 0 <;> simp [perform, hguards, depart_extends h]
  | shutdown => rfl
  | share => rfl
  | leave => by_cases howners : s.owners ≤ guards <;> simp [perform, howners, letGo_extends h]

lemma step_extends (h : g.Extends f keep) (t : Tenancy F R) (call : Call) :
    step f t call = ((step g t call).1.map (Event.keep keep), (step g t call).2) := by
  rcases hs : t.shared with _ | s
  · simp [step, hs]
  · rw [step, step, hs]
    simp only [perform_extends h]
    rcases perform g s t.guards call with _ | turn <;> rfl

/-- A factory that writes more is not seen to do more. -/
lemma run_extends (h : g.Extends f keep) (t : Tenancy F R) (calls : List Call) :
    Run.events (step f) t calls = (Run.events (step g) t calls).map (Event.keep keep) ∧
      Run.final (step f) t calls = Run.final (step g) t calls :=
  Run.events_map (step_extends h) t calls

end

lemma run_recorded (f : Factory F R E) (t : Tenancy F R) (calls : List Call) :
    Run.events (step f) t calls = (Run.events (step f.recorded) t calls).map Event.forget ∧
      Run.final (step f) t calls = Run.final (step f.recorded) t calls :=
  run_extends f.recorded_extends t calls

end Tenancy
end NullMiddleware
