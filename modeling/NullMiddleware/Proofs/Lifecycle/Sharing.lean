import Mathlib.Algebra.BigOperators.Group.Finset.Basic
import Mathlib.Algebra.Order.BigOperators.Group.Finset
import Mathlib.Data.Fintype.BigOperators
import NullMiddleware.Proofs.Lifecycle.BusyPeriod

/-!
Threads that share a lifecycle.

Each thread registers and gives back on its own account. It may do the latter by hand, or have
guards that do it, and it may hand a guard over to another thread. As long as no thread gives back
by hand more than it has registered so, the threads do not notice each other: nobody finds the
count too low, and the resource is there for all who are registered.
-/

namespace NullMiddleware

variable {F R E : Type}

/-! ### What a lifecycle says -/

/-- The lines of the lifecycle in a trace. -/
def lines (trace : List (FactoryCall R ⊕ LogLine ⊕ E)) : List LogLine :=
  trace.filterMap fun entry => entry.getRight?.bind Sum.getLeft?

@[simp] lemma lines_nil : lines ([] : List (FactoryCall R ⊕ LogLine ⊕ E)) = [] := rfl
@[simp] lemma lines_append (u v : List (FactoryCall R ⊕ LogLine ⊕ E)) :
    lines (u ++ v) = lines u ++ lines v := List.filterMap_append ..
@[simp] lemma lines_say (f : Factory F R E) (line : LogLine) :
    lines [f.observed.say line] = [line] := rfl

/-- The factory says nothing in the name of the lifecycle. -/
lemma lines_own (call : FactoryCall R) (es : List E) :
    lines (.inl call :: (es.map Sum.inr).map Sum.inr) = [] := by
  induction es with
  | nil => rfl
  | cons e rest ih => exact ih

lemma lines_create {f : Factory F R E} {s s' : F} {creation : Creation R}
    {trace : List (FactoryCall R ⊕ LogLine ⊕ E)}
    (h : f.observed.create s = (creation, s', trace)) : lines trace = [] := by
  simp only [Factory.observed, Factory.recorded, Factory.apart, Prod.mk.injEq] at h
  obtain ⟨-, -, rfl⟩ := h
  exact lines_own _ _

lemma lines_destroy {f : Factory F R E} {s s' : F} {resource : R} {panic : Option String}
    {trace : List (FactoryCall R ⊕ LogLine ⊕ E)}
    (h : f.observed.destroy s resource = (panic, s', trace)) : lines trace = [] := by
  simp only [Factory.observed, Factory.recorded, Factory.apart, Prod.mk.injEq] at h
  obtain ⟨-, -, rfl⟩ := h
  exact lines_own _ _

namespace Lifecycle

lemma lines_acquire (f : Factory F R E) (l : Lifecycle F R) :
    ∀ line ∈ lines (l.acquire f.observed).trace, line = .resourceCreated := by
  have hacquired := acquired f.observed l
  generalize l.acquire f.observed = turn at hacquired
  cases hacquired with
  | refused down => simp
  | joined up busy => simp
  | made up idle made => simp [lines_create made]
  | failed up idle failed => simp [lines_create failed]
  | panicked up idle panicked => simp [lines_create panicked]

lemma lines_release (f : Factory F R E) {l : Lifecycle F R} (h : l.Housed) :
    ∀ line ∈ lines (l.release f.observed).trace, line = .resourceDestroyed := by
  have hreleased := released f.observed h
  generalize l.release f.observed = turn at hreleased
  cases hreleased with
  | unbalanced idle => simp
  | left busy => simp
  | destroyed last present destroyed => simp [lines_destroy destroyed]
  | panicked last present panicked => simp [lines_destroy panicked]

lemma release_accepted (f : Factory F R E) {l : Lifecycle F R} (h : l.Housed) (busy : 0 < l.count)
    (cause : Failure) : (l.release f).exit ≠ .returned (.error cause) := by
  have hreleased := released f h
  generalize l.release f = turn at hreleased
  cases hreleased with
  | unbalanced idle => omega
  | left busy => simp
  | destroyed last present destroyed => simp
  | panicked last present panicked => simp

lemma acquire_balanced (f : Factory F R E) (l : Lifecycle F R) :
    (l.acquire f).exit ≠ .returned (.error .unbalancedRelease) := by
  have hacquired := acquired f l
  generalize l.acquire f = turn at hacquired
  cases hacquired with
  | refused down => simp [Failure.contextShutDown]
  | joined up busy => simp
  | made up idle made => simp
  | @failed cause _ _ up idle failed => cases cause <;> simp [allocationFailure]
  | panicked up idle panicked => simp

end Lifecycle

lemma Exit.ofUnit_ne_error (exit : Exit Unit) (cause : Failure) :
    exit.ofUnit ≠ .returned (.error cause) := by
  cases exit <;> simp [Exit.ofUnit]

/-- A guard that finds a registration gives it back like anybody else, and has nothing to say. -/
lemma Shared.depart_eq (f : Factory F R E) {s : Shared F R} (h : s.lifecycle.Housed)
    (busy : 0 < s.lifecycle.count) (owned : 1 < s.owners) :
    (s.depart f).state =
        some { lifecycle := (s.lifecycle.release f).state, owners := s.owners - 1 } ∧
      (s.depart f).trace = (s.lifecycle.release f).trace := by
  have hmore : ¬ s.owners ≤ 1 := by omega
  have haccepted := s.lifecycle.release_accepted f h busy
  unfold depart letGo
  rcases hexit : (s.lifecycle.release f).exit with (cause | _) | text
  · exact absurd hexit (haccepted cause)
  · simp [hmore, hexit]
  · simp [hmore, hexit]

namespace Tenancy

variable {T : Type}

/-! ### Threads and what they have -/

/-- What a thread does. -/
inductive Move (T : Type)
  | acquire
  | release
  | join
  | depart
  | shutdown
  /-- A guard is handed over. -/
  | hand (receiver : T)

/-- A lifecycle with what each thread has of it. -/
structure Sharing (T F R : Type) where
  tenancy : Tenancy F R
  /-- What a thread has registered by hand and not given back. -/
  raw : T → Nat := fun _ => 0
  guards : T → Nat := fun _ => 0

/-- A call that does not go wrong for want of a registration. -/
structure Smooth (e : Event F R (FactoryCall R ⊕ LogLine ⊕ E)) : Prop where
  exit : e.exit ≠ .returned (.error .unbalancedRelease)
  lines : ∀ cause, .releaseFailed cause ∉ lines e.trace

lemma smooth_acquire (f : Factory F R E) (l : Lifecycle F R) (call : Call)
    (after : Option (Lifecycle F R)) :
    Smooth ⟨call, l, (l.acquire f.observed).exit, (l.acquire f.observed).trace, after⟩ := by
  refine ⟨l.acquire_balanced f.observed, ?_⟩
  intro cause hmem
  cases l.lines_acquire f _ hmem

lemma smooth_release (f : Factory F R E) {l : Lifecycle F R} (h : l.Housed) (busy : 0 < l.count)
    (after : Option (Lifecycle F R)) :
    Smooth ⟨.release, l, (l.release f.observed).exit, (l.release f.observed).trace, after⟩ := by
  refine ⟨l.release_accepted f.observed h busy _, ?_⟩
  intro cause hmem
  cases l.lines_release f h _ hmem

namespace Sharing

/-- A new lifecycle of which nobody has anything. -/
def new (factory : F) : Sharing T F R := { tenancy := .new factory }

/-- The registrations of a thread. -/
def held (w : Sharing T F R) (i : T) : Nat := w.raw i + w.guards i

section

variable [Fintype T] {w : Sharing T F R} {s : Shared F R}

/-- The books are in order: whoever is registered is registered by a thread. -/
structure Balanced (w : Sharing T F R) (s : Shared F R) : Prop where
  present : w.tenancy.shared = some s
  owners : w.tenancy.guards < s.owners
  housed : s.lifecycle.Housed
  guards : w.tenancy.guards = ∑ i, w.guards i
  count : s.lifecycle.count = ∑ i, w.raw i + ∑ i, w.guards i

lemma balanced_new (start : F) :
    Balanced (new start : Sharing T F R) { lifecycle := { factory := start } } := by
  refine ⟨rfl, Nat.one_pos, by simp [Lifecycle.Housed], ?_, ?_⟩ <;> simp [new, Tenancy.new]

namespace Balanced

lemma busy_of_raw (h : Balanced w s) {i : T} (hi : 0 < w.raw i) : 0 < s.lifecycle.count := by
  have hle := Finset.single_le_sum (fun _ _ => Nat.zero_le _) (Finset.mem_univ i) (f := w.raw)
  rw [h.count]
  omega

lemma guards_pos (h : Balanced w s) {i : T} (hi : w.guards i ≠ 0) : 0 < w.tenancy.guards := by
  have hle := Finset.single_le_sum (fun _ _ => Nat.zero_le _) (Finset.mem_univ i) (f := w.guards)
  rw [h.guards]
  omega

lemma busy_of_guard (h : Balanced w s) {i : T} (hi : w.guards i ≠ 0) : 0 < s.lifecycle.count := by
  have hpos := h.guards_pos hi
  have hguards := h.guards
  rw [h.count]
  omega

end Balanced

end

variable [DecidableEq T]

/-- One thread has one more or one less. -/
def adjust (n : T → Nat) (i : T) (more less : Bool) : T → Nat :=
  Function.update n i (n i + more.toNat - less.toNat)

/-- What a thread does, if it can: it needs a guard to drop or to hand over. -/
def step (f : Factory F R E) (w : Sharing T F R) :
    T × Move T → Option (Event F R E) × Sharing T F R
  | (i, .acquire) =>
    let (e, tenancy) := w.tenancy.step f .acquire
    (e, { w with tenancy, raw := adjust w.raw i (e.any Event.grants) false })
  | (i, .release) =>
    let (e, tenancy) := w.tenancy.step f .release
    (e, { w with tenancy, raw := adjust w.raw i false true })
  | (i, .join) =>
    let (e, tenancy) := w.tenancy.step f .join
    (e, { w with tenancy, guards := adjust w.guards i (e.any Event.grants) false })
  | (i, .depart) =>
    if w.guards i = 0 then (none, w)
    else
      let (e, tenancy) := w.tenancy.step f .depart
      (e, { w with tenancy, guards := adjust w.guards i false true })
  | (_, .shutdown) =>
    let (e, tenancy) := w.tenancy.step f .shutdown
    (e, { w with tenancy })
  | (i, .hand receiver) =>
    if w.guards i = 0 then (none, w)
    else (none, { w with guards := adjust (adjust w.guards i false true) receiver true false })

/-- No thread gives back by hand what it has not. -/
def Modest (f : Factory F R E) (w : Sharing T F R) : List (T × Move T) → Prop
  | [] => True
  | (i, .release) :: rest => 0 < w.raw i ∧ Modest f (w.step f (i, .release)).2 rest
  | a :: rest => Modest f (w.step f a).2 rest

/-! ### Nobody notices the others -/

section

variable {E' : Type} {g : Factory F R E'} {f : Factory F R E} {keep : E' → Option E}

lemma any_grants_keep (e : Option (Event F R E')) :
    (e.map (Event.keep keep)).any Event.grants = e.any Event.grants := by
  cases e <;> rfl

lemma step_extends (h : g.Extends f keep) (w : Sharing T F R) (a : T × Move T) :
    w.step f a = ((w.step g a).1.map (Event.keep keep), (w.step g a).2) := by
  obtain ⟨i, move⟩ := a
  cases move with
  | acquire => simp [step, Tenancy.step_extends h, any_grants_keep]
  | release => simp [step, Tenancy.step_extends h]
  | join => simp [step, Tenancy.step_extends h, any_grants_keep]
  | depart => by_cases hi : w.guards i = 0 <;> simp [step, Tenancy.step_extends h, hi]
  | shutdown => simp [step, Tenancy.step_extends h]
  | hand receiver => by_cases hi : w.guards i = 0 <;> simp [step, hi]

lemma modest_extends (h : g.Extends f keep) {w : Sharing T F R} {s : List (T × Move T)} :
    Modest f w s ↔ Modest g w s := by
  induction s generalizing w with
  | nil => exact Iff.rfl
  | cons a rest ih =>
    obtain ⟨i, move⟩ := a
    cases move <;> simp only [Modest, step_extends h, ih]

end

lemma run_tenancy (f : Factory F R E) (w : Sharing T F R) (moves : List (T × Move T)) :
    ∃ calls, Run.events (step f) w moves = Run.events (Tenancy.step f) w.tenancy calls ∧
      (Run.final (step f) w moves).tenancy = Run.final (Tenancy.step f) w.tenancy calls := by
  induction moves generalizing w with
  | nil => exact ⟨[], rfl, rfl⟩
  | cons a rest ih =>
    obtain ⟨calls, hevents, hfinal⟩ := ih (w.step f a).2
    -- to hand a guard on is no call, and neither is what a thread without a guard tries
    have hstep : ((w.step f a).1 = none ∧ (w.step f a).2.tenancy = w.tenancy) ∨
        ∃ call, (w.step f a).1 = (w.tenancy.step f call).1 ∧
          (w.step f a).2.tenancy = (w.tenancy.step f call).2 := by
      obtain ⟨i, move⟩ := a
      cases move with
      | acquire => exact .inr ⟨.acquire, rfl, rfl⟩
      | release => exact .inr ⟨.release, rfl, rfl⟩
      | join => exact .inr ⟨.join, rfl, rfl⟩
      | shutdown => exact .inr ⟨.shutdown, rfl, rfl⟩
      | depart =>
        by_cases hi : w.guards i = 0
        · exact .inl (by simp [step, hi])
        · exact .inr ⟨.depart, by simp [step, hi], by simp [step, hi]⟩
      | hand receiver =>
        by_cases hi : w.guards i = 0 <;> exact .inl (by simp [step, hi])
    rw [Run.events_cons, Run.final_cons, hevents, hfinal]
    rcases hstep with ⟨hnone, hsame⟩ | ⟨call, hcall, hafter⟩
    · exact ⟨calls, by simp [hnone, hsame], by rw [hsame]⟩
    · exact ⟨call :: calls, by rw [Run.events_cons, hcall, hafter], by rw [Run.final_cons, hafter]⟩

lemma made_eq (f : Factory F R E) (start : F) (moves : List (T × Move T)) {l : Lifecycle F R}
    (h : (Run.final (step f.recorded) (new start) moves).tenancy.lifecycle? = some l) :
    ((Run.events (step f.recorded) (new start) moves).flatMap (deeds ·.trace)).countP Deed.isMade =
      ((Run.events (step f.recorded) (new start) moves).flatMap (deeds ·.trace)).countP
        Deed.isDestroyed + l.resource.isSome.toNat := by
  obtain ⟨calls, hevents, hfinal⟩ := run_tenancy f.recorded (new start : Sharing T F R) moves
  obtain ⟨-, last, hsuccession, hlast⟩ := run_careful f (t := .new start) rfl
    (by simp [Lifecycle.Housed]) calls
  rw [hfinal] at h
  obtain ⟨-, hresource, -⟩ := hlast l h
  rw [hevents, hresource]
  exact hsuccession.balance

variable [Fintype T]

lemma sum_adjust (n : T → Nat) (i : T) (more less : Bool) (enough : less → 0 < n i) :
    ∑ j, adjust n i more less j + less.toNat = ∑ j, n j + more.toNat := by
  have hless : less.toNat ≤ n i := by
    cases less with
    | false => exact Nat.zero_le _
    | true => exact enough rfl
  unfold adjust
  rw [Finset.sum_update_of_mem (Finset.mem_univ i),
    ← Finset.add_sum_erase Finset.univ n (Finset.mem_univ i), Finset.sdiff_singleton_eq_erase]
  omega

variable {f : Factory F R E} {w : Sharing T F R} {s : Shared F R}

namespace Balanced

lemma acquire (h : Balanced w s) (i : T) :
    (∀ e ∈ (w.step f.observed (i, .acquire)).1, Smooth e) ∧
      ∃ s', Balanced (w.step f.observed (i, .acquire)).2 s' := by
  have hcareful := (Lifecycle.acquired f.observed s.lifecycle).careful (f := f.apart) h.housed
  have hsum := sum_adjust w.raw i (Lifecycle.succeeds (s.lifecycle.acquire f.observed).exit)
    false (by simp)
  simp only [Sharing.step, Tenancy.step, h.present, perform]
  refine ⟨?_, _, rfl, h.owners, hcareful.housed, h.guards, ?_⟩
  · rintro e ⟨⟩
    exact smooth_acquire f _ _ _
  · have hl := hcareful.count
    have hcount := h.count
    simp only [Option.any_some, Event.grants, Bool.toNat_false] at hl hsum ⊢
    omega

lemma release (h : Balanced w s) {i : T} (hi : 0 < w.raw i) :
    (∀ e ∈ (w.step f.observed (i, .release)).1, Smooth e) ∧
      ∃ s', Balanced (w.step f.observed (i, .release)).2 s' := by
  have hbusy := h.busy_of_raw hi
  have hfreed : decide (s.lifecycle.count ≠ 0) = true := by simpa using hbusy.ne'
  have hcareful := (Lifecycle.released f.observed h.housed).careful (f := f.apart) h.housed
  have hsum := sum_adjust w.raw i false true fun _ => hi
  simp only [Sharing.step, Tenancy.step, h.present, perform]
  refine ⟨?_, _, rfl, h.owners, hcareful.housed, h.guards, ?_⟩
  · rintro e ⟨⟩
    exact smooth_release f h.housed hbusy _
  · have hl := hcareful.count
    have hcount := h.count
    simp only [hfreed, Bool.toNat_true, Bool.toNat_false] at hl hsum ⊢
    omega

lemma join (h : Balanced w s) (i : T) :
    (∀ e ∈ (w.step f.observed (i, .join)).1, Smooth e) ∧
      ∃ s', Balanced (w.step f.observed (i, .join)).2 s' := by
  have hcareful := (Lifecycle.acquired f.observed s.lifecycle).careful (f := f.apart) h.housed
  have hsum := sum_adjust w.guards i (Lifecycle.succeeds (s.lifecycle.acquire f.observed).exit)
    false (by simp)
  have hl := hcareful.count
  have howners := h.owners
  have hguards := h.guards
  have hcount := h.count
  simp only [Sharing.step, Tenancy.step, h.present, perform, Shared.join]
  refine ⟨?_, _, rfl, ?_, hcareful.housed, ?_, ?_⟩
  · rintro e ⟨⟩
    exact smooth_acquire f _ _ _
  all_goals
    -- an owner more and a guard more, or neither
    rcases hexit : (s.lifecycle.acquire f.observed).exit with (cause | _) | text <;>
      simp only [hexit, Lifecycle.succeeds, Option.any_some, Event.grants, Bool.toNat_true,
        Bool.toNat_false] at hl hsum ⊢ <;>
      omega

lemma depart (h : Balanced w s) (i : T) :
    (∀ e ∈ (w.step f.observed (i, .depart)).1, Smooth e) ∧
      ∃ s', Balanced (w.step f.observed (i, .depart)).2 s' := by
  by_cases hi : w.guards i = 0
  · simp only [Sharing.step, if_pos hi]
    exact ⟨by simp, s, h⟩
  · have hbusy := h.busy_of_guard hi
    have hguards := h.guards
    have hcount := h.count
    have howners := h.owners
    have hsome := h.guards_pos hi
    have hfreed : decide (s.lifecycle.count ≠ 0) = true := by simpa using hbusy.ne'
    have hcareful := (Lifecycle.released f.observed h.housed).careful (f := f.apart) h.housed
    have hsum := sum_adjust w.guards i false true fun _ => Nat.pos_of_ne_zero hi
    obtain ⟨hstate, htrace⟩ := s.depart_eq f.observed h.housed hbusy (by omega)
    simp only [Sharing.step, if_neg hi, Tenancy.step, h.present, perform, if_neg hsome.ne', htrace]
    refine ⟨?_, _, hstate, ?_, hcareful.housed, ?_, ?_⟩
    · rintro e ⟨⟩
      exact ⟨Exit.ofUnit_ne_error _ _, (smooth_release f h.housed hbusy none).lines⟩
    all_goals
      have hl := hcareful.count
      simp only [hfreed, Bool.toNat_true, Bool.toNat_false] at hl hsum ⊢
      omega

lemma shutdown (h : Balanced w s) (i : T) :
    (∀ e ∈ (w.step f.observed (i, .shutdown)).1, Smooth e) ∧
      ∃ s', Balanced (w.step f.observed (i, .shutdown)).2 s' := by
  simp only [Sharing.step, Tenancy.step, h.present, perform]
  refine ⟨?_, _, rfl, h.owners, h.housed, h.guards, h.count⟩
  rintro e ⟨⟩
  exact ⟨by simp, by simp⟩

lemma hand (h : Balanced w s) (i receiver : T) :
    ∃ s', Balanced (w.step f.observed (i, .hand receiver)).2 s' := by
  by_cases hi : w.guards i = 0
  · simp only [Sharing.step, if_pos hi]
    exact ⟨s, h⟩
  · have htake := sum_adjust w.guards i false true fun _ => Nat.pos_of_ne_zero hi
    have hgive := sum_adjust (adjust w.guards i false true) receiver true false (by simp)
    have hguards := h.guards
    have hcount := h.count
    simp only [Bool.toNat_true, Bool.toNat_false] at htake hgive
    simp only [Sharing.step, if_neg hi]
    exact ⟨s, h.present, h.owners, h.housed, by simp only; omega, by simp only; omega⟩

lemma run (h : Balanced w s) {moves : List (T × Move T)} (modest : Modest f.observed w moves) :
    (∀ e ∈ Run.events (step f.observed) w moves, Smooth e) ∧
      ∃ s', Balanced (Run.final (step f.observed) w moves) s' := by
  induction moves generalizing w s with
  | nil => exact ⟨by simp, s, h⟩
  | cons a rest ih =>
    obtain ⟨i, move⟩ := a
    have hstep : (∀ e ∈ (w.step f.observed (i, move)).1, Smooth e) ∧
        ∃ s', Balanced (w.step f.observed (i, move)).2 s' := by
      cases move with
      | acquire => exact h.acquire i
      | release => exact h.release modest.1
      | join => exact h.join i
      | depart => exact h.depart i
      | shutdown => exact h.shutdown i
      | hand receiver =>
        refine ⟨?_, h.hand i receiver⟩
        by_cases hi : w.guards i = 0 <;> simp [Sharing.step, hi]
    have hrest : Modest f.observed (w.step f.observed (i, move)).2 rest := by
      cases move with
      | release => exact modest.2
      | _ => exact modest
    obtain ⟨hsmooth, s', hs'⟩ := hstep
    obtain ⟨hevents, hfinal⟩ := ih hs' hrest
    refine ⟨?_, hfinal⟩
    rw [Run.events_cons]
    intro e he
    rcases List.mem_append.mp he with hmem | hmem
    · exact hsmooth e (Option.mem_toList.mp hmem)
    · exact hevents e hmem

end Balanced

/-- **Threads that share a lifecycle do not notice each other.** If none of them gives back by hand
what it has not, nobody is refused for want of a registration and no guard complains. The count is
what the threads have together, the resource is there as long as one of them has something, and
when nobody has anything left, all that was made is destroyed. -/
theorem independent_threads_compose (f : Factory F R E) (start : F) (moves : List (T × Move T))
    (modest : Modest f (new start) moves) :
    let es := Run.events (step f.observed) (new start) moves
    let w := Run.final (step f.observed) (new start) moves
    (Run.events (step f) (new start) moves = es.map (Event.keep (unobserved f)) ∧
        Run.final (step f) (new start) moves = w) ∧
      (∀ e ∈ es, e.exit ≠ .returned (.error .unbalancedRelease) ∧
        ∀ cause, .releaseFailed cause ∉ lines e.trace) ∧
      ∃ l, w.tenancy.lifecycle? = some l ∧ l.count = ∑ i, w.held i ∧
        ((∃ i, 0 < w.held i) → l.resource.isSome) ∧
        ((∀ i, w.held i = 0) → l.count = 0 ∧ l.resource = none ∧
          (es.flatMap (deeds ·.trace)).countP Deed.isMade =
            (es.flatMap (deeds ·.trace)).countP Deed.isDestroyed) := by
  intro es w
  have hnew := balanced_new (T := T) (R := R) start
  obtain ⟨hsmooth, s, hs⟩ := hnew.run ((modest_extends f.observed_extends).mp modest)
  have hpresent : w.tenancy.lifecycle? = some s.lifecycle := by
    rw [lifecycle?, hs.present]
    rfl
  have hcount : s.lifecycle.count = ∑ i, w.held i := by
    rw [hs.count, ← Finset.sum_add_distrib]
    rfl
  refine ⟨Run.events_map (step_extends f.observed_extends) _ _,
    fun e he => ⟨(hsmooth e he).exit, (hsmooth e he).lines⟩, s.lifecycle, hpresent, hcount, ?_, ?_⟩
  · rintro ⟨i, hi⟩
    refine hs.housed.mpr ?_
    rw [hcount]
    exact Finset.sum_pos' (fun _ _ => Nat.zero_le _) ⟨i, Finset.mem_univ i, hi⟩
  · intro hnothing
    have hidle : s.lifecycle.count = 0 := by
      rw [hcount]
      exact Finset.sum_eq_zero fun i _ => hnothing i
    have hgone := Lifecycle.resource_of_idle hs.housed hidle
    have hmade := made_eq f.apart start moves (l := s.lifecycle) hpresent
    rw [hgone] at hmade
    exact ⟨hidle, hgone, hmade⟩

/-- A creation fails, a guard goes from one thread to the other and outlives a shutdown, and with it
the one resource. -/
theorem two_threads_share :
    let start : Script := { outcomes := [.failure .unbalancedRelease] }
    let moves : List (Bool × Move Bool) :=
      [(true, .acquire), (false, .acquire), (true, .join), (true, .hand false), (false, .release),
        (true, .shutdown), (true, .acquire), (false, .depart)]
    let es := Run.events (step Script.factory.observed) (new start) moves
    Modest Script.factory (new start) moves ∧ es.length = 7 ∧
      (es.flatMap (deeds ·.trace)).countP Deed.isMade = 1 ∧
      (es.flatMap (deeds ·.trace)).countP Deed.isDestroyed = 1 := by
  intro start moves es
  have modest : Modest Script.factory (new start) moves := ⟨by decide +kernel, trivial⟩
  have hmade : (es.flatMap (deeds ·.trace)).countP Deed.isMade = 1 := by decide +kernel
  obtain ⟨-, -, l, -, -, -, hnothing⟩ :=
    independent_threads_compose Script.factory start moves modest
  obtain ⟨-, -, hdestroyed⟩ := hnothing (by decide +kernel)
  exact ⟨modest, by decide +kernel, hmade, hdestroyed ▸ hmade⟩

end Sharing
end Tenancy
end NullMiddleware
