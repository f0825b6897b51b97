import NullMiddleware.Proofs.Lifecycle.Failures

/-!
Batches of equal calls.

Some threads register, or some give back, and nobody does anything else. Who comes first makes no
difference then: how many succeed, what the count is afterwards and what the factory has to do
depend on the number of calls, on the count before them, and on how many creations fail before one
does not.
-/

namespace NullMiddleware

variable {F R E : Type}

/-- The next creations fail, `j` of them, and the one after them makes a resource. -/
inductive Factory.MakesAfter (f : Factory F R E) : Nat → F → Prop
  | now {s s' : F} {resource : R} {trace : List E}
    (made : f.create s = (.made resource, s', trace)) : MakesAfter f 0 s
  | later {j : Nat} {s s' : F} {cause : Failure} {trace : List E}
    (failed : f.create s = (.failed cause, s', trace)) (next : MakesAfter f j s') :
    MakesAfter f (j + 1) s

namespace FactoryCall

def isCreate : FactoryCall R → Bool
  | create _ => true
  | _ => false

def isMaking : FactoryCall R → Bool
  | create (.made _) => true
  | _ => false

def isDestroy : FactoryCall R → Bool
  | destroy _ => true
  | _ => false

end FactoryCall

namespace Exit

def isUnbalanced : Exit (Except Failure Unit) → Bool
  | returned (.error .unbalancedRelease) => true
  | _ => false

def isBadAlloc : Exit (Except Failure Unit) → Bool
  | returned (.error (.badAlloc _)) => true
  | _ => false

end Exit

/-! ### Giving back -/

/-- The resource can be destroyed without a panic, if it has to be. -/
def Lifecycle.Calm (f : Factory F R E) (l : Lifecycle F R) : Prop :=
  ∀ r, l.resource = some r → (f.destroy l.factory r).1 = none

lemma Lifecycle.release_calm {f : Factory F R E} {l : Lifecycle F R} (h : l.Housed)
    (calm : l.Calm f) :
    (l.release f.recorded).state.Calm f ∧
      (l.release f.recorded).state.count = l.count - 1 ∧
      succeeds (l.release f.recorded).exit = decide (l.count ≠ 0) ∧
      (l.release f.recorded).exit.isUnbalanced = decide (l.count = 0) ∧
      (factoryCalls (l.release f.recorded).trace).countP FactoryCall.isDestroy =
        if l.count = 1 then 1 else 0 := by
  have hreleased := released f.recorded h
  generalize l.release f.recorded = turn at hreleased
  cases hreleased with
  | unbalanced idle => exact ⟨calm, by simp [idle, succeeds, Exit.isUnbalanced]⟩
  | left busy =>
    have hsome : l.count ≠ 0 := by omega
    have hmore : l.count ≠ 1 := by omega
    exact ⟨calm, by simp [hsome, hmore, succeeds, Exit.isUnbalanced]⟩
  | destroyed last there destroyed =>
    obtain ⟨es, rfl⟩ := destroy_recorded destroyed
    simp [last, Calm, succeeds, Exit.isUnbalanced, FactoryCall.isDestroy]
  | panicked last there panicked =>
    have hpanic := calm _ there
    simp only [Factory.recorded, Prod.mk.injEq] at panicked
    rw [panicked.1] at hpanic
    cases hpanic

namespace Tenancy

/-- What comes of `n` releases that find lifecycle `l` and leave `l'`. -/
structure GivenBack (n : Nat) (l l' : Lifecycle F R)
    (es : List (Event F R (FactoryCall R ⊕ E))) : Prop where
  accepted : es.countP (Lifecycle.succeeds ·.exit) = min l.count n
  refused : es.countP (·.exit.isUnbalanced) = n - min l.count n
  count : l'.count = l.count - min l.count n
  destroyed : (es.flatMap (factoryCalls ·.trace)).countP FactoryCall.isDestroy =
    if 0 < l.count ∧ l.count ≤ n then 1 else 0

lemma GivenBack.cons {n : Nat} {l l₁ l' : Lifecycle F R}
    {es : List (Event F R (FactoryCall R ⊕ E))} (rest : GivenBack n l₁ l' es)
    {e : Event F R (FactoryCall R ⊕ E)} (count : l₁.count = l.count - 1)
    (accepted : Lifecycle.succeeds e.exit = decide (l.count ≠ 0))
    (refused : e.exit.isUnbalanced = decide (l.count = 0))
    (destroyed : (factoryCalls e.trace).countP FactoryCall.isDestroy =
      if l.count = 1 then 1 else 0) :
    GivenBack (n + 1) l l' (e :: es) := by
  obtain ⟨haccepted, hrefused, hcount, hdestroyed⟩ := rest
  refine ⟨?_, ?_, ?_, ?_⟩
  · rw [List.countP_cons, haccepted, accepted, count]
    by_cases hidle : l.count = 0
    · simp [hidle]
    · simp [hidle]
      omega
  · rw [List.countP_cons, hrefused, refused, count]
    by_cases hidle : l.count = 0
    · simp [hidle]
    · simp [hidle]
      omega
  · rw [hcount, count]
    omega
  · rw [List.flatMap_cons, List.countP_append, hdestroyed, destroyed, count]
    split_ifs <;> omega

lemma step_release (f : Factory F R E) {t : Tenancy F R} {s : Shared F R}
    (present : t.shared = some s) :
    (step f t .release).1 = some ⟨.release, s.lifecycle, (s.lifecycle.release f).exit,
        (s.lifecycle.release f).trace, some (s.lifecycle.release f).state⟩ ∧
      (step f t .release).2.shared =
        some { s with lifecycle := (s.lifecycle.release f).state } := by
  simp [step, present, perform, lifecycle?]

/-- Releases are accepted as long as somebody is registered, and the last of these ends the
resource. -/
lemma run_releases {f : Factory F R E} {t : Tenancy F R} {s : Shared F R}
    (present : t.shared = some s) (h : s.lifecycle.Housed) (calm : s.lifecycle.Calm f) (n : Nat) :
    ∃ s', (Run.final (step f.recorded) t (List.replicate n .release)).shared = some s' ∧
      GivenBack n s.lifecycle s'.lifecycle
        (Run.events (step f.recorded) t (List.replicate n .release)) := by
  induction n generalizing t s with
  | zero =>
    have hnone : ¬ (0 < s.lifecycle.count ∧ s.lifecycle.count ≤ 0) := by omega
    exact ⟨s, present, by simp, by simp, by simp, by rw [if_neg hnone]; rfl⟩
  | succ n ih =>
    obtain ⟨hevent, hnext⟩ := step_release f.recorded present
    obtain ⟨hcalm, hcount, haccepted, hrefused, hdestroyed⟩ := Lifecycle.release_calm h calm
    have hhoused := ((Lifecycle.released f.recorded h).careful h).housed
    obtain ⟨s', hs', hrest⟩ := ih hnext hhoused hcalm
    rw [List.replicate_succ, Run.events_cons, Run.final_cons, hevent]
    exact ⟨s', hs', hrest.cons hcount haccepted hrefused hdestroyed⟩

/-! ### Registering -/

/-- What comes of registrations that find lifecycle `l` and leave `l'`: how many are accepted, how
many get no resource, and how often one is asked for and made. -/
structure TakenIn (accepted starved created made : Nat) (l l' : Lifecycle F R)
    (es : List (Event F R (FactoryCall R ⊕ E))) : Prop where
  count : l'.count = l.count + accepted
  accepted : es.countP (Lifecycle.succeeds ·.exit) = accepted
  starved : es.countP (·.exit.isBadAlloc) = starved
  created : (es.flatMap (factoryCalls ·.trace)).countP FactoryCall.isCreate = created
  made : (es.flatMap (factoryCalls ·.trace)).countP FactoryCall.isMaking = made

lemma takenIn_nil (l : Lifecycle F R) :
    TakenIn 0 0 0 0 l l ([] : List (Event F R (FactoryCall R ⊕ E))) := ⟨rfl, rfl, rfl, rfl, rfl⟩

lemma TakenIn.cons {a b c d : Nat} {l l₁ l' : Lifecycle F R}
    {es : List (Event F R (FactoryCall R ⊕ E))} (rest : TakenIn a b c d l₁ l' es)
    {e : Event F R (FactoryCall R ⊕ E)} {accepted starved created made : Nat}
    (count : l₁.count + a = l.count + accepted)
    (haccepted : accepted = a + (Lifecycle.succeeds e.exit).toNat)
    (hstarved : starved = b + e.exit.isBadAlloc.toNat)
    (hcreated : created = c + (factoryCalls e.trace).countP FactoryCall.isCreate)
    (hmade : made = d + (factoryCalls e.trace).countP FactoryCall.isMaking) :
    TakenIn accepted starved created made l l' (e :: es) := by
  obtain ⟨hcount, ha, hb, hc, hd⟩ := rest
  refine ⟨hcount.trans count, ?_, ?_, ?_, ?_⟩
  · rw [← List.singleton_append, List.countP_append, countP_one, ha, haccepted, Nat.add_comm]
  · rw [← List.singleton_append, List.countP_append, countP_one, hb, hstarved, Nat.add_comm]
  · rw [List.flatMap_cons, List.countP_append, hc, hcreated, Nat.add_comm]
  · rw [List.flatMap_cons, List.countP_append, hd, hmade, Nat.add_comm]

lemma run_joined {f : Factory F R E} {t : Tenancy F R} {s : Shared F R}
    (present : t.shared = some s) (up : s.lifecycle.shutDown = false)
    (busy : 0 < s.lifecycle.count) {calls : List Call} (h : ∀ call ∈ calls, call.registers) :
    ∃ s', (Run.final (step f.recorded) t calls).shared = some s' ∧
      TakenIn calls.length 0 0 0 s.lifecycle s'.lifecycle
        (Run.events (step f.recorded) t calls) := by
  induction calls generalizing t s with
  | nil => exact ⟨s, present, takenIn_nil _⟩
  | cons call rest ih =>
    obtain ⟨hevent, s₁, hs₁, hstate⟩ :=
      step_registers f.recorded present (h call List.mem_cons_self)
    have hacquire : s.lifecycle.acquire f.recorded =
        ⟨.returned (.ok ()), { s.lifecycle with count := s.lifecycle.count + 1 }, []⟩ := by
      rw [Lifecycle.acquire, if_neg (by simp [up]), if_neg busy.ne']
    rw [hacquire] at hevent hstate
    obtain ⟨s', hs', hrest⟩ := ih hs₁ (by rw [hstate]; exact up)
      (by rw [hstate]; exact Nat.succ_pos _) fun c hc => h c (List.mem_cons_of_mem _ hc)
    rw [Run.events_cons, Run.final_cons, hevent]
    refine ⟨s', hs', hrest.cons ?_ rfl rfl rfl rfl⟩
    rw [hstate, List.length_cons]
    simp only
    omega

/-- Where nobody is registered, those who register fail until a resource is made. -/
lemma run_needed {f : Factory F R E} {t : Tenancy F R} {s : Shared F R}
    (present : t.shared = some s) (up : s.lifecycle.shutDown = false)
    (idle : s.lifecycle.count = 0) {j : Nat} (makes : f.MakesAfter j s.lifecycle.factory)
    {calls : List Call} (h : ∀ call ∈ calls, call.registers) :
    ∃ s', (Run.final (step f.recorded) t calls).shared = some s' ∧
      TakenIn (calls.length - min j calls.length) (min j calls.length) (min (j + 1) calls.length)
        (if j < calls.length then 1 else 0) s.lifecycle s'.lifecycle
        (Run.events (step f.recorded) t calls) := by
  induction calls generalizing t s j with
  | nil => exact ⟨s, present, by simpa using takenIn_nil _⟩
  | cons call rest ih =>
    obtain ⟨hevent, s₁, hs₁, hstate⟩ :=
      step_registers f.recorded present (h call List.mem_cons_self)
    have hrest : ∀ c ∈ rest, c.registers := fun c hc => h c (List.mem_cons_of_mem _ hc)
    rw [Run.events_cons, Run.final_cons, hevent, List.length_cons]
    cases makes with
    | @now _ factory resource trace made =>
      -- the first one has the resource made, and the others find it
      have hacquire : s.lifecycle.acquire f.recorded = ⟨.returned (.ok ()),
          { s.lifecycle with factory, count := 1, resource := some resource },
          (.inl (.create (.made resource)) :: trace.map .inr) ++
            [.inr (f.say .resourceCreated)]⟩ := by
        simp [Lifecycle.acquire, up, idle, Factory.recorded, made]
      rw [hacquire] at hstate ⊢
      obtain ⟨s', hs', htaken⟩ := run_joined hs₁ (by rw [hstate]; exact up)
        (by rw [hstate]; exact Nat.one_pos) hrest
      refine ⟨s', hs', htaken.cons ?_ ?_ ?_ ?_ ?_⟩
      · rw [hstate, idle]
        simp only
        omega
      all_goals
        simp [Lifecycle.succeeds, Exit.isBadAlloc, FactoryCall.isCreate, FactoryCall.isMaking]
    | @later j _ factory cause trace failed next =>
      have hacquire : s.lifecycle.acquire f.recorded =
          ⟨.returned (.error (Lifecycle.allocationFailure cause)), { s.lifecycle with factory },
            .inl (.create (.failed cause)) :: trace.map .inr⟩ := by
        simp [Lifecycle.acquire, up, idle, Factory.recorded, failed]
      rw [hacquire] at hstate ⊢
      obtain ⟨s', hs', htaken⟩ := ih hs₁ (by rw [hstate]; exact up) (by rw [hstate]; exact idle)
        (by rw [hstate]; exact next) hrest
      have hstarved :
          Exit.isBadAlloc (.returned (.error (Lifecycle.allocationFailure cause))) = true := by
        cases cause <;> rfl
      refine ⟨s', hs', htaken.cons ?_ ?_ ?_ ?_ ?_⟩
      · rw [hstate, Nat.add_min_add_right, Nat.add_sub_add_right]
      · simp [Lifecycle.succeeds]
      · simp [hstarved]
      · simp [FactoryCall.isCreate]
      · simp [FactoryCall.isMaking]

lemma run_refused {f : Factory F R E} {t : Tenancy F R} {s : Shared F R}
    (present : t.shared = some s) (down : s.lifecycle.shutDown) {calls : List Call}
    (h : ∀ call ∈ calls, call.registers) :
    (Run.events (step f) t calls).length = calls.length ∧
      (∀ e ∈ Run.events (step f) t calls, e.Refused) ∧ Run.final (step f) t calls = t := by
  induction calls with
  | nil => exact ⟨rfl, by simp, rfl⟩
  | cons call rest ih =>
    obtain ⟨hlength, hrefused, hfinal⟩ := ih fun c hc => h c (List.mem_cons_of_mem _ hc)
    have hacquire := Lifecycle.acquire_refused f down
    have hstep := step_unregistered f present (h call List.mem_cons_self) (by rw [hacquire]; rfl)
    have hsame : { t with shared := some s } = t := by rw [← present]
    rw [hacquire, hsame] at hstep
    rw [Run.events_cons, Run.final_cons, hstep]
    refine ⟨by simp [hlength], ?_, hfinal⟩
    intro e he
    rcases List.mem_cons.mp he with rfl | he
    · exact ⟨rfl, rfl, rfl⟩
    · exact hrefused e he

/-! ### Any schedule -/

open Schedule (Interleaves)

/-- **Batches of equal calls have the same tallies in any order.** Let threads make `n` calls
between them. Releases are accepted as long as somebody is registered, and the resource is destroyed
once, if they are enough for that. Registrations are refused after a shutdown; otherwise they are
accepted, and have nothing made, where somebody is registered. Where nobody is, they fail as often
as the creations do, and the one after these makes the only resource. -/
theorem tallies_do_not_depend_on_schedule (f : Factory F R E) (start : F) (before : List Call)
    (s : Shared F R) (k : Nat) (programs : Fin k → List Call) (order : List (Fin k × Call)) :
    let t := Run.final (step f.recorded) (new start) before
    let l := s.lifecycle
    let n := ∑ i, (programs i).length
    let es := Run.events (step f.recorded) t (Schedule.calls order)
    let t' := Run.final (step f.recorded) t (Schedule.calls order)
    t.shared = some s → Interleaves programs order →
      ((∀ i, ∀ call ∈ programs i, call = .release) → l.Calm f →
        ∃ s', t'.shared = some s' ∧ GivenBack n l s'.lifecycle es) ∧
      ((∀ i, ∀ call ∈ programs i, call.registers) →
        (l.shutDown → es.length = n ∧ (∀ e ∈ es, e.Refused) ∧ t' = t) ∧
        (l.shutDown = false → 0 < l.count →
          ∃ s', t'.shared = some s' ∧ TakenIn n 0 0 0 l s'.lifecycle es) ∧
        (l.shutDown = false → l.count = 0 → ∀ j, f.MakesAfter j l.factory →
          ∃ s', t'.shared = some s' ∧
            TakenIn (n - min j n) (min j n) (min (j + 1) n) (if j < n then 1 else 0)
              l s'.lifecycle es)) := by
  intro t l n es t' present hinterleaves
  -- of the schedule it is only used that it has `n` calls, all of the one kind
  have hlength : (Schedule.calls order).length = n := by
    have hcount := hinterleaves.countP fun _ => true
    simpa using hcount
  have hcalls : ∀ P : Call → Prop, (∀ i, ∀ call ∈ programs i, P call) →
      ∀ call ∈ Schedule.calls order, P call := by
    intro P hP call hcall
    obtain ⟨a, ha, rfl⟩ := List.mem_map.mp hcall
    exact hP a.1 a.2 (hinterleaves.mem ha)
  refine ⟨?_, ?_⟩
  · intro hrelease calm
    have hreplicate : Schedule.calls order = List.replicate n .release :=
      List.eq_replicate_iff.mpr ⟨hlength, hcalls _ hrelease⟩
    obtain ⟨-, last, hhoused, -, -, hlast⟩ :=
      run_last f (t := new start) rfl (by simp [Lifecycle.Housed]) before
    have hl : l = last := hlast l (by rw [lifecycle?, present]; rfl)
    rw [← hl] at hhoused
    simp only [es, t', hreplicate]
    exact run_releases present hhoused calm n
  · intro hregisters
    have hall := hcalls _ hregisters
    rw [← hlength]
    exact ⟨fun down => run_refused present down hall,
      fun up busy => run_joined present up busy hall,
      fun up idle j makes => run_needed present up idle makes hall⟩

/-- Three are given back where two are registered; then four register, and two creations fail. Where
two are registered all of these four are accepted, and after a shutdown all are refused. -/
theorem tallies_of_two_threads :
    let start : Script :=
      { outcomes := [.ok, .failure .unbalancedRelease, .failure (.unsupported "sharing")] }
    let given : Fin 2 → List Call := fun i => if i = 0 then [.release, .release] else [.release]
    let taken : Fin 2 → List Call := fun i => if i = 0 then [.acquire] else [.join, .acquire, .join]
    let order : List (Fin 2 × Call) := [(0, .release), (1, .release), (0, .release)]
    let later : List (Fin 2 × Call) := [(1, .join), (0, .acquire), (1, .acquire), (1, .join)]
    let t := Run.final (step Script.factory.recorded) (new start) [.acquire, .join]
    let es := Run.events (step Script.factory.recorded) t (Schedule.calls order)
    let t' := Run.final (step Script.factory.recorded) (new start)
      [.acquire, .join, .release, .release, .release]
    let es' := Run.events (step Script.factory.recorded) t' (Schedule.calls later)
    let joined := Run.events (step Script.factory.recorded) t (Schedule.calls later)
    let down := Run.final (step Script.factory.recorded) (new start) [.acquire, .join, .shutdown]
    let late := Run.events (step Script.factory.recorded) down (Schedule.calls later)
    Interleaves given order ∧ Interleaves taken later ∧
      es.countP (·.exit.isUnbalanced) = 1 ∧
      (es.flatMap (factoryCalls ·.trace)).countP FactoryCall.isDestroy = 1 ∧
      es'.countP (·.exit.isBadAlloc) = 2 ∧ es'.countP (Lifecycle.succeeds ·.exit) = 2 ∧
      (es'.flatMap (factoryCalls ·.trace)).countP FactoryCall.isCreate = 3 ∧
      joined.countP (Lifecycle.succeeds ·.exit) = 4 ∧
      (joined.flatMap (factoryCalls ·.trace)).countP FactoryCall.isCreate = 0 ∧
      late.length = 4 ∧ (∀ e ∈ late, e.Refused) ∧
      Run.final (step Script.factory.recorded) down (Schedule.calls later) = down := by
  intro start given taken order later t es t' es' joined down late
  have horder : Interleaves given order
    | 0 => rfl
    | 1 => rfl
  have hlater : Interleaves taken later
    | 0 => rfl
    | 1 => rfl
  have hreleases : ∀ i, ∀ call ∈ given i, call = .release
    | 0 => by simp [given]
    | 1 => by simp [given]
  have hregisters : ∀ i, ∀ call ∈ taken i, call.registers := by decide
  obtain ⟨s, hs, hheld⟩ := Option.map_eq_some_iff.mp
    (show t.shared.map (·.lifecycle) = some ⟨_, 2, false, some 0⟩ from rfl)
  obtain ⟨s', hs', hstate⟩ := Option.map_eq_some_iff.mp
    (show t'.shared.map (·.lifecycle) = some ⟨_, 0, false, none⟩ from rfl)
  obtain ⟨s₂, hs₂, hdown⟩ := Option.map_eq_some_iff.mp
    (show down.shared.map (·.lifecycle) = some ⟨_, 2, true, some 0⟩ from rfl)
  obtain ⟨hgiven, -⟩ :=
    tallies_do_not_depend_on_schedule Script.factory start _ s 2 given order hs horder
  obtain ⟨-, htaken⟩ :=
    tallies_do_not_depend_on_schedule Script.factory start _ s' 2 taken later hs' hlater
  obtain ⟨-, hbusy⟩ :=
    tallies_do_not_depend_on_schedule Script.factory start _ s 2 taken later hs hlater
  obtain ⟨-, hclosed⟩ :=
    tallies_do_not_depend_on_schedule Script.factory start _ s₂ 2 taken later hs₂ hlater
  obtain ⟨_, -, hback⟩ := hgiven hreleases fun r _ => by rw [hheld]; rfl
  obtain ⟨-, -, hneeded⟩ := htaken hregisters
  obtain ⟨_, -, hin⟩ := hneeded (by rw [hstate]) (by rw [hstate]) 2
    (by rw [hstate]; exact .later rfl (.later rfl (.now rfl)))
  obtain ⟨-, hjoin, -⟩ := hbusy hregisters
  obtain ⟨_, -, hjoined⟩ := hjoin (by rw [hheld]) (by rw [hheld]; exact Nat.two_pos)
  obtain ⟨hrefuse, -⟩ := hclosed hregisters
  obtain ⟨hlate, hrefused, hsame⟩ := hrefuse (by rw [hdown])
  refine ⟨horder, hlater, ?_, ?_, hin.starved, hin.accepted, hin.created, hjoined.accepted,
    hjoined.created, hlate, hrefused, hsame⟩
  · have hunbalanced := hback.refused
    rw [hheld] at hunbalanced
    exact hunbalanced
  · have hdestroyed := hback.destroyed
    rw [hheld] at hdestroyed
    exact hdestroyed

end Tenancy
end NullMiddleware
