import NullMiddleware.Proofs.Lifecycle.BusyPeriod
import NullMiddleware.Proofs.Schedule

/-!
What a shutdown leaves to happen.

Whoever is registered when a lifecycle is shut down may stay and give back later, but nobody new is
let in. So the count can only fall, and with the last registration the resource goes for good.
-/

namespace NullMiddleware

variable {F R E : Type}

/-! ### One lifecycle -/

lemma countP_deeds_made {trace : List (FactoryCall R ⊕ E)}
    (h : ∀ outcome, .inl (.create outcome) ∉ trace) : (deeds trace).countP Deed.isMade = 0 := by
  refine List.countP_eq_zero.mpr ?_
  intro deed hdeed hmade
  obtain ⟨entry, hentry, heq⟩ := List.mem_filterMap.mp hdeed
  split at heq
  · exact h _ hentry
  · cases heq
    simp [Deed.isMade] at hmade
  · simp at heq

lemma Idle.uncreated {trace : List (FactoryCall R ⊕ E)} (h : Idle trace) (outcome : Creation R) :
    .inl (.create outcome) ∉ trace := by
  intro hmem
  obtain ⟨resource, hcall⟩ := h _ hmem
  cases hcall

namespace Lifecycle

lemma acquire_shutDown (f : Factory F R E) (l : Lifecycle F R) :
    (l.acquire f).state.shutDown = l.shutDown := by
  have hacquired := acquired f l
  generalize l.acquire f = turn at hacquired
  cases hacquired <;> rfl

lemma release_shutDown (f : Factory F R E) {l : Lifecycle F R} (h : l.Housed) :
    (l.release f).state.shutDown = l.shutDown := by
  have hreleased := released f h
  generalize l.release f = turn at hreleased
  cases hreleased <;> rfl

lemma Housed.toNat_isSome {l : Lifecycle F R} (h : l.Housed) :
    l.resource.isSome.toNat = if 0 < l.count then 1 else 0 := by
  by_cases hbusy : 0 < l.count
  · rw [if_pos hbusy, h.mpr hbusy]
    rfl
  · rw [if_neg hbusy, Bool.eq_false_iff.mpr fun hsome => hbusy (h.mp hsome)]
    rfl

lemma acquire_refused (f : Factory F R E) {l : Lifecycle F R} (down : l.shutDown) :
    l.acquire f = ⟨.returned (.error .contextShutDown), l, []⟩ := by
  rw [acquire, if_pos down]

lemma release_uncreated (f : Factory F R E) {l : Lifecycle F R} (h : l.Housed)
    (outcome : Creation R) : .inl (.create outcome) ∉ (l.release f.recorded).trace := by
  have hreleased := released f.recorded h
  generalize l.release f.recorded = turn at hreleased
  cases hreleased with
  | unbalanced idle => simp
  | left busy => simp
  | destroyed last present destroyed =>
    obtain ⟨es, rfl⟩ := destroy_recorded destroyed
    simp
  | panicked last present panicked =>
    obtain ⟨es, rfl⟩ := destroy_recorded panicked
    simp

lemma succeeds_acquire_iff (f : Factory F R E) {l : Lifecycle F R} (up : l.shutDown = false) :
    succeeds (l.acquire f.recorded).exit ↔
      (l.count = 0 → ∃ r, .inl (.create (.made r)) ∈ (l.acquire f.recorded).trace) := by
  have hacquired := acquired f.recorded l
  generalize l.acquire f.recorded = turn at hacquired
  cases hacquired with
  | refused down => simp [up] at down
  | joined up busy => simp [succeeds, busy.ne']
  | @made r _ _ up idle made =>
    obtain ⟨es, rfl⟩ := create_recorded made
    simp only [succeeds, true_iff]
    exact fun _ => ⟨r, by simp⟩
  | failed up idle failed =>
    obtain ⟨es, rfl⟩ := create_recorded failed
    simp [succeeds, idle]
  | panicked up idle panicked =>
    obtain ⟨es, rfl⟩ := create_recorded panicked
    simp [succeeds, idle]

end Lifecycle

namespace Tenancy

/-! ### One call -/

/-- The call is refused for a shutdown, and leaves no mark. -/
structure Event.Refused (e : Event F R E) : Prop where
  exit : e.exit = .returned (.error .contextShutDown)
  trace : e.trace = []
  after : e.after = some e.before

/-- The call lets nobody in. -/
structure Event.Waning (e : Event F R (FactoryCall R ⊕ E)) : Prop where
  refused : e.call.registers → e.Refused
  uncreated : ∀ outcome, .inl (.create outcome) ∉ e.trace
  count : ∀ l ∈ e.after, l.count ≤ e.before.count

lemma countP_frees_eq_zero {es : List (Event F R E)} (h : ∀ e ∈ es, e.call.registers) :
    es.countP Event.frees = 0 :=
  List.countP_eq_zero.mpr fun e he => by simp [Event.frees_of_registers (h e he)]

lemma Event.grants_of_refused {e : Event F R E} (h : e.call.registers → e.Refused) :
    e.grants = false := by
  rw [e.grants_eq]
  rcases hregisters : e.call.registers
  · rfl
  · simp [(h hregisters).exit, Lifecycle.succeeds]

lemma step_registers (f : Factory F R E) {t : Tenancy F R} {s : Shared F R}
    (present : t.shared = some s) {call : Call} (h : call.registers) :
    (step f t call).1 = some ⟨call, s.lifecycle, (s.lifecycle.acquire f).exit,
        (s.lifecycle.acquire f).trace, some (s.lifecycle.acquire f).state⟩ ∧
      ∃ s', (step f t call).2.shared = some s' ∧ s'.lifecycle = (s.lifecycle.acquire f).state := by
  cases call with
  | acquire => simp [step, present, perform, lifecycle?]
  | join => simp [step, present, perform, lifecycle?, Shared.join]
  | _ => simp [Call.registers] at h

/-- The lifecycle, if it is still there, is shut down. -/
def Closed (t : Tenancy F R) : Prop := ∀ l ∈ t.lifecycle?, l.Housed ∧ l.shutDown

lemma Event.Leaves.shutDown {f : Factory F R E} {e : Event F R (FactoryCall R ⊕ E)}
    {l : Lifecycle F R} (h : e.Leaves f l) (housed : e.before.Housed) (down : e.before.shutDown) :
    l.shutDown := by
  cases h with
  | registers asks exit trace state =>
    rw [state, Lifecycle.acquire_shutDown]
    exact down
  | givesBack call more idle trace state =>
    rw [state, Lifecycle.release_shutDown f.recorded housed]
    exact down
  | shutsDown call trace state =>
    rw [state]
    rfl
  | stays call idle state =>
    rw [state]
    exact down

lemma Event.Leaves.uncreated {f : Factory F R E} {e : Event F R (FactoryCall R ⊕ E)}
    {l : Lifecycle F R} (h : e.Leaves f l) (housed : e.before.Housed) (down : e.before.shutDown)
    (outcome : Creation R) : .inl (.create outcome) ∉ e.trace := by
  cases h with
  | registers asks exit trace state =>
    rw [trace, Lifecycle.acquire_refused _ down]
    simp
  | givesBack call more idle trace state =>
    rw [trace, List.mem_append, not_or]
    exact ⟨Lifecycle.release_uncreated f housed outcome, idle.uncreated outcome⟩
  | shutsDown call trace state =>
    rw [trace]
    simp
  | stays call idle state => exact idle.uncreated outcome

lemma Closed.step {f : Factory F R E} {t : Tenancy F R} (h : t.Closed) (call : Call) :
    (∀ e ∈ (step f.recorded t call).1, e.Waning) ∧ (step f.recorded t call).2.Closed := by
  rcases hs : t.shared with _ | s
  · have hstep : Tenancy.step f.recorded t call = (none, t) := by rw [Tenancy.step, hs]
    rw [hstep]
    exact ⟨by simp, h⟩
  · obtain ⟨hhoused, hdown⟩ := h s.lifecycle (by simp [lifecycle?, hs])
    rcases step_cases f hs call with
      hnone | ⟨e, l', hsome, hcall, hbefore, hleaves, hafter, hl'⟩
    · rw [hnone]
      exact ⟨by simp, h⟩
    · have hstate : ∀ l ∈ (Tenancy.step f.recorded t call).2.lifecycle?, l = l' := by
        intro l hl
        obtain ⟨s', hs', rfl⟩ := Option.map_eq_some_iff.mp hl
        exact hl' s' hs'
      have hrefused : e.call.registers → e.Refused := by
        intro hregisters
        have hstep := (step_registers f.recorded hs (hcall ▸ hregisters)).1
        rw [hsome, Lifecycle.acquire_refused _ hdown] at hstep
        cases hstep
        exact ⟨rfl, rfl, rfl⟩
      rw [← hbefore] at hhoused hdown
      have hcareful := hleaves.careful hhoused
      refine ⟨?_, fun l hl => ?_⟩
      · rw [hsome]
        rintro e' ⟨⟩
        refine ⟨hrefused, hleaves.uncreated hhoused hdown, ?_⟩
        intro l hl
        have hcount := hcareful.count
        rw [hafter] at hl
        rw [hstate l hl]
        rw [Event.grants_of_refused hrefused, Bool.toNat_false] at hcount
        omega
      · rw [hstate l hl]
        exact ⟨hcareful.housed, hleaves.shutDown hhoused hdown⟩

/-! ### A whole run -/

lemma closed_of_mem (f : Factory F R E) (start : F) {before : List Call}
    (h : .shutdown ∈ before) : (Run.final (step f.recorded) (new start) before).Closed := by
  obtain ⟨u, v, rfl⟩ := List.append_of_mem h
  rw [Run.final_append, Run.final_cons]
  refine (Run.keeps_events (Q := fun _ => True)
    (fun t call _ ht => ⟨fun _ _ => trivial, (ht.step (f := f) call).2⟩) ?_).2
  obtain ⟨-, last, hhoused, -, -, hlast⟩ :=
    run_last f (t := new start) rfl (by simp [Lifecycle.Housed]) u
  intro l hl
  rcases hshared : (Run.final (step f.recorded) (new start) u).shared with _ | s
  · rw [step, hshared] at hl
    simp [lifecycle?, hshared] at hl
  · rw [step, hshared] at hl
    cases hl
    refine ⟨?_, rfl⟩
    have hs : s.lifecycle = last := hlast s.lifecycle (by simp [lifecycle?, hshared])
    rw [← hs] at hhoused
    exact hhoused

/-- After a shutdown the registrations can only become fewer. The resource is destroyed if all are
given back, and otherwise it stays. -/
lemma Closed.run {f : Factory F R E} {t : Tenancy F R} (h : t.Closed) (calls : List Call) :
    (∀ e ∈ Run.events (Tenancy.step f.recorded) t calls, e.Waning) ∧
      (Run.final (Tenancy.step f.recorded) t calls).Closed ∧
      ∀ l ∈ t.lifecycle?,
        (Run.events (Tenancy.step f.recorded) t calls).countP Event.frees ≤ l.count ∧
        ((Run.events (Tenancy.step f.recorded) t calls).flatMap (deeds ·.trace)).countP
            Deed.isDestroyed =
          (if 0 < l.count ∧
              (Run.events (Tenancy.step f.recorded) t calls).countP Event.frees = l.count
            then 1 else 0) ∧
        ∀ l' ∈ (Run.final (Tenancy.step f.recorded) t calls).lifecycle?,
          l'.count + (Run.events (Tenancy.step f.recorded) t calls).countP Event.frees =
            l.count := by
  have hkept : (∀ e ∈ Run.events (Tenancy.step f.recorded) t calls, e.Waning) ∧
      (Run.final (Tenancy.step f.recorded) t calls).Closed :=
    Run.keeps_events (fun _ call _ ht => ht.step call) h
  obtain ⟨hwaning, hclosed⟩ := hkept
  refine ⟨hwaning, hclosed, ?_⟩
  intro l hl
  obtain ⟨s, hs, rfl⟩ := Option.map_eq_some_iff.mp hl
  have hfirst := (h s.lifecycle hl).1
  obtain ⟨-, last, hhoused, hsuccession, hcount, hlast⟩ := run_last f hs hfirst calls
  generalize Run.events (Tenancy.step f.recorded) t calls = es at *
  have hgranted : es.countP Event.grants = 0 := by
    refine List.countP_eq_zero.mpr ?_
    intro e he
    simp [Event.grants_of_refused (hwaning e he).refused]
  have hmade : (es.flatMap (deeds ·.trace)).countP Deed.isMade = 0 := by
    refine List.countP_eq_zero.mpr ?_
    intro deed hdeed
    obtain ⟨e, he, hmem⟩ := List.mem_flatMap.mp hdeed
    exact List.countP_eq_zero.mp (countP_deeds_made (hwaning e he).uncreated) deed hmem
  -- with nothing made, what is destroyed is what was there and is not any more
  have hbalance := hsuccession.balance
  rw [hmade, hfirst.toNat_isSome, hhoused.toNat_isSome] at hbalance
  refine ⟨by omega, ?_, fun l' hl' => by rw [hlast l' hl']; omega⟩
  split_ifs at hbalance ⊢ <;> omega

/-! ### Registering against a shutdown -/

/-- The call is what the lifecycle that it found makes of a registration. -/
structure Event.Registering (f : Factory F R E) (shutDown : Bool) (e : Event F R E) : Prop where
  call : e.call.registers
  shutDown : e.before.shutDown = shutDown
  exit : e.exit = (e.before.acquire f).exit
  trace : e.trace = (e.before.acquire f).trace
  after : e.after = some (e.before.acquire f).state

lemma run_registers (f : Factory F R E) {t : Tenancy F R} {s : Shared F R}
    (present : t.shared = some s) {calls : List Call} (h : ∀ call ∈ calls, call.registers) :
    (Run.events (step f) t calls).map Event.call = calls ∧
      (∀ e ∈ Run.events (step f) t calls, e.Registering f s.lifecycle.shutDown) ∧
      ∃ s', (Run.final (step f) t calls).shared = some s' ∧
        s'.lifecycle.shutDown = s.lifecycle.shutDown := by
  induction calls generalizing t s with
  | nil => exact ⟨rfl, by simp, s, present, rfl⟩
  | cons call rest ih =>
    have hcall := h call List.mem_cons_self
    obtain ⟨hevent, s', hs', hlifecycle⟩ := step_registers f present hcall
    obtain ⟨hcalls, hevents, hfinal⟩ := ih hs' fun c hc => h c (List.mem_cons_of_mem _ hc)
    have hshut : s'.lifecycle.shutDown = s.lifecycle.shutDown := by
      rw [hlifecycle, Lifecycle.acquire_shutDown]
    rw [hshut] at hevents hfinal
    rw [Run.events_cons, Run.final_cons, hevent]
    refine ⟨by simp [hcalls], ?_, hfinal⟩
    intro e he
    rcases List.mem_cons.mp he with rfl | he
    · exact ⟨hcall, rfl, rfl, rfl, rfl⟩
    · exact hevents e he

open Schedule (Interleaves)

/-- Some threads register, and one shuts down. -/
def closing {T : Type} (programs : T → List Call) : Option T → List Call
  | none => [.shutdown]
  | some i => programs i

/-- Those who ask before the shutdown are let in if the resource is there or can be made, and those
who ask later are not. -/
lemma closing_run (f : Factory F R E) (start : F) {u v : List Call}
    (hu : ∀ call ∈ u, call.registers) (hv : ∀ call ∈ v, call.registers) :
    let early := Run.events (step f.recorded) (new start) u
    let t := Run.final (step f.recorded) (new start) (u ++ [.shutdown])
    let late := Run.events (step f.recorded) t v
    early.map Event.call = u ∧ late.map Event.call = v ∧
      (∀ e ∈ early, Lifecycle.succeeds e.exit ↔
        (e.before.count = 0 → ∃ r, .inl (.create (.made r)) ∈ e.trace)) ∧
      (∀ e ∈ late, e.Refused) ∧
      ∃ l, (Run.final (step f.recorded) (new start) (u ++ .shutdown :: v)).lifecycle? = some l ∧
        l.count = early.countP (Lifecycle.succeeds ·.exit) := by
  intro early t late
  have hfinal : Run.final (step f.recorded) (new start) (u ++ .shutdown :: v) =
      Run.final (step f.recorded) t v := by
    rw [← Run.final_append, List.append_assoc, List.singleton_append]
  obtain ⟨hearly, hregistered, s, hs, hup⟩ := run_registers f.recorded (t := new start) rfl hu
  have ht : t = { shared := some { s with lifecycle := s.lifecycle.shutdown },
                  guards := (Run.final (step f.recorded) (new start) u).guards } := by
    simp only [t, Run.final_append, Run.final_cons, Run.final_nil]
    rw [step, hs]
    rfl
  have hclosed : t.Closed := closed_of_mem f start (List.mem_append_right u (by simp))
  obtain ⟨hlate, hrefused, s', hs', -⟩ := run_registers f.recorded (t := t) (by rw [ht]) hv
  -- Nobody gives back, so the count is that of those let in, and stays after the shutdown.
  have hcountEarly : s.lifecycle.count = early.countP (Lifecycle.succeeds ·.exit) := by
    obtain ⟨-, last, -, -, hcount, hlast⟩ :=
      run_last f (t := new start) rfl (by simp [Lifecycle.Housed]) u
    have hfreed : early.countP Event.frees = 0 :=
      countP_frees_eq_zero fun e he => (hregistered e he).call
    have hgranted : early.countP Event.grants = early.countP (Lifecycle.succeeds ·.exit) := by
      refine List.countP_congr fun e he => ?_
      rw [e.grants_eq, (hregistered e he).call, Bool.true_and]
    have hs_last : s.lifecycle = last := hlast s.lifecycle (by simp [lifecycle?, hs])
    rw [hs_last, ← hgranted]
    simpa [early, hfreed] using hcount
  have hcountLate : s'.lifecycle.count = s.lifecycle.count := by
    obtain ⟨-, -, hrun⟩ := hclosed.run (f := f) v
    obtain ⟨-, -, hcount⟩ := hrun s.lifecycle.shutdown (by rw [ht]; rfl)
    have hfreed : late.countP Event.frees = 0 :=
      countP_frees_eq_zero fun e he => (hrefused e he).call
    have hleft := hcount s'.lifecycle (by simp [lifecycle?, hs'])
    rwa [hfreed] at hleft
  refine ⟨hearly, hlate, ?_, ?_, s'.lifecycle, by simp [hfinal, lifecycle?, hs'], ?_⟩
  · intro e he
    obtain ⟨-, hopen, hexit, htrace, -⟩ := hregistered e he
    rw [hexit, htrace]
    exact Lifecycle.succeeds_acquire_iff f (hopen.trans rfl)
  · intro e he
    obtain ⟨-, hdown, hexit, htrace, hafter⟩ := hrefused e he
    rw [Lifecycle.acquire_refused _ hdown] at hexit htrace hafter
    exact ⟨hexit, htrace, hafter⟩
  · rw [hcountLate, hcountEarly]

/-- **A shutdown is final.** Whatever is called after one, nobody is let in and nothing is made; the
count falls by what is given back, and a resource is destroyed exactly if all is given back. Of any
threads that register while another one shuts down, those are let in that come first and get the
resource if they need it. -/
theorem shutdown_is_final (f : Factory F R E) (start : F) :
    (∀ before after : List Call, .shutdown ∈ before →
      let t := Run.final (step f.recorded) (new start) before
      let es := Run.events (step f.recorded) t after
      let t' := Run.final (step f.recorded) t after
      (∀ e ∈ es, e.Waning) ∧
        (∀ l' ∈ t'.lifecycle?, l'.shutDown) ∧
        ∀ l ∈ t.lifecycle?, es.countP Event.frees ≤ l.count ∧
          (es.flatMap (deeds ·.trace)).countP Deed.isDestroyed =
            (if 0 < l.count ∧ es.countP Event.frees = l.count then 1 else 0) ∧
          ∀ l' ∈ t'.lifecycle?, l'.count + es.countP Event.frees = l.count ∧
            (l.count = 0 → l'.count = 0 ∧ l'.resource = none)) ∧
    ∀ (n : Nat) (programs : Fin n → List Call) (s : List (Option (Fin n) × Call)),
      (∀ i, ∀ call ∈ programs i, call.registers) → Interleaves (closing programs) s →
      ∃ u v : List (Option (Fin n) × Call), s = u ++ (none, .shutdown) :: v ∧
        let early := Run.events (step f.recorded) (new start) (Schedule.calls u)
        let t := Run.final (step f.recorded) (new start) (Schedule.calls u ++ [.shutdown])
        let late := Run.events (step f.recorded) t (Schedule.calls v)
        early.map Event.call = Schedule.calls u ∧ late.map Event.call = Schedule.calls v ∧
          (∀ e ∈ early, Lifecycle.succeeds e.exit ↔
            (e.before.count = 0 → ∃ r, .inl (.create (.made r)) ∈ e.trace)) ∧
          (∀ e ∈ late, e.Refused) ∧
          ∃ l, (Run.final (step f.recorded) (new start) (Schedule.calls s)).lifecycle? = some l ∧
            l.count = early.countP (Lifecycle.succeeds ·.exit) := by
  refine ⟨?_, ?_⟩
  · intro before after hmem t es t'
    have hclosed := closed_of_mem f start hmem
    obtain ⟨hwaning, hshut, hrun⟩ := hclosed.run (f := f) after
    refine ⟨hwaning, fun l' hl' => (hshut l' hl').2, ?_⟩
    intro l hl
    obtain ⟨hfew, hdestroyed, hcount⟩ := hrun l hl
    refine ⟨hfew, hdestroyed, ?_⟩
    intro l' hl'
    have hleft := hcount l' hl'
    refine ⟨hleft, fun hidle => ?_⟩
    have hidle' : l'.count = 0 := Nat.eq_zero_of_add_eq_zero_right (hleft.trans hidle)
    exact ⟨hidle', Lifecycle.resource_of_idle (hshut l' hl').1 hidle'⟩
  · intro n programs s hregisters hs
    obtain ⟨u, v, rfl, hu, hv⟩ := Schedule.exists_of_part_eq_singleton (hs none)
    have hpart : ∀ a ∈ u ++ (none, .shutdown) :: v, a.1 ≠ none → a.2.registers := by
      rintro ⟨thread, call⟩ ha hthread
      obtain ⟨i, rfl⟩ := Option.ne_none_iff_exists'.mp hthread
      exact hregisters i call (hs.mem ha)
    have hcalls : ∀ w : List (Option (Fin n) × Call), w ⊆ u ++ (none, .shutdown) :: v →
        (∀ a ∈ w, a.1 ≠ none) → ∀ call ∈ Schedule.calls w, call.registers := by
      intro w hw hnone call hcall
      obtain ⟨a, ha, rfl⟩ := List.mem_map.mp hcall
      exact hpart a (hw ha) (hnone a ha)
    refine ⟨u, v, rfl, ?_⟩
    have hrun := closing_run f start (hcalls u (by simp) hu) (hcalls v (by simp) hv)
    simpa only [Schedule.calls_append, Schedule.calls_cons] using hrun

/-- Two are registered at the shutdown and go, and the resource with them. Of three who ask, the
first finds that nothing can be made, and the last comes too late. -/
theorem shutdown_among_registrations :
    let start : Script := { outcomes := [.failure .unbalancedRelease] }
    let before : List Call := [.acquire, .acquire, .join, .shutdown]
    let after : List Call := [.acquire, .release, .join, .release, .acquire]
    let es := Run.events (step Script.factory.recorded)
      (Run.final (step Script.factory.recorded) (new start) before) after
    let programs : Fin 2 → List Call := fun i => if i = 0 then [.acquire, .acquire] else [.join]
    let s : List (Option (Fin 2) × Call) :=
      [(some 0, .acquire), (some 1, .join), (none, .shutdown), (some 0, .acquire)]
    .shutdown ∈ before ∧ Interleaves (closing programs) s ∧
      (es.flatMap (deeds ·.trace)).countP Deed.isDestroyed = 1 ∧
      ∃ l, (Run.final (step Script.factory.recorded) (new start) (Schedule.calls s)).lifecycle? =
        some l := by
  intro start before after es programs s
  obtain ⟨hfinal, hrace⟩ := shutdown_is_final Script.factory start
  have hmem : .shutdown ∈ before := by simp [before]
  have hregisters : ∀ i, ∀ call ∈ programs i, call.registers := by decide
  have hs : Interleaves (closing programs) s
    | none => rfl
    | some 0 => rfl
    | some 1 => rfl
  obtain ⟨-, -, hcounts⟩ := hfinal before after hmem
  obtain ⟨-, hdestroyed, -⟩ := hcounts _ rfl
  obtain ⟨-, -, -, -, -, -, -, last, hlast, -⟩ := hrace 2 programs s hregisters hs
  refine ⟨hmem, hs, ?_, last, hlast⟩
  rw [hdestroyed]
  decide +kernel

end Tenancy
end NullMiddleware
