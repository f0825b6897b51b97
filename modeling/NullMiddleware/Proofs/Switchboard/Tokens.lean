import Mathlib.Data.Fin.VecNotation
import NullMiddleware.Proofs.Schedule
import NullMiddleware.Proofs.Switchboard.Labels

/-!
One handler for many latches.

A listener is registered under a token, which it is given back with every call. If each latch has a
token of its own, a handler that serves them all can tell them apart: what it hears under a token is
what it would hear if there were no other latch.
-/

namespace NullMiddleware.Switchboard

open Latch (Operation Report)

def source (token : UInt64) : Listener := { handler := 0, token := some token }

def family {n : Nat} (label : String) (modes : Fin n → Granularity) : Switchboard where
  latches := Array.ofFn fun i => .new (modes i)
  handlers := #[{ label }]

def operateUnder (token : UInt64) (k : Nat) (b : Switchboard) (op : Operation Unit) :
    (Ending × Report Call) × Switchboard :=
  operate k b (op.map fun _ => source token)

/-- An operation on one of several latches, under the latch's own token. -/
def operateAmong {n : Nat} (token : Fin n → UInt64) (b : Switchboard) (a : Fin n × Operation Unit) :
    (Fin n × Ending × Report Call) × Switchboard :=
  let (seen, b) := b.operateUnder (token a.1) a.1 a.2
  ((a.1, seen), b)

variable {labels : Nat → Option String} {token : UInt64} {k : Nat} {b alone : Switchboard}

/-- The listener of latch `k`, if it has one, is registered under this token. -/
def Keyed (token : UInt64) (k : Nat) (b : Switchboard) : Prop :=
  ∃ l : Latch Unit, b.latch k = l.map fun _ => source token

lemma token_of_mem_calls (l : Latch Unit) (op : Operation Unit) (call : Call)
    (h : call ∈ (((l.map fun _ => source token).perform (op.map fun _ => source token)).1.expand
      (heard labels)).calls) : call.token = some token := by
  rw [Latch.perform_map] at h
  obtain ⟨told, htold, hheard⟩ := List.mem_flatMap.mp h
  obtain ⟨own, -, hown⟩ := List.mem_flatMap.mp htold
  rw [List.mem_singleton.mp hown] at hheard
  obtain ⟨label, -, rfl⟩ := Option.map_eq_some_iff.mp (Option.mem_toList.mp hheard)
  rfl

/-- Operations on a keyed latch leave it keyed, and are recorded under its token. -/
lemma Keyed.operateUnder (h : b.Keyed token k) (hrecords : Records labels b)
    (present : k < b.latches.size) (op : Operation Unit) :
    (b.operateUnder token k op).2.Keyed token k ∧
      ∀ call ∈ (b.operateUnder token k op).1.2.calls, call.token = some token := by
  obtain ⟨l, hl⟩ := h
  obtain ⟨hseen, hlatches, -⟩ := hrecords.operate present (op.map fun _ => source token)
  refine ⟨⟨(l.perform op).2, ?_⟩, ?_⟩
  · rw [Switchboard.operateUnder, latch_of_latches present hlatches, hl, Latch.perform_map]
  · rw [Switchboard.operateUnder, hseen, hl]
    exact token_of_mem_calls l op

/-- What there is of latch `k` on the board is all there is on the other one, which has no other
latch. -/
structure Mirrors (token : UInt64) (k : Nat) (b alone : Switchboard) : Prop where
  present : k < b.latches.size
  single : 0 < alone.latches.size
  latch : b.latch k = alone.latch 0
  keyed : b.Keyed token k
  record : b.record.toList.filter (·.token = some token) = alone.record.toList

lemma Mirrors.operate (h : Mirrors token k b alone) (hb : Records labels b)
    (halone : Records labels alone) (op : Operation Unit) :
    (alone.operateUnder token 0 op).1 = (b.operateUnder token k op).1 ∧
      Mirrors token k (b.operateUnder token k op).2 (alone.operateUnder token 0 op).2 := by
  obtain ⟨hkeyed, hcalls⟩ := h.keyed.operateUnder hb h.present op
  obtain ⟨hseen, hlatches, -⟩ := hb.operate h.present (op.map fun _ => source token)
  obtain ⟨hseen', hlatches', -⟩ := halone.operate h.single (op.map fun _ => source token)
  have hsame : (alone.operateUnder token 0 op).1 = (b.operateUnder token k op).1 := by
    rw [Switchboard.operateUnder, Switchboard.operateUnder, hseen, hseen', h.latch]
  refine ⟨hsame, ?_, ?_, ?_, hkeyed, ?_⟩
  · rw [Switchboard.operateUnder, hlatches, size_setLatch]
    exact h.present
  · rw [Switchboard.operateUnder, hlatches', size_setLatch]
    exact h.single
  · rw [Switchboard.operateUnder, Switchboard.operateUnder, latch_of_latches h.present hlatches,
      latch_of_latches h.single hlatches', h.latch]
  · have hkept : (b.operateUnder token k op).1.2.calls.filter (·.token = some token) =
        (b.operateUnder token k op).1.2.calls :=
      List.filter_eq_self.mpr fun call hmem => decide_eq_true (hcalls call hmem)
    have hrecord := hb.record_operate k (op.map fun _ => source token)
    have hrecord' := halone.record_operate 0 (op.map fun _ => source token)
    unfold Switchboard.operateUnder at hsame hkept ⊢
    rw [hrecord, hrecord', List.filter_append, h.record, hkept, hsame]

lemma Mirrors.operate_other (h : Mirrors token k b alone) (hb : Records labels b) {other : UInt64}
    (distinct : other ≠ token) {j : Nat} (hne : k ≠ j) (present : j < b.latches.size)
    (keyed : b.Keyed other j) (op : Operation Unit) :
    Mirrors token k (b.operateUnder other j op).2 alone := by
  obtain ⟨-, hcalls⟩ := keyed.operateUnder hb present op
  obtain ⟨-, hlatches, -⟩ := hb.operate present (op.map fun _ => source other)
  have hlatch : (b.operateUnder other j op).2.latch k = b.latch k := by
    rw [Switchboard.operateUnder, latch_congr hlatches, latch_setLatch_of_ne hne]
  refine ⟨?_, h.single, hlatch.trans h.latch, ?_, ?_⟩
  · rw [Switchboard.operateUnder, hlatches, size_setLatch]
    exact h.present
  · obtain ⟨l, hl⟩ := h.keyed
    exact ⟨l, hlatch.trans hl⟩
  · have hnone : (b.operateUnder other j op).1.2.calls.filter (·.token = some token) = [] := by
      refine List.filter_eq_nil_iff.mpr ?_
      intro call hmem
      simpa [hcalls call hmem] using distinct
    have hrecord := hb.record_operate j (op.map fun _ => source other)
    unfold Switchboard.operateUnder at hnone ⊢
    rw [hrecord, List.filter_append, hnone, List.append_nil, h.record]

/-! ### Families -/

variable {n : Nat}

lemma records_family (label : String) (modes : Fin n → Granularity) :
    Records (family label modes).label? (family label modes) := by
  refine ⟨?_, fun _ => rfl⟩
  intro k h hk
  obtain ⟨hlt, rfl⟩ := Array.getElem?_eq_some_iff.mp hk
  obtain rfl : k = 0 := Nat.lt_one_iff.mp hlt
  exact ⟨rfl, rfl⟩

lemma latch_family (label : String) (modes : Fin n → Granularity) (i : Fin n) :
    (family label modes).latch i = .new (modes i) := by
  simp [family, latch]

lemma mirrors_family (label : String) (modes : Fin n → Granularity) (token : UInt64) (i : Fin n) :
    Mirrors token i (family label modes) (family label fun _ : Fin 1 => modes i) := by
  have hlatch := latch_family label modes i
  refine ⟨by simp [family], by simp [family], ?_, ⟨.new (modes i), hlatch⟩, rfl⟩
  rw [hlatch]
  exact (latch_family label (fun _ : Fin 1 => modes i) 0).symm

/-- The boards that have one latch each, beside the board that has them all. -/
structure Splits (labels : Nat → Option String) (token : Fin n → UInt64) (b : Switchboard)
    (boards : Fin n → Switchboard) : Prop where
  records : Records labels b
  each : ∀ i, Records labels (boards i) ∧ Mirrors (token i) i b (boards i)

lemma Splits.operate {token : Fin n → UInt64} (distinct : Function.Injective token)
    {boards : Fin n → Switchboard} (h : Splits labels token b boards) (a : Fin n × Operation Unit) :
    (Schedule.apart (fun i => operateUnder (token i) 0) boards a).1 = (b.operateAmong token a).1 ∧
      Splits labels token (b.operateAmong token a).2
        (Schedule.apart (fun i => operateUnder (token i) 0) boards a).2 := by
  obtain ⟨j, op⟩ := a
  obtain ⟨hown, hmirrors⟩ := h.each j
  obtain ⟨hseen, hafter⟩ := hmirrors.operate h.records hown op
  refine ⟨Prod.ext rfl hseen, (h.records.operate hmirrors.present _).2.2, ?_⟩
  intro i
  by_cases hi : i = j
  · subst hi
    simp only [Schedule.apart, Function.update_self]
    exact ⟨(hown.operate hmirrors.single _).2.2, hafter⟩
  · obtain ⟨hother, hmirror⟩ := h.each i
    have hne : token j ≠ token i := fun heq => hi (distinct heq).symm
    simp only [Schedule.apart, Function.update_of_ne hi]
    exact ⟨hother, hmirror.operate_other h.records hne (Fin.val_ne_of_ne hi) hmirrors.present
      hmirrors.keyed op⟩

/-- **One handler can tell many latches apart.** Each latch of a family has its own token, under
which all its listeners are registered; the listeners are one handler. Whatever is done with the
latches, in any order, the handler hears under each token exactly what it would hear if the latch of
that token were the only one. All else that is seen of the latch is the same too: how its
operations end, what its polls answer, and what is pending afterwards. -/
theorem one_handler_tells_latches_apart (label : String) (modes : Fin n → Granularity)
    (token : Fin n → UInt64) (distinct : Function.Injective token)
    (ops : List (Fin n × Operation Unit)) (i : Fin n) :
    let all := family label modes
    let alone := family label fun _ : Fin 1 => modes i
    let last := Run.final (operateAmong token) all ops
    let own := Run.final (operateUnder (token i) 0) alone (Schedule.part i ops)
    last.record.toList.filter (·.token = some (token i)) = own.record.toList ∧
      Schedule.part i (Run.outcomes (operateAmong token) all ops) =
        Run.outcomes (operateUnder (token i) 0) alone (Schedule.part i ops) ∧
      last.latch i = own.latch 0 := by
  intro all alone last own
  have hstart : Splits all.label? token all fun i => family label fun _ : Fin 1 => modes i :=
    ⟨records_family label modes, fun i =>
      ⟨records_family label fun _ : Fin 1 => modes i, mirrors_family label modes (token i) i⟩⟩
  have hsimulates : ∀ b boards, ∀ a ∈ ops, Splits all.label? token b boards →
      (Schedule.apart (fun i => operateUnder (token i) 0) boards a).1 =
          id (b.operateAmong token a).1 ∧
        Splits all.label? token (b.operateAmong token a).2
          (Schedule.apart (fun i => operateUnder (token i) 0) boards a).2 :=
    fun _ _ a _ h => h.operate distinct a
  obtain ⟨houtcomes, hsplits⟩ := Run.simulates hsimulates hstart
  obtain ⟨hpart, hfinal⟩ := Schedule.run_apart (fun i => operateUnder (token i) 0) i
    (fun i => family label fun _ : Fin 1 => modes i) ops
  rw [houtcomes, List.map_id] at hpart
  have hmirrors := (hsplits.each i).2
  rw [hfinal] at hmirrors
  exact ⟨hmirrors.record, hpart, hmirrors.latch⟩

/-- Of two latches one has a backlog of two when the handler comes, and the other one is triggered
in between. -/
theorem two_latches_told_apart :
    let modes : Fin 2 → Granularity := ![.coalesced, .perEvent]
    let token : Fin 2 → UInt64 := ![7, 9]
    let ops : List (Fin 2 × Operation Unit) :=
      [(0, .trigger), (1, .register (some ()) true), (0, .trigger), (1, .trigger), (0, .poll),
        (0, .trigger), (0, .register (some ()) true), (1, .trigger), (0, .trigger)]
    let last := Run.final (operateAmong token) (family "h" modes) ops
    Function.Injective token ∧
      last.record.toList =
        [⟨"h", some 9, 1⟩, ⟨"h", some 7, 1⟩, ⟨"h", some 9, 1⟩, ⟨"h", some 7, 1⟩] ∧
      last.record.toList.filter (·.token = some (token 0)) =
        [⟨"h", some 7, 1⟩, ⟨"h", some 7, 1⟩] := by
  intro modes token ops last
  have distinct : Function.Injective token := by decide
  obtain ⟨hrecord, -, -⟩ := one_handler_tells_latches_apart "h" modes token distinct ops 0
  refine ⟨distinct, by decide +kernel, ?_⟩
  rw [hrecord]
  decide +kernel

end NullMiddleware.Switchboard
