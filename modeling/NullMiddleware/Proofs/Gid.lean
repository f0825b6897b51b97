import Mathlib.Data.Nat.Digits.Defs
import Mathlib.Tactic.Common
import NullMiddleware.Gid

/-!
What gids tell.

The bytes of a gid give the id and the kind of its endpoint back, so gids that are issued here are
equal for equal ids and kinds only. Comparing answers for gids from here alone; between those it
is equality, although it looks at the bytes and not at the name.
-/

namespace NullMiddleware

/-- The kind that a byte stands for. -/
def Side.ofCode? (code : UInt8) : Option Side :=
  if code = 1 then some .publisher else if code = 2 then some .subscription else none

lemma Side.ofCode?_code (k : Side) : Side.ofCode? k.code = some k := by
  cases k <;> rfl

attribute [ext] Gid

namespace Gid

/-- The number that some bytes stand for, the least significant first. -/
def number (bytes : List UInt8) : Nat := Nat.ofDigits 256 (bytes.map UInt8.toNat)

/-- The bytes of a gid stand for a kind and an id, and nothing else is in them. -/
structure Encodes (data : Vector UInt8 gidSize) (kind : Side) (id : UInt64) : Prop where
  id : number (data.toList.take 8) = id.toNat
  kind : Side.ofCode? (data.get ⟨8, by decide⟩) = some kind
  rest : data.toList.drop 9 = List.replicate 15 0

lemma toNat_wordByte (w : UInt64) {i : Nat} (hi : i < 8) :
    (wordByte w i).toNat = w.toNat >>> (8 * i) % 256 := by
  have hshift : (8 * i).toUInt64.toNat % 64 = 8 * i := by
    rw [Nat.toUInt64_eq, UInt64.toNat_ofNat_of_lt' (by rw [UInt64.size]; omega)]
    omega
  rw [wordByte, UInt64.toNat_toUInt8, UInt64.toNat_shiftRight, hshift]

variable {k j : Side} {v w : UInt64}

lemma ofEndpoint_data (k : Side) (v : UInt64) {i : Nat} (hi : i < gidSize) :
    (ofEndpoint k v).data[i] = if i < 8 then wordByte v i else if i = 8 then k.code else 0 := by
  simp [ofEndpoint]

lemma number_bytes (w : UInt64) : number ((List.range 8).map (wordByte w)) = w.toNat := by
  have hbyte : ∀ i ∈ List.range 8, (UInt8.toNat ∘ wordByte w) i = w.toNat / 256 ^ i % 256 := by
    intro i hi
    rw [Function.comp_apply, toNat_wordByte w (List.mem_range.mp hi), Nat.shiftRight_eq_div_pow,
      Nat.pow_mul]
  have hw := w.toNat_lt
  rw [number, List.map_map, List.map_congr_left hbyte]
  simp only [List.range_succ, List.range_zero, List.nil_append, List.map_cons, List.map_nil,
    List.cons_append, Nat.ofDigits_cons, Nat.ofDigits_nil]
  norm_num
  omega

lemma encodes_ofEndpoint (k : Side) (v : UInt64) : Encodes (ofEndpoint k v).data k v := by
  have hsize : (ofEndpoint k v).data.toList.length = 24 := Vector.length_toList
  refine ⟨?_, ?_, ?_⟩
  · have hbytes : (ofEndpoint k v).data.toList.take 8 = (List.range 8).map (wordByte v) := by
      refine List.ext_getElem (by simp [hsize]) ?_
      intro i hi hi'
      have hlt : i < 8 := by simpa using hi'
      simp [ofEndpoint_data, hlt]
    rw [hbytes, number_bytes]
  · have hcode : (ofEndpoint k v).data.get ⟨8, by decide⟩ = k.code :=
      ofEndpoint_data k v (i := 8) (by decide)
    rw [hcode]
    exact Side.ofCode?_code k
  · refine List.ext_getElem (by simp [hsize]) ?_
    intro i hi hi'
    rw [List.getElem_drop, Vector.getElem_toList, ofEndpoint_data, if_neg (by omega),
      if_neg (by omega), List.getElem_replicate]

lemma Encodes.unique {data : Vector UInt8 gidSize} (h : Encodes data k v)
    (h' : Encodes data j w) : k = j ∧ v = w := by
  have hkind : some k = some j := h.kind.symm.trans h'.kind
  have hid : v.toNat = w.toNat := h.id.symm.trans h'.id
  exact ⟨Option.some.inj hkind, UInt64.toNat_inj.mp hid⟩

lemma ofEndpoint_inj : ofEndpoint k v = ofEndpoint j w ↔ k = j ∧ v = w := by
  constructor
  · intro h
    have hk := encodes_ofEndpoint k v
    rw [h] at hk
    exact hk.unique (encodes_ofEndpoint j w)
  · rintro ⟨rfl, rfl⟩
    rfl

lemma checkOwn_eq (g : Gid) :
    g.checkOwn = if g.implementation = implementationIdentifier then .ok ()
      else .error (.incorrectImplementation implementationIdentifier g.implementation) := by
  by_cases h : g.implementation = implementationIdentifier <;> simp [checkOwn, isOwn, h]

/-- The first gid is checked before the second, and gids from here are compared as a whole. -/
lemma compare_eq (a b : Gid) :
    a.compare b =
      if a.implementation ≠ implementationIdentifier then
        .error (.incorrectImplementation implementationIdentifier a.implementation)
      else if b.implementation ≠ implementationIdentifier then
        .error (.incorrectImplementation implementationIdentifier b.implementation)
      else .ok (decide (a = b)) := by
  rw [compare, checkOwn_eq, checkOwn_eq]
  by_cases ha : a.implementation = implementationIdentifier
  · by_cases hb : b.implementation = implementationIdentifier
    · have hdata : (a.data == b.data) = decide (a = b) := by
        rw [Bool.eq_iff_iff, beq_iff_eq, decide_eq_true_iff]
        constructor
        · intro h
          exact Gid.ext (ha.trans hb.symm) h
        · intro h
          rw [h]
      simp only [ha, hb, hdata, if_true, ne_eq, not_true_eq_false, if_false]
      rfl
    · simp only [ha, hb, if_true, if_false, ne_eq, not_true_eq_false, not_false_eq_true]
      rfl
  · simp only [ha, if_false, ne_eq, not_false_eq_true, if_true]
    rfl

lemma compare_own {a b : Gid} (ha : a.implementation = implementationIdentifier)
    (hb : b.implementation = implementationIdentifier) : a.compare b = .ok (decide (a = b)) := by
  rw [compare_eq, if_neg (not_not.mpr ha), if_neg (not_not.mpr hb)]

/-- Gids from here tell endpoints apart by their kinds and their ids. -/
lemma compare_ofEndpoint :
    (ofEndpoint k v).compare (ofEndpoint j w) = .ok (decide (k = j ∧ v = w)) := by
  rw [compare_own rfl rfl]
  exact congrArg Except.ok (decide_eq_decide.mpr ofEndpoint_inj)

lemma isOk_compare (a b : Gid) :
    (a.compare b).isOk ↔
      a.implementation = implementationIdentifier ∧
      b.implementation = implementationIdentifier := by
  rw [compare_eq]
  by_cases ha : a.implementation = implementationIdentifier <;>
    by_cases hb : b.implementation = implementationIdentifier <;>
    simp [ha, hb, Except.isOk, Except.toBool]

lemma toOption_compare (a b : Gid) :
    (a.compare b).toOption =
      if a.implementation = implementationIdentifier ∧
        b.implementation = implementationIdentifier then some (decide (a = b)) else none := by
  rw [compare_eq]
  by_cases ha : a.implementation = implementationIdentifier <;>
    by_cases hb : b.implementation = implementationIdentifier <;>
    simp [ha, hb, Except.toOption]

/-- A gid that was issued here. -/
abbrev Own := {g : Gid // g.implementation = implementationIdentifier}

lemma compare_own_iff (a b : Own) : a.1.compare b.1 = .ok true ↔ a = b := by
  rw [compare_own a.2 b.2, Subtype.ext_iff]
  constructor
  · intro h
    exact of_decide_eq_true (Except.ok.inj h)
  · intro h
    rw [decide_eq_true h]

/-- **Gids are read back and compared.** The bytes of every endpoint's gid stand for its kind and
id, so that gids of endpoints are equal for equal kinds and ids only. Comparing two gids answers
when both were issued here and tells then whether they are equal; otherwise it names the
implementation of the first one that was not. On gids from here it is an equivalence, and
swapping the two changes no answer. -/
theorem gids_are_read_back_and_compared :
    (∀ k v, Encodes (ofEndpoint k v).data k v) ∧
    (∀ k j v w, ofEndpoint k v = ofEndpoint j w ↔ k = j ∧ v = w) ∧
    (∀ a b : Gid, (a.compare b).isOk ↔
      a.implementation = implementationIdentifier ∧
      b.implementation = implementationIdentifier) ∧
    (∀ a b : Gid, a.compare b =
      if a.implementation ≠ implementationIdentifier then
        .error (.incorrectImplementation implementationIdentifier a.implementation)
      else if b.implementation ≠ implementationIdentifier then
        .error (.incorrectImplementation implementationIdentifier b.implementation)
      else .ok (decide (a = b))) ∧
    (Equivalence fun a b : Own => a.1.compare b.1 = .ok true) ∧
    (∀ a b : Gid, (a.compare b).toOption = (b.compare a).toOption) := by
  refine ⟨encodes_ofEndpoint, fun _ _ _ _ => ofEndpoint_inj, isOk_compare, compare_eq, ?_, ?_⟩
  · have hequal : (fun a b : Own => a.1.compare b.1 = .ok true) = (· = ·) := by
      ext a b
      exact compare_own_iff a b
    rw [hequal]
    exact eq_equivalence
  · intro a b
    have hequal : decide (a = b) = decide (b = a) := decide_eq_decide.mpr eq_comm
    rw [toOption_compare, toOption_compare, hequal]
    exact if_congr and_comm rfl rfl

end Gid
end NullMiddleware
