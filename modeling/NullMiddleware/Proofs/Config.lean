import Mathlib.Data.List.TakeWhile
import Mathlib.Tactic.Common
import NullMiddleware.Config

/-!
The domain that an environment asks for.

A domain is written as a decimal number with white space around it; one plus sign before it and
zeros in front of it make no difference. Nothing else is read as a domain.
-/

namespace NullMiddleware

namespace Text

lemma dropWhile_blank {before rest : List Char} (blank : ∀ c ∈ before, isBlank c)
    (dark : ∀ c ∈ rest.head?, isBlank c = false) :
    (before ++ rest).dropWhile isBlank = rest := by
  rw [List.dropWhile_append_of_pos blank]
  rcases rest with _ | ⟨c, rest⟩
  · rfl
  · have hdark := dark c rfl
    rw [List.dropWhile_cons_of_neg (by simp [hdark])]

lemma trim_append {before core after : List Char} (before_blank : ∀ c ∈ before, isBlank c)
    (after_blank : ∀ c ∈ after, isBlank c) (nonempty : core ≠ [])
    (first : ∀ c ∈ core.head?, isBlank c = false)
    (last : ∀ c ∈ core.getLast?, isBlank c = false) : trim (before ++ (core ++ after)) = core := by
  have hhead : (core ++ after).head? = core.head? := by
    rcases core with _ | ⟨c, core⟩
    · exact absurd rfl nonempty
    · rfl
  unfold trim
  rw [dropWhile_blank before_blank (by rwa [hhead]), List.reverse_append, dropWhile_blank,
    List.reverse_reverse]
  · intro c hc
    exact after_blank c (List.mem_reverse.mp hc)
  · rwa [List.head?_reverse]

/-- Nothing but white space is cut off. -/
lemma exists_trim (s : List Char) : ∃ before after, s = before ++ (trim s ++ after) ∧
    (∀ c ∈ before, isBlank c) ∧ ∀ c ∈ after, isBlank c := by
  have hfront := List.takeWhile_append_dropWhile (p := isBlank) (l := s)
  have hback := congrArg List.reverse
    (List.takeWhile_append_dropWhile (p := isBlank) (l := (s.dropWhile isBlank).reverse))
  rw [List.reverse_append, List.reverse_reverse] at hback
  refine ⟨s.takeWhile isBlank, (((s.dropWhile isBlank).reverse).takeWhile isBlank).reverse, ?_, ?_,
    ?_⟩
  · rw [trim, hback, hfront]
  · intro c hc
    exact List.mem_takeWhile_imp hc
  · intro c hc
    exact List.mem_takeWhile_imp (List.mem_reverse.mp hc)

lemma isDigit_iff (c : Char) : isDigit c ↔ 48 ≤ c.toNat ∧ c.toNat ≤ 57 := by
  unfold isDigit
  rw [Bool.and_eq_true, decide_eq_true_iff, decide_eq_true_iff, Char.le_def, Char.le_def,
    UInt32.le_iff_toNat_le, UInt32.le_iff_toNat_le]
  rfl

lemma isBlank_of_isDigit {c : Char} (h : isDigit c) : isBlank c = false := by
  have hrange := (isDigit_iff c).mp h
  unfold isBlank
  simp only [Bool.or_eq_false_iff, Bool.and_eq_false_iff, decide_eq_false_iff_not,
    beq_eq_false_iff_ne]
  omega

lemma readNat?_eq_some_iff (s : List Char) (n : Nat) :
    readNat? s = some n ↔ s ≠ [] ∧ (∀ c ∈ s, isDigit c) ∧ ofDigits s = n := by
  unfold readNat?
  rw [Option.ite_none_right_eq_some, Option.some_inj, List.all_eq_true, and_assoc]

/-- The text is this number in decimal digits, with at most a plus sign before them and white space
around it all. -/
def Writes (s : String) (n : Nat) : Prop :=
  ∃ before sign digits after, s.toList = before ++ (sign ++ digits ++ after) ∧
    (∀ c ∈ before, isBlank c) ∧ (∀ c ∈ after, isBlank c) ∧ (sign = [] ∨ sign = ['+']) ∧
    digits ≠ [] ∧ (∀ c ∈ digits, isDigit c) ∧ ofDigits digits = n

end Text

namespace Config

open Text

/-- What is left of a number without its sign. -/
def unsigned : List Char → List Char
  | '+' :: rest => rest
  | cs => cs

lemma readDomain_eq (s : String) :
    readDomain s = (readNat? (unsigned (trim s.toList))).bind fun n =>
      if n < UInt32.size then some n.toUInt32 else none := rfl

lemma unsigned_append {sign digits : List Char} (hsign : sign = [] ∨ sign = ['+'])
    (hdigits : ∀ c ∈ digits, isDigit c) : unsigned (sign ++ digits) = digits := by
  rcases hsign with rfl | rfl
  · rcases digits with _ | ⟨c, rest⟩
    · rfl
    · have hplus : c ≠ '+' := by
        rintro rfl
        exact absurd (hdigits '+' List.mem_cons_self) (by decide)
      simp [unsigned, hplus]
  · rfl

lemma exists_unsigned (s : List Char) :
    ∃ sign, s = sign ++ unsigned s ∧ (sign = [] ∨ sign = ['+']) := by
  unfold unsigned
  split
  · exact ⟨['+'], rfl, .inr rfl⟩
  · exact ⟨[], rfl, .inl rfl⟩

lemma trim_of_writes {before sign digits after : List Char} (hbefore : ∀ c ∈ before, isBlank c)
    (hafter : ∀ c ∈ after, isBlank c) (hsign : sign = [] ∨ sign = ['+']) (nonempty : digits ≠ [])
    (hdigits : ∀ c ∈ digits, isDigit c) :
    trim (before ++ (sign ++ digits ++ after)) = sign ++ digits := by
  refine trim_append hbefore hafter (List.append_ne_nil_of_right_ne_nil _ nonempty) ?_ ?_
  · intro c hc
    rcases hsign with rfl | rfl
    · exact isBlank_of_isDigit (hdigits c (List.mem_of_mem_head? hc))
    · cases hc
      decide
  · intro c hc
    rw [List.getLast?_append, List.getLast?_eq_some_getLast nonempty, Option.some_or,
      Option.mem_some_iff] at hc
    exact isBlank_of_isDigit (hdigits c (hc ▸ List.getLast_mem nonempty))

/-- A domain is read if and only if it is written. -/
theorem readDomain_eq_some_iff (s : String) (n : UInt32) :
    readDomain s = some n ↔ Writes s n.toNat := by
  rw [readDomain_eq]
  constructor
  · intro h
    obtain ⟨k, hk, hn⟩ := Option.bind_eq_some_iff.mp h
    obtain ⟨nonempty, hdigits, hvalue⟩ := (readNat?_eq_some_iff _ _).mp hk
    obtain ⟨before, after, hs, hbefore, hafter⟩ := exists_trim s.toList
    obtain ⟨sign, htrim, hsign⟩ := exists_unsigned (trim s.toList)
    rw [Option.ite_none_right_eq_some, Option.some_inj] at hn
    refine ⟨before, sign, unsigned (trim s.toList), after, ?_, hbefore, hafter, hsign, nonempty,
      hdigits, ?_⟩
    · rw [← htrim, ← hs]
    · rw [hvalue, ← hn.2]
      exact (UInt32.toNat_ofNat_of_lt' hn.1).symm
  · rintro ⟨before, sign, digits, after, hs, hbefore, hafter, hsign, nonempty, hdigits, hvalue⟩
    have hread : readNat? digits = some n.toNat :=
      (readNat?_eq_some_iff _ _).mpr ⟨nonempty, hdigits, hvalue⟩
    rw [hs, trim_of_writes hbefore hafter hsign nonempty hdigits, unsigned_append hsign hdigits,
      hread, Option.bind_some, if_pos n.toNat_lt]
    simp

end Config

namespace Environment

/-- The variable holds this domain. -/
def Gives (env : Environment) (v : Variable) (n : UInt32) : Prop :=
  ∃ s, env.text? v = some s ∧ Text.Writes s n.toNat

/-- The environment asks for this domain: in this middleware's own variable, or in the common one if
the other gives none. -/
def AsksFor (env : Environment) (n : UInt32) : Prop :=
  env.Gives .domain n ∨ (∀ k, ¬ env.Gives .domain k) ∧ env.Gives .commonDomain n

lemma bind_readDomain_eq_some_iff (env : Environment) (v : Variable) (n : UInt32) :
    (env.text? v).bind Config.readDomain = some n ↔ env.Gives v n := by
  simp only [Option.bind_eq_some_iff, Config.readDomain_eq_some_iff, Gives]

lemma domain_eq_some_iff (env : Environment) (n : UInt32) :
    (Config.ofEnvironment env).domain = some n ↔ env.AsksFor n := by
  have hdomain : (Config.ofEnvironment env).domain =
      ((env.text? .domain).bind Config.readDomain).or
        ((env.text? .commonDomain).bind Config.readDomain) := rfl
  have hnone : (env.text? .domain).bind Config.readDomain = none ↔ ∀ k, ¬ env.Gives .domain k := by
    simp only [Option.eq_none_iff_forall_ne_some, ne_eq, bind_readDomain_eq_some_iff]
  rw [hdomain, Option.or_eq_some_iff, hnone, bind_readDomain_eq_some_iff,
    bind_readDomain_eq_some_iff, AsksFor]

lemma domain_eq_none_iff (env : Environment) :
    (Config.ofEnvironment env).domain = none ↔ ∀ n, ¬ env.AsksFor n := by
  simp only [Option.eq_none_iff_forall_ne_some, ne_eq, domain_eq_some_iff]

end Environment
end NullMiddleware
