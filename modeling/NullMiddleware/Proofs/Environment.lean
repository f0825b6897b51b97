import Mathlib.Data.List.Forall2
import NullMiddleware.Proofs.Config

/-!
The grammar of the environment.

Each variable is read in its own way. A domain is a decimal number, and the white space around it is
cut off first. The other variables are taken with all that they hold: a switch is on if it says one
of two words, and a name stands for itself unless it is empty. What is no UTF-8 is like nothing.
-/

namespace NullMiddleware

namespace Text

/-- This is left of the text without the white space at both its ends. -/
def IsCore (s core : List Char) : Prop :=
  ∃ before after, s = before ++ (core ++ after) ∧ (∀ c ∈ before, isBlank c) ∧
    (∀ c ∈ after, isBlank c) ∧ (∀ c ∈ core.head?, isBlank c = false) ∧
    ∀ c ∈ core.getLast?, isBlank c = false

lemma head?_dropWhile_dark (s : List Char) :
    ∀ c ∈ (s.dropWhile isBlank).head?, isBlank c = false := by
  intro c hc
  have hhead := List.head?_dropWhile_not isBlank s
  rw [Option.mem_def.mp hc] at hhead
  exact hhead

lemma head?_trim_dark (s : List Char) : ∀ c ∈ (trim s).head?, isBlank c = false := by
  intro c hc
  have hprefix : trim s <+: s.dropWhile isBlank := by
    rw [← List.reverse_suffix, trim, List.reverse_reverse]
    exact List.dropWhile_suffix isBlank
  obtain ⟨rest, hrest⟩ := hprefix
  refine head?_dropWhile_dark s c ?_
  rw [← hrest, List.head?_append, Option.mem_def.mp hc]
  rfl

lemma trim_eq_iff (s core : List Char) : trim s = core ↔ IsCore s core := by
  constructor
  · rintro rfl
    obtain ⟨before, after, hs, hbefore, hafter⟩ := exists_trim s
    refine ⟨before, after, hs, hbefore, hafter, head?_trim_dark s, ?_⟩
    rw [trim, List.getLast?_reverse]
    exact head?_dropWhile_dark _
  · rintro ⟨before, after, rfl, hbefore, hafter, hfirst, hlast⟩
    by_cases hempty : core = []
    · -- there is no character to stop at
      have hall : ∀ c ∈ before ++ ([] ++ after), isBlank c := by
        simpa [or_imp, forall_and] using ⟨hbefore, hafter⟩
      rw [hempty, trim, List.dropWhile_eq_nil_iff.mpr hall]
      rfl
    · exact trim_append hbefore hafter hempty hfirst hlast

lemma ofDigits_eq (ds : List Char) : ofDigits ds = Nat.ofDigitChars 10 ds 0 := rfl

/-- The text is this number in decimal digits, with at most a plus sign before them. -/
def IsNumeral (cs : List Char) (n : Nat) : Prop :=
  ∃ sign digits, cs = sign ++ digits ∧ (sign = [] ∨ sign = ['+']) ∧ digits ≠ [] ∧
    (∀ c ∈ digits, c.isDigit) ∧ Nat.ofDigitChars 10 digits 0 = n

lemma writes_iff (s : String) (n : Nat) : Writes s n ↔ IsNumeral (trim s.toList) n := by
  constructor
  · rintro ⟨before, sign, digits, after, hs, hbefore, hafter, hsign, nonempty, hdigits, hvalue⟩
    refine ⟨sign, digits, ?_, hsign, nonempty, hdigits, hvalue⟩
    rw [hs, Config.trim_of_writes hbefore hafter hsign nonempty hdigits]
  · rintro ⟨sign, digits, htrim, hsign, nonempty, hdigits, hvalue⟩
    obtain ⟨before, after, hs, hbefore, hafter⟩ := exists_trim s.toList
    rw [htrim] at hs
    exact ⟨before, sign, digits, after, hs, hbefore, hafter, hsign, nonempty, hdigits, hvalue⟩

/-- A way to write numbers: with white space around them, with a plus sign or without, and with any
number of zeros before the digits that they need. -/
structure Spelling where
  before : List Char
  plus : Bool
  zeros : Nat
  after : List Char
  before_blank : ∀ c ∈ before, isBlank c
  after_blank : ∀ c ∈ after, isBlank c

def Spelling.spell (w : Spelling) (n : Nat) : String :=
  let sign := if w.plus then ['+'] else []
  let digits := List.replicate w.zeros '0' ++ Nat.toDigits 10 n
  String.ofList (w.before ++ (sign ++ digits ++ w.after))

lemma Spelling.writes_spell (w : Spelling) (n : Nat) : Writes (w.spell n) n := by
  refine ⟨w.before, if w.plus then ['+'] else [], List.replicate w.zeros '0' ++ Nat.toDigits 10 n,
    w.after, String.toList_ofList, w.before_blank, w.after_blank, ?_, ?_, ?_, ?_⟩
  · cases w.plus <;> simp
  · exact List.append_ne_nil_of_right_ne_nil _ Nat.toDigits_ne_nil
  · intro c hc
    rcases List.mem_append.mp hc with hzero | hdigit
    · rw [List.eq_of_mem_replicate hzero]
      decide
    · exact Nat.isDigit_of_mem_toDigits (by decide) (by decide) hdigit
  · rw [ofDigits_eq, Nat.ofDigitChars_append, Nat.ofDigitChars_replicate_zero, Nat.mul_zero,
      Nat.ofDigitChars_ten_toDigits]

/-- The text is the word, each letter of it small or capital. -/
def SaysInAnyCase (s word : List Char) : Prop :=
  List.Forall₂ (fun c d => c = d ∨ c = d.toUpper) s word

lemma toNat_toLower (c : Char) :
    c.toLower.toNat = if 65 ≤ c.toNat ∧ c.toNat ≤ 90 then c.toNat + 32 else c.toNat := by
  have hcapital : (c.val ≥ 'A'.val ∧ c.val ≤ 'Z'.val) ↔ 65 ≤ c.toNat ∧ c.toNat ≤ 90 := by
    rw [ge_iff_le, UInt32.le_iff_toNat_le, UInt32.le_iff_toNat_le]
    rfl
  unfold Char.toLower
  by_cases h : c.val ≥ 'A'.val ∧ c.val ≤ 'Z'.val
  · have hrange := hcapital.mp h
    have hgap : ('a'.val - 'A'.val).toNat = 32 := by decide
    rw [dif_pos h, if_pos hrange]
    change (c.val + ('a'.val - 'A'.val)).toNat = c.toNat + 32
    rw [UInt32.toNat_add, hgap, Char.toNat_val]
    omega
  · rw [dif_neg h, if_neg (mt hcapital.mpr h)]

lemma toNat_toUpper (c : Char) :
    c.toUpper.toNat = if 97 ≤ c.toNat ∧ c.toNat ≤ 122 then c.toNat - 32 else c.toNat := by
  have hsmall : ('a'.val ≤ c.val ∧ c.val ≤ 'z'.val) ↔ 97 ≤ c.toNat ∧ c.toNat ≤ 122 := by
    rw [UInt32.le_iff_toNat_le, UInt32.le_iff_toNat_le]
    rfl
  unfold Char.toUpper
  by_cases h : 'a'.val ≤ c.val ∧ c.val ≤ 'z'.val
  · have hrange := hsmall.mp h
    -- the difference is negative, so the sum wraps around
    have hgap : ('A'.val - 'a'.val).toNat = 2 ^ 32 - 32 := by decide
    rw [dif_pos h, if_pos hrange]
    change (c.val + ('A'.val - 'a'.val)).toNat = c.toNat - 32
    rw [UInt32.toNat_add, hgap, Char.toNat_val]
    omega
  · rw [dif_neg h, if_neg (mt hsmall.mpr h)]

lemma toLower_eq_iff (c : Char) {d : Char} (small : d.isLower) :
    c.toLower = d ↔ c = d ∨ c = d.toUpper := by
  have hd : 97 ≤ d.toNat ∧ d.toNat ≤ 122 := by
    obtain ⟨hlow, hhigh⟩ := Bool.and_eq_true_iff.mp small
    exact ⟨UInt32.le_iff_toNat_le.mp (decide_eq_true_iff.mp hlow),
      UInt32.le_iff_toNat_le.mp (decide_eq_true_iff.mp hhigh)⟩
  rw [← Char.toNat_inj, ← Char.toNat_inj, ← Char.toNat_inj, toNat_toLower, toNat_toUpper,
    if_pos hd]
  split <;> omega

lemma map_toLower_eq_iff (s : List Char) {word : List Char} (small : ∀ d ∈ word, d.isLower) :
    s.map Char.toLower = word ↔ SaysInAnyCase s word := by
  induction word generalizing s with
  | nil => simp [SaysInAnyCase]
  | cons d word ih =>
    obtain ⟨hd, hword⟩ := List.forall_mem_cons.mp small
    rcases s with _ | ⟨c, s⟩
    · simp [SaysInAnyCase]
    · rw [List.map_cons, List.cons.injEq, toLower_eq_iff c hd, ih s hword, SaysInAnyCase,
        SaysInAnyCase, List.forall₂_cons]

end Text

/-- Bytes that are the UTF-8 of a text are that text, and no others are a text. -/
lemma Setting.text?_ofBytes (b : ByteArray) (s : String) :
    (Setting.ofBytes b).text? = some s ↔ b = s.toUTF8 := by
  have hread : (Setting.ofBytes b).text? = String.fromUTF8? b := by
    unfold Setting.ofBytes
    rcases String.fromUTF8? b <;> rfl
  rw [hread, String.fromUTF8?, Option.dite_none_right_eq_some]
  constructor
  · rintro ⟨_, hs⟩
    rw [← Option.some_inj.mp hs]
    rfl
  · rintro rfl
    exact ⟨s.isValidUTF8, rfl⟩

namespace Config

lemma readSwitch_iff (s : String) :
    readSwitch s ↔ s = "1" ∨ Text.SaysInAnyCase s.toList "true".toList := by
  have hsmall : ∀ d ∈ "true".toList, d.isLower := List.all_eq_true.mp rfl
  rw [readSwitch, Bool.or_eq_true, beq_iff_eq, beq_iff_eq, Text.map_toLower_eq_iff _ hsmall]

/-- A configuration with nothing of its own is the default one. -/
lemma isCustom_eq_false_iff (c : Config) : c.isCustom = false ↔ c = {} := by
  obtain ⟨domain, localhostOnly, enclave, logLevel⟩ := c
  simp [isCustom, and_assoc]

end Config

namespace Environment

/-- The value is what the variable holds, if that is a text with something in it, and else the
default. -/
def Fills (env : Environment) (v : Variable) (default value : String) : Prop :=
  (env.text? v = some value ∧ value ≠ "") ∨
    ((∀ s, env.text? v = some s → s = "") ∧ value = default)

lemma fills_iff (env : Environment) (v : Variable) (default value : String) :
    env.Fills v default value ↔
      value = ((env.text? v).bind Config.nonEmpty?).getD default := by
  unfold Fills
  rcases env.text? v with _ | s
  · simp
  · by_cases hs : s = ""
    · simp [Config.nonEmpty?, hs]
    · have hvalue : some s = some value ∧ value ≠ "" ↔ value = s := by
        rw [Option.some_inj]
        constructor
        · rintro ⟨rfl, -⟩
          rfl
        · rintro rfl
          exact ⟨rfl, hs⟩
      simpa [Config.nonEmpty?, hs] using hvalue

/-- The configuration is the one that the environment gives. -/
structure Configures (env : Environment) (c : Config) : Prop where
  domain : ∀ n, c.domain = some n ↔ env.AsksFor n
  localhostOnly : c.localhostOnly ↔ ∃ s, env.text? .localhostOnly = some s ∧
    (s = "1" ∨ Text.SaysInAnyCase s.toList "true".toList)
  enclave : env.Fills .enclave "/" c.enclave
  logLevel : env.Fills .logLevel "info" c.logLevel

lemma configures_ofEnvironment (env : Environment) : env.Configures (Config.ofEnvironment env) := by
  refine ⟨env.domain_eq_some_iff, ?_, ?_, ?_⟩
  · have hswitch : (Config.ofEnvironment env).localhostOnly =
        ((env.text? .localhostOnly).map Config.readSwitch).getD false := rfl
    rw [hswitch]
    rcases env.text? .localhostOnly with _ | s
    · simp
    · simp [Config.readSwitch_iff]
  · rw [fills_iff]
    rfl
  · rw [fills_iff]
    rfl

lemma Configures.unique {env : Environment} {c c' : Config} (h : env.Configures c)
    (h' : env.Configures c') : c = c' := by
  have hdomain : c.domain = c'.domain := by
    ext n
    rw [h.domain, h'.domain]
  have hlocal : c.localhostOnly = c'.localhostOnly := by
    rw [Bool.eq_iff_iff, h.localhostOnly, h'.localhostOnly]
  have henclave : c.enclave = c'.enclave :=
    ((fills_iff _ _ _ _).mp h.enclave).trans ((fills_iff _ _ _ _).mp h'.enclave).symm
  have hlevel : c.logLevel = c'.logLevel :=
    ((fills_iff _ _ _ _).mp h.logLevel).trans ((fills_iff _ _ _ _).mp h'.logLevel).symm
  obtain ⟨domain, localhostOnly, enclave, logLevel⟩ := c
  obtain ⟨domain', localhostOnly', enclave', logLevel'⟩ := c'
  exact Config.mk.injEq .. |>.mpr ⟨hdomain, hlocal, henclave, hlevel⟩

lemma gives_spell {env : Environment} {v : Variable} {w : Text.Spelling} {n : UInt32}
    (h : env.text? v = some (w.spell n.toNat)) : env.Gives v n :=
  ⟨_, h, w.writes_spell _⟩

/-- **The environment is read by its grammar, and by nothing else.** The configuration is the only
one that the environment gives. For its domain, a variable counts if it is UTF-8 and, once the white
space at both ends is cut off, one or more decimal digits with at most a plus sign before them, for
a number that 32 bits can hold. Each such number is read back from all its spellings, in this
middleware's own variable, and in the common one where the own variable gives none. A configuration
has nothing of its own if and only if it is the default one. -/
theorem is_read_by_its_grammar (env : Environment) (c : Config) :
    (c = Config.ofEnvironment env ↔ env.Configures c) ∧
      (∀ v n, env.Gives v n ↔
        ∃ s, env.text? v = some s ∧ Text.IsNumeral (Text.trim s.toList) n.toNat) ∧
      (∀ s core, Text.trim s = core ↔ Text.IsCore s core) ∧
      (∀ b s, (Setting.ofBytes b).text? = some s ↔ b = s.toUTF8) ∧
      (∀ (w : Text.Spelling) (n : UInt32),
        (env.text? .domain = some (w.spell n.toNat) →
          (Config.ofEnvironment env).domain = some n) ∧
        (env.text? .commonDomain = some (w.spell n.toNat) → (∀ k, ¬ env.Gives .domain k) →
          (Config.ofEnvironment env).domain = some n)) ∧
      (c.isCustom = false ↔ c = {}) := by
  refine ⟨?_, ?_, Text.trim_eq_iff, Setting.text?_ofBytes, ?_, c.isCustom_eq_false_iff⟩
  · constructor
    · rintro rfl
      exact configures_ofEnvironment env
    · intro h
      exact h.unique (configures_ofEnvironment env)
  · intro v n
    simp only [Gives, Text.writes_iff]
  · intro w n
    constructor
    · intro hown
      exact (env.domain_eq_some_iff n).mpr (.inl (gives_spell hown))
    · intro hcommon hnone
      exact (env.domain_eq_some_iff n).mpr (.inr ⟨hnone, gives_spell hcommon⟩)

/-- The own variable is one too large, and the common one is `42`. Then the own variable is `7`. -/
theorem spelled_domains_are_read :
    let env := Environment.empty.set .domain (.text "4294967296")
      |>.set .commonDomain (.text "\u00a0+0042\t")
    (Config.ofEnvironment env).domain = some 42 ∧
      (Config.ofEnvironment (env.set .domain (.text "007\n"))).domain = some 7 := by
  intro env
  have hlarge : ∀ k, ¬ env.Gives .domain k := by
    have hread : (env.text? .domain).bind Config.readDomain = none := by decide +kernel
    intro k hk
    rw [(bind_readDomain_eq_some_iff _ _ _).mpr hk] at hread
    cases hread
  obtain ⟨-, -, -, -, hspelled, -⟩ := is_read_by_its_grammar env {}
  obtain ⟨-, -, -, -, hspelled', -⟩ :=
    is_read_by_its_grammar (env.set .domain (.text "007\n")) {}
  refine ⟨?_, ?_⟩
  · exact (hspelled ⟨['\u00a0'], true, 2, ['\t'], List.all_eq_true.mp rfl,
      List.all_eq_true.mp rfl⟩ 42).2 (by rfl) hlarge
  · exact (hspelled' ⟨[], false, 2, ['\n'], List.all_eq_true.mp rfl,
      List.all_eq_true.mp rfl⟩ 7).1 (by rfl)

end Environment
end NullMiddleware
