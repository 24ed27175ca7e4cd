import Mathlib.Data.List.Induction
import Mathlib.Data.Nat.Digits.Defs
import Mathlib.Tactic.Common
import QueryTemplate.Text

/-!
# Digits and decimal texts

Digits denote a natural number, in whatever scripts they are written. Of all the texts that denote
an integer one is canonical.
-/

namespace QueryTemplate

/-!
## The number that digits denote

A text of digits is read in base ten with the most significant digit first. A zero of any script in
front of it does not count; any other digit in front is worth the power of ten of the digits behind
it.
-/

/-- The digit that a character is; any other character counts as zero. -/
def digitOf (c : Char) : Nat := (digitValue? c).getD 0

namespace Digits

/-- The number of a text is that of its digits, from the last one on. -/
theorem value_eq_ofDigits (ds : Text) :
    value ds = Nat.ofDigits 10 (ds.reverse.map digitOf) := by
  induction ds using List.reverseRec with
  | nil => rfl
  | append_singleton ds c ih =>
    rw [value_concat, ih, List.reverse_append, List.reverse_singleton, List.singleton_append,
      List.map_cons, Nat.ofDigits_cons, Nat.add_comm]
    rfl

/-- A digit in front is worth the power of ten of the digits behind it. -/
theorem value_cons (c : Char) (ds : Text) :
    value (c :: ds) = value ds + 10 ^ ds.length * digitOf c := by
  rw [value_eq_ofDigits, List.reverse_cons, List.map_append, Nat.ofDigits_append,
    ← value_eq_ofDigits, List.length_map, List.length_reverse, List.map_singleton,
    Nat.ofDigits_singleton]

/-- A number whose first digit is no zero is at least the power of ten of the digits behind it. -/
theorem pow_le_value {c : Char} (hc : digitOf c ≠ 0) (ds : Text) :
    10 ^ ds.length ≤ value (c :: ds) := by
  have hdigit : 1 ≤ digitOf c := Nat.pos_of_ne_zero hc
  calc 10 ^ ds.length = 10 ^ ds.length * 1 := (Nat.mul_one _).symm
    _ ≤ 10 ^ ds.length * digitOf c := Nat.mul_le_mul_left _ hdigit
    _ ≤ value (c :: ds) := by
      rw [value_cons]
      exact Nat.le_add_left _ _

/-- The ASCII zeros in front of a number do not count. -/
theorem value_dropWhile_zero (ds : Text) : value (ds.dropWhile (· = '0')) = value ds := by
  induction ds with
  | nil => rfl
  | cons c rest ih =>
    rw [List.dropWhile_cons]
    split
    · rename_i hzero
      obtain rfl : c = '0' := of_decide_eq_true hzero
      have hnothing : digitOf '0' = 0 := by decide
      rw [ih, value_cons, hnothing, Nat.mul_zero, Nat.add_zero]
    · rfl

end Digits

/-!
## Canonical decimal texts

An integer is written in ASCII digits without a zero in front, and behind a minus sign if it is
negative. There is one such text for every integer and one integer for every such text, so that an
integer is found again in its text.
-/

/-- A digit of ASCII is worth its distance from the zero. -/
theorem digitOf_of_isDigit {c : Char} (h : c.isDigit = true) : digitOf c = c.toNat - 48 := by
  have hrange : 48 ≤ c.toNat ∧ c.toNat ≤ 57 := Char.isDigit_iff_toNat.mp h
  have hfirst : (48 ≤ c.toNat && c.toNat < 48 + 10) = true := by
    rw [Bool.and_eq_true, decide_eq_true_eq, decide_eq_true_eq]
    omega
  simp only [digitOf, digitValue?, digitZeros, List.find?_cons, hfirst, Option.map_some,
    Option.getD_some]

namespace Digits

/-- The digits of a number: ASCII digits, without a zero in front unless it is the only digit. -/
structure IsCanonical (ds : Text) : Prop where
  /-- There is a digit. -/
  nonempty : ds ≠ []
  /-- All of them are digits of ASCII. -/
  ascii : ∀ c ∈ ds, c.isDigit = true
  /-- A zero in front stands alone. -/
  lead : ds.head? = some '0' → ds = ['0']

/-- The digit of a value below ten is one of ASCII, and worth that value. -/
theorem isDigit_ofValue : ∀ d < 10, (ofValue d).isDigit = true ∧ digitOf (ofValue d) = d := by
  decide

/-- Only the value zero has the digit zero. -/
theorem ofValue_eq_zero_iff : ∀ d < 10, ofValue d = '0' ↔ d = 0 := by
  decide

/-- A digit of ASCII is the digit of its value. -/
theorem ofValue_digitOf {c : Char} (h : c.isDigit = true) :
    ofValue (digitOf c) = c ∧ digitOf c < 10 := by
  have hrange : 48 ≤ c.toNat ∧ c.toNat ≤ 57 := Char.isDigit_iff_toNat.mp h
  have hdigit : digitOf c = c.toNat - 48 := digitOf_of_isDigit h
  refine ⟨?_, by omega⟩
  have hnumber : 48 + (c.toNat - 48) = c.toNat := by omega
  rw [hdigit, ofValue, hnumber, Char.ofNat_toNat]

/-- The digits of a number denote the number. -/
theorem value_ofNat (n : Nat) : value (ofNat n) = n := by
  fun_induction ofNat n with
  | case1 n h =>
    have hdigit := (isDigit_ofValue n h).2
    rw [value_cons]
    simp only [value, List.foldl_nil, List.length_nil, hdigit]
    omega
  | case2 n h ih =>
    have hdigit := (isDigit_ofValue (n % 10) (Nat.mod_lt n (by decide))).2
    rw [value_concat, ih]
    show 10 * (n / 10) + digitOf (ofValue (n % 10)) = n
    omega

/-- The first digit of a number is a zero only if the number is zero. -/
theorem head?_ofNat (n : Nat) : ∃ c, (ofNat n).head? = some c ∧ (c = '0' → n = 0) := by
  fun_induction ofNat n with
  | case1 n h =>
    exact ⟨ofValue n, rfl, (ofValue_eq_zero_iff n h).mp⟩
  | case2 n h ih =>
    obtain ⟨c, hc, hzero⟩ := ih
    refine ⟨c, ?_, ?_⟩
    · rw [List.head?_append, hc]
      rfl
    · intro hlead
      have hnone : n / 10 = 0 := hzero hlead
      omega

theorem isDigit_of_mem_ofNat (n : Nat) : ∀ c ∈ ofNat n, c.isDigit = true := by
  fun_induction ofNat n with
  | case1 n h =>
    intro c hc
    rw [List.mem_singleton.mp hc]
    exact (isDigit_ofValue n h).1
  | case2 n h ih =>
    intro c hc
    rcases List.mem_append.mp hc with hc | hc
    · exact ih c hc
    · rw [List.mem_singleton.mp hc]
      exact (isDigit_ofValue (n % 10) (Nat.mod_lt n (by decide))).1

theorem isCanonical_ofNat (n : Nat) : IsCanonical (ofNat n) := by
  obtain ⟨c, hc, hzero⟩ := head?_ofNat n
  refine ⟨?_, isDigit_of_mem_ofNat n, ?_⟩
  · intro hnil
    rw [hnil] at hc
    cases hc
  · intro hlead
    rw [hlead] at hc
    rw [hzero (Option.some.inj hc).symm, ofNat, if_pos (by decide)]
    rfl

/-- Canonical digits other than the zero alone denote a positive number. -/
theorem IsCanonical.value_pos {ds : Text} (h : IsCanonical ds) (hne : ds ≠ ['0']) :
    0 < value ds := by
  obtain ⟨c, rest, rfl⟩ := List.exists_cons_of_ne_nil h.nonempty
  have hc : c.isDigit = true := h.ascii c List.mem_cons_self
  have hnonzero : digitOf c ≠ 0 := by
    intro hzero
    have hchar := (ofValue_digitOf hc).1
    rw [hzero] at hchar
    exact hne (h.lead (congrArg some hchar.symm))
  exact Nat.lt_of_lt_of_le (Nat.pow_pos (by decide)) (pow_le_value hnonzero rest)

/-- Canonical digits are the digits of the number that they denote. The induction takes the last
digit off, which the division by ten does as well. -/
theorem ofNat_value {ds : Text} (h : IsCanonical ds) : ofNat (value ds) = ds := by
  induction ds using List.reverseRec with
  | nil => exact absurd rfl h.nonempty
  | append_singleton ds c ih =>
    have hc : c.isDigit = true := h.ascii c (List.mem_append_right ds List.mem_cons_self)
    obtain ⟨hchar, hlt⟩ := ofValue_digitOf hc
    have hvalue : value (ds ++ [c]) = 10 * value ds + digitOf c := value_concat ds c
    by_cases hnil : ds = []
    · subst hnil
      have hsingle : value ([] ++ [c]) = digitOf c := hvalue.trans (Nat.zero_add _)
      rw [hsingle, ofNat, if_pos hlt, hchar]
      rfl
    · -- a zero in front would have to stand alone
      have hlead : ds.head? ≠ some '0' := by
        intro hzero
        have hboth : (ds ++ [c]).head? = some '0' := by
          rw [List.head?_append, hzero]
          rfl
        have hlength := congrArg List.length (h.lead hboth)
        rw [List.length_append] at hlength
        exact hnil (List.length_eq_zero_iff.mp (Nat.succ.inj hlength))
      have hcanonical : IsCanonical ds :=
        ⟨hnil, fun d hd => h.ascii d (List.mem_append_left [c] hd), fun hzero => absurd hzero hlead⟩
      have hpos : 0 < value ds := by
        apply hcanonical.value_pos
        rintro rfl
        exact hlead rfl
      -- the number has more than one digit, and the division by ten splits the last one off
      have hbig : ¬ 10 * value ds + digitOf c < 10 := by omega
      have hdiv : (10 * value ds + digitOf c) / 10 = value ds := by omega
      have hmod : (10 * value ds + digitOf c) % 10 = digitOf c := by omega
      rw [hvalue, ofNat, if_neg hbig, hdiv, hmod, ih hcanonical, hchar]

end Digits

/-- The canonical decimal texts of integers: digits, behind a minus sign if the integer is negative.
Zero has no sign. -/
inductive IsDecimalText : Text → Int → Prop
  /-- An integer that is not negative. -/
  | nonneg {ds : Text} : Digits.IsCanonical ds → IsDecimalText ds (Digits.value ds)
  /-- A negative integer. -/
  | negative {ds : Text} : Digits.IsCanonical ds → Digits.value ds ≠ 0 →
      IsDecimalText ('-' :: ds) (-(Digits.value ds : Int))

theorem isDecimalText_integerText (i : Int) : IsDecimalText (integerText i) i := by
  have hcanonical := Digits.isCanonical_ofNat i.natAbs
  have hvalue := Digits.value_ofNat i.natAbs
  unfold integerText
  split
  · have hnumber : i = -((Digits.value (Digits.ofNat i.natAbs) : Nat) : Int) := by omega
    have hdecimal := IsDecimalText.negative hcanonical (by omega)
    rwa [← hnumber] at hdecimal
  · have hnumber : i = ((Digits.value (Digits.ofNat i.natAbs) : Nat) : Int) := by omega
    have hdecimal := IsDecimalText.nonneg hcanonical
    rwa [← hnumber] at hdecimal

/-- An integer has one decimal text, the one that is written for it. -/
theorem isDecimalText_iff {t : Text} {i : Int} : IsDecimalText t i ↔ t = integerText i := by
  constructor
  · intro h
    cases h with
    | nonneg hcanonical =>
      have hsign : ¬ ((Digits.value t : Nat) : Int) < 0 := by omega
      rw [integerText, if_neg hsign, Int.natAbs_natCast, Digits.ofNat_value hcanonical]
    | @negative ds hcanonical hne =>
      have hsign : -((Digits.value ds : Nat) : Int) < 0 := by omega
      rw [integerText, if_pos hsign, Int.natAbs_neg, Int.natAbs_natCast,
        Digits.ofNat_value hcanonical]
  · rintro rfl
    exact isDecimalText_integerText i

end QueryTemplate
