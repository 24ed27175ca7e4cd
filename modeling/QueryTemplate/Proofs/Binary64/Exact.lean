import Mathlib.Algebra.Order.Field.Power
import Mathlib.Data.Rat.Floor
import QueryTemplate.Binary64

/-!
# The exact value of a number

A finite number of the format is a rational number, `± m · 2 ^ e`. Its integer part is that rational
number rounded toward zero, and rounding toward zero keeps the order of numbers.
-/

namespace QueryTemplate

/-! ## Rounding toward zero -/

/-- The integer part of a rational number: what stands behind the point is cut off. -/
def towardZero (q : ℚ) : ℤ := if 0 ≤ q then ⌊q⌋ else ⌈q⌉

theorem towardZero_of_nonneg {q : ℚ} (h : 0 ≤ q) : towardZero q = ⌊q⌋ := if_pos h

theorem towardZero_of_nonpos {q : ℚ} (h : q ≤ 0) : towardZero q = ⌈q⌉ := by
  unfold towardZero
  split
  · rename_i hnonneg
    have hzero : q = 0 := le_antisymm h hnonneg
    rw [hzero, Int.floor_zero, Int.ceil_zero]
  · rfl

/-- The integer part of an integer is the integer. -/
theorem towardZero_intCast (i : ℤ) : towardZero (i : ℚ) = i := by
  unfold towardZero
  split
  · exact Int.floor_intCast i
  · exact Int.ceil_intCast i

theorem towardZero_neg (q : ℚ) : towardZero (-q) = -towardZero q := by
  rcases le_total 0 q with h | h
  · have hneg : -q ≤ 0 := neg_nonpos.mpr h
    rw [towardZero_of_nonpos hneg, towardZero_of_nonneg h, Int.ceil_neg]
  · have hneg : 0 ≤ -q := neg_nonneg.mpr h
    rw [towardZero_of_nonneg hneg, towardZero_of_nonpos h, Int.floor_neg]

/-- Cutting off what stands behind the point keeps the order of numbers. -/
theorem towardZero_mono {p q : ℚ} (h : p ≤ q) : towardZero p ≤ towardZero q := by
  rcases le_total 0 p with hp | hp
  · have hq : 0 ≤ q := le_trans hp h
    rw [towardZero_of_nonneg hp, towardZero_of_nonneg hq]
    exact Int.floor_mono h
  · rcases le_total 0 q with hq | hq
    · -- zero lies between the two
      have hlow : ⌈p⌉ ≤ 0 := Int.ceil_le.mpr (by exact_mod_cast hp)
      have hhigh : 0 ≤ ⌊q⌋ := Int.le_floor.mpr (by exact_mod_cast hq)
      rw [towardZero_of_nonpos hp, towardZero_of_nonneg hq]
      exact le_trans hlow hhigh
    · rw [towardZero_of_nonpos hp, towardZero_of_nonpos hq]
      exact Int.ceil_mono h

/-! ## Exact values -/

/-- A rational number with a sign. -/
def signed (negative : Bool) (q : ℚ) : ℚ := if negative then -q else q

theorem abs_signed (negative : Bool) (q : ℚ) : |signed negative q| = |q| := by
  cases negative with
  | true => exact abs_neg q
  | false => rfl

/-- A sign on one side of a distance may stand on the other side. -/
theorem abs_signed_sub (negative : Bool) (q w : ℚ) :
    |signed negative q - w| = |q - signed negative w| := by
  cases negative with
  | true =>
    show |-q - w| = |q - -w|
    rw [← abs_neg, neg_sub, sub_neg_eq_add, sub_neg_eq_add, add_comm]
  | false => rfl

theorem signed_signed (negative : Bool) (q : ℚ) :
    signed negative (signed negative q) = q := by
  cases negative with
  | true => exact neg_neg q
  | false => rfl

namespace Binary64

/-- The rational number that a number of the format is; only a finite one is any. -/
def toRat? (x : Binary64) : Option ℚ :=
  match x.reading with
  | .finite negative m e => some (signed negative (m * 2 ^ e))
  | _ => none

/-- A number has an exact value if it is finite. -/
theorem isSome_toRat?_iff (x : Binary64) : x.toRat?.isSome = true ↔ x.isFinite = true := by
  unfold toRat? reading isFinite
  simp only [bne_iff_ne]
  split_ifs <;> simp_all

/-- Shifting a significand cuts off what stands behind the point. -/
theorem floor_mul_two_zpow (m : ℕ) (e : ℤ) :
    ⌊(m : ℚ) * 2 ^ e⌋ =
      ((if 0 ≤ e then m <<< e.toNat else m >>> (-e).toNat : ℕ) : ℤ) := by
  by_cases h : 0 ≤ e
  · have hpower : (2 : ℚ) ^ e = ((2 ^ e.toNat : ℕ) : ℚ) := by
      conv_lhs => rw [← Int.toNat_of_nonneg h]
      rw [zpow_natCast]
      push_cast
      rfl
    rw [if_pos h, hpower, ← Nat.cast_mul, Int.floor_natCast, Nat.shiftLeft_eq]
  · have hnat : ((-e).toNat : ℤ) = -e := Int.toNat_of_nonneg (by omega)
    have hpower : (2 : ℚ) ^ e = (((2 ^ (-e).toNat : ℕ) : ℚ))⁻¹ := by
      have he : e = -((-e).toNat : ℤ) := by omega
      conv_lhs => rw [he, zpow_neg, zpow_natCast]
      push_cast
      rfl
    rw [if_neg h, hpower, ← div_eq_mul_inv, Rat.floor_natCast_div_natCast,
      Nat.shiftRight_eq_div_pow]
    push_cast
    rfl

/-- The integer part of a number is its exact value rounded toward zero. -/
theorem truncated?_eq (x : Binary64) : x.truncated? = x.toRat?.map towardZero := by
  unfold truncated? toRat?
  cases x.reading with
  | nan => rfl
  | infinite negative => rfl
  | finite negative m e =>
    have hnonneg : 0 ≤ (m : ℚ) * 2 ^ e := mul_nonneg (Nat.cast_nonneg m) (zpow_nonneg zero_le_two e)
    have hfloor : towardZero ((m : ℚ) * 2 ^ e) = _ :=
      (towardZero_of_nonneg hnonneg).trans (floor_mul_two_zpow m e)
    cases negative with
    | true =>
      simp only [if_true, Option.map_some, signed, towardZero_neg, hfloor]
    | false =>
      simp only [Bool.false_eq_true, if_false, Option.map_some, signed, hfloor]

/-- A number without an integer part is not finite. -/
theorem truncated?_eq_none_iff (x : Binary64) : x.truncated? = none ↔ x.isFinite = false := by
  rw [truncated?_eq, Option.map_eq_none_iff, ← Bool.not_eq_true, ← isSome_toRat?_iff,
    Option.not_isSome_iff_eq_none]

end Binary64

end QueryTemplate
