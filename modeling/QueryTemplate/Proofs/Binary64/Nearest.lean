import Mathlib.Algebra.Order.Field.Power
import Mathlib.Tactic.FieldSimp
import Mathlib.Tactic.Linarith
import QueryTemplate.Binary64
import QueryTemplate.Proofs.Binary64.Exact

/-!
# The nearest number

A quotient of natural numbers is rounded to the number of the format that is nearest to it. It is
divided in steps of the power of two that is the last bit of its binade, and rounded to an integer
there. Every number of the format is either a multiple of those steps or lies below the binade, so
that none is nearer than the rounded one. A significand that is rounded up to the next power of two
is carried into the exponent field, at the end of the last binade into that of the infinity.
-/

namespace QueryTemplate

/-! ## Rounding to an integer -/

/-- A rounded quotient is off by a half at most, and even if it is off by a half. -/
theorem nearestEven_spec (num : ℕ) {den : ℕ} (hden : 0 < den) :
    2 * num ≤ 2 * (nearestEven num den * den) + den ∧
      2 * (nearestEven num den * den) ≤ 2 * num + den ∧
      (2 * num = 2 * (nearestEven num den * den) + den ∨
        2 * (nearestEven num den * den) = 2 * num + den → nearestEven num den % 2 = 0) := by
  have hsplit := Nat.div_add_mod' num den
  have hmod := Nat.mod_lt num hden
  have hnext : (num / den + 1) * den = num / den * den + den := Nat.succ_mul _ _
  simp only [nearestEven]
  split_ifs with hbelow habove
  · omega
  · rw [hnext]
    omega
  · rcases Nat.mod_two_eq_zero_or_one (num / den) with heven | hodd
    · rw [heven, Nat.add_zero]
      omega
    · rw [hodd, hnext]
      omega

/-- The same as a distance of rational numbers. -/
theorem abs_div_sub_nearestEven (num : ℕ) {den : ℕ} (hden : 0 < den) :
    |(num : ℚ) / den - nearestEven num den| ≤ 1 / 2 ∧
      (|(num : ℚ) / den - nearestEven num den| = 1 / 2 → nearestEven num den % 2 = 0) := by
  obtain ⟨hlow, hhigh, heven⟩ := nearestEven_spec num hden
  generalize nearestEven num den = s at hlow hhigh heven ⊢
  have hpos : (0 : ℚ) < den := Nat.cast_pos.mpr hden
  have hdistance : (num : ℚ) / den - s = (num - s * den) / den := by
    field_simp
  have hlow' : 2 * (num : ℚ) ≤ 2 * (s * den) + den := by exact_mod_cast hlow
  have hhigh' : 2 * (s * den : ℚ) ≤ 2 * num + den := by exact_mod_cast hhigh
  rw [hdistance, abs_div, abs_of_pos hpos]
  constructor
  · rw [div_le_iff₀ hpos, abs_le]
    constructor <;> linarith
  · intro htie
    rw [div_eq_iff hpos.ne'] at htie
    apply heven
    rcases abs_choice ((num : ℚ) - s * den) with habs | habs
    · left
      have hexact : 2 * (num : ℚ) = 2 * (s * den) + den := by linarith
      exact_mod_cast hexact
    · right
      have hexact : 2 * (s * den : ℚ) = 2 * num + den := by linarith
      exact_mod_cast hexact

/-- An integer that a number is off by a half at most is nearest to it, and is off by a half if
another one is as near. -/
theorem abs_sub_le_of_half {a : ℚ} {s : ℤ} (h : |a - s| ≤ 1 / 2) (j : ℤ) :
    |a - s| ≤ |a - j| ∧ (|a - j| = |a - s| → j ≠ s → |a - s| = 1 / 2) := by
  by_cases heq : j = s
  · rw [heq]
    exact ⟨le_rfl, fun _ hne => absurd rfl hne⟩
  · have hapart : (1 : ℚ) ≤ |(j : ℚ) - s| := by
      have hint : 1 ≤ |j - s| := Int.one_le_abs (sub_ne_zero.mpr heq)
      exact_mod_cast hint
    have htriangle : |(j : ℚ) - s| ≤ |a - j| + |a - s| := by
      have hsum := abs_sub_le (j : ℚ) a s
      rwa [abs_sub_comm (j : ℚ) a] at hsum
    refine ⟨by linarith, fun hsame _ => ?_⟩
    linarith

namespace Binary64

/-! ## The grid -/

/-- The numbers of 53 bits in steps of the powers of two that the format has. -/
def OnGrid (w : ℚ) : Prop := ∃ k f : ℤ, |k| < 2 ^ 53 ∧ leastExponent ≤ f ∧ w = k * 2 ^ f

theorem reading_bounds {x : Binary64} {negative : Bool} {m : ℕ} {e : ℤ}
    (h : x.reading = .finite negative m e) : m < 2 ^ 53 ∧ leastExponent ≤ e := by
  have hfraction : x.magnitude % (1 <<< 52) < 2 ^ 52 := Nat.mod_lt _ (by decide)
  have hnormal : firstNormal = 2 ^ 52 := by decide
  unfold reading at h
  simp only at h
  split_ifs at h
  · obtain ⟨-, rfl, rfl⟩ := Reading.finite.inj h
    exact ⟨by omega, le_rfl⟩
  · obtain ⟨-, rfl, rfl⟩ := Reading.finite.inj h
    exact ⟨by omega, by omega⟩

/-- Every exact value is on the grid. -/
theorem onGrid_of_toRat? {x : Binary64} {w : ℚ} (h : x.toRat? = some w) : OnGrid w := by
  unfold toRat? at h
  cases hreading : x.reading with
  | finite negative m e =>
    rw [hreading] at h
    obtain ⟨hm, he⟩ := reading_bounds hreading
    refine ⟨if negative then -m else m, e, ?_, he, ?_⟩
    · cases negative <;> simp <;> exact_mod_cast hm
    · rw [← Option.some.inj h]
      cases negative <;> simp [signed]
  | _ =>
    rw [hreading] at h
    cases h

theorem OnGrid.neg {w : ℚ} (h : OnGrid w) : OnGrid (-w) := by
  obtain ⟨k, f, hk, hf, rfl⟩ := h
  exact ⟨-k, f, by rwa [abs_neg], hf, by push_cast; ring⟩

/-- Among the multiples of a step, the nearest one is that of the rounded quotient. -/
theorem nearest_multiple {q u : ℚ} {s : ℕ} (hu : 0 < u) (hs : |q / u - s| ≤ 1 / 2)
    (heven : |q / u - s| = 1 / 2 → s % 2 = 0) (j : ℤ) :
    |q - s * u| ≤ |q - j * u| ∧
      (|q - j * u| = |q - s * u| → (j : ℚ) * u ≠ s * u → s % 2 = 0) := by
  have hscale : ∀ z : ℚ, |q - z * u| = |q / u - z| * u := by
    intro z
    rw [← abs_of_pos hu, ← abs_mul, abs_of_pos hu, sub_mul, div_mul_cancel₀ _ hu.ne']
  obtain ⟨hle, htie⟩ := abs_sub_le_of_half (s := (s : ℤ)) (by exact_mod_cast hs) j
  rw [Int.cast_natCast] at hle htie
  rw [hscale, hscale]
  refine ⟨mul_le_mul_of_nonneg_right hle hu.le, fun hsame hne => ?_⟩
  refine heven (htie (mul_right_cancel₀ hu.ne' hsame) ?_)
  rintro rfl
  exact hne (by rw [Int.cast_natCast])

/-- A number of 53 bits in smaller steps lies below the binade. -/
theorem lt_of_smaller_step {k e f : ℤ} (hk : |k| < 2 ^ 53) (hfe : f < e) :
    (k : ℚ) * 2 ^ f < 2 ^ 52 * 2 ^ e := by
  have hk' : (k : ℚ) < 2 ^ 53 := by exact_mod_cast (abs_lt.mp hk).2
  have hstep : (2 : ℚ) ^ f ≤ 2 ^ (e - 1) := zpow_le_zpow_right₀ one_le_two (by omega)
  calc (k : ℚ) * 2 ^ f < 2 ^ 53 * 2 ^ f := mul_lt_mul_of_pos_right hk' (zpow_pos two_pos f)
    _ ≤ 2 ^ 53 * 2 ^ (e - 1) := mul_le_mul_of_nonneg_left hstep (by positivity)
    _ = 2 ^ 52 * 2 ^ e := by
      rw [zpow_sub_one₀ two_ne_zero]
      ring

/-- In the steps of a binade, the nearest number is the nearest one of the grid: the numbers in
smaller steps lie below the binade. -/
theorem nearest_onGrid {q : ℚ} {e : ℤ} {s : ℕ} (hbinade : e = leastExponent ∨ 2 ^ (e + 52) ≤ q)
    (hs : |q / 2 ^ e - s| ≤ 1 / 2) (heven : |q / 2 ^ e - s| = 1 / 2 → s % 2 = 0) {w : ℚ}
    (hw : OnGrid w) :
    |q - s * 2 ^ e| ≤ |q - w| ∧ (|q - w| = |q - s * 2 ^ e| → w ≠ s * 2 ^ e → s % 2 = 0) := by
  have hsteps := nearest_multiple (zpow_pos two_pos e) hs heven
  obtain ⟨k, f, hk, hf, rfl⟩ := hw
  rcases le_or_gt e f with hef | hfe
  · have hmultiple : (k : ℚ) * 2 ^ f = ((k * 2 ^ (f - e).toNat : ℤ) : ℚ) * 2 ^ e := by
      have hsum : f = (f - e).toNat + e := by omega
      conv_lhs => rw [hsum, zpow_add₀ two_ne_zero, zpow_natCast]
      push_cast
      ring
    rw [hmultiple]
    exact hsteps _
  · have hlow : (2 : ℚ) ^ 52 * 2 ^ e ≤ q := by
      rcases hbinade with rfl | hlow
      · exact absurd hf (not_le.mpr hfe)
      · rwa [zpow_add₀ two_ne_zero, mul_comm] at hlow
    have hbelow := lt_of_smaller_step hk hfe
    -- the first number of the binade is nearer than one below it
    have hfirst := (hsteps (2 ^ 52)).1
    push_cast at hfirst
    have hstrict : |q - 2 ^ 52 * 2 ^ e| < |q - k * 2 ^ f| := by
      rw [abs_of_nonneg (by linarith), abs_of_nonneg (by linarith)]
      linarith
    have hnearer := lt_of_le_of_lt hfirst hstrict
    exact ⟨hnearer.le, fun hsame _ => absurd hsame hnearer.ne'⟩

/-! ## Magnitude bits -/

theorem magnitude_ofMagnitude (negative : Bool) {magnitude : ℕ}
    (h : magnitude ≤ infinityMagnitude) :
    (ofMagnitude negative magnitude).magnitude = magnitude := by
  have hbelow : infinityMagnitude < 2 ^ 63 := by decide
  rw [Binary64.magnitude, ofMagnitude, UInt64.toNat_ofNat']
  cases negative with
  | true =>
    rw [if_pos rfl, Nat.one_shiftLeft]
    omega
  | false =>
    rw [if_neg Bool.false_ne_true, Nat.one_shiftLeft]
    omega

theorem isNegative_ofMagnitude (negative : Bool) {magnitude : ℕ}
    (h : magnitude ≤ infinityMagnitude) :
    (ofMagnitude negative magnitude).isNegative = negative := by
  have hbelow : infinityMagnitude < 2 ^ 63 := by decide
  rw [isNegative, ofMagnitude, UInt64.toNat_ofNat', Nat.one_shiftLeft]
  cases negative with
  | true =>
    rw [if_pos rfl, decide_eq_true_eq]
    omega
  | false =>
    rw [if_neg Bool.false_ne_true, decide_eq_false_iff_not]
    omega

/-- A number from magnitude bits up to those of the infinity is finite below them. -/
theorem isFinite_ofMagnitude (negative : Bool) {magnitude : ℕ}
    (h : magnitude ≤ infinityMagnitude) :
    (ofMagnitude negative magnitude).isFinite = true ↔ magnitude < infinityMagnitude := by
  have hinfinity : infinityMagnitude = 2047 * 2 ^ 52 := Nat.shiftLeft_eq 2047 52
  rw [isFinite, magnitude_ofMagnitude negative h, bne_iff_ne, Nat.shiftRight_eq_div_pow]
  omega

/-- The magnitude bits of the infinity are read as the infinity. -/
theorem reading_infinity (negative : Bool) :
    (ofMagnitude negative infinityMagnitude).reading = .infinite negative := by
  rw [reading]
  simp only [magnitude_ofMagnitude negative le_rfl, isNegative_ofMagnitude negative le_rfl]
  rfl

/-- The exponent field and a significand in its steps, added up. A significand that has reached the
next power of two is carried into the exponent field. -/
theorem toRat?_ofMagnitude (negative : Bool) {field s : ℕ} (hs : s ≤ 2 ^ 53)
    (hnormal : field = 0 ∨ 2 ^ 52 ≤ s) (hfinite : field * 2 ^ 52 + s < infinityMagnitude) :
    (ofMagnitude negative (field * 2 ^ 52 + s)).toRat? =
      some (signed negative (s * 2 ^ (leastExponent + field))) := by
  have hinfinity : infinityMagnitude = 2047 * 2 ^ 52 := Nat.shiftLeft_eq 2047 52
  have hfirst : firstNormal = 2 ^ 52 := by decide
  rw [toRat?, reading]
  simp only [magnitude_ofMagnitude negative hfinite.le, isNegative_ofMagnitude negative hfinite.le,
    Nat.shiftRight_eq_div_pow, Nat.one_shiftLeft]
  rcases Nat.lt_or_ge s (2 ^ 52) with hsmall | hbig
  -- no bit in the exponent field: a subnormal number
  · obtain rfl : field = 0 := hnormal.resolve_right (Nat.not_le.mpr hsmall)
    have hdiv : (0 * 2 ^ 52 + s) / 2 ^ 52 = 0 := by omega
    have hmod : (0 * 2 ^ 52 + s) % 2 ^ 52 = s := by omega
    rw [hdiv, hmod, if_neg (by decide), if_pos rfl, Nat.cast_zero, add_zero]
  · rcases Nat.lt_or_ge s (2 ^ 53) with hbelow | hcarry
    -- the first bit of the significand is counted in the exponent field
    · have hdiv : (field * 2 ^ 52 + s) / 2 ^ 52 = field + 1 := by omega
      have hmod : (field * 2 ^ 52 + s) % 2 ^ 52 = s - 2 ^ 52 := by omega
      have hsum : firstNormal + (s - 2 ^ 52) = s := by omega
      rw [hdiv, hmod, if_neg (by omega), if_neg (Nat.succ_ne_zero field), hsum, Nat.add_sub_cancel]
    -- a significand that was rounded up is carried into the next binade
    · obtain rfl : s = 2 ^ 53 := Nat.le_antisymm hs hcarry
      have hdiv : (field * 2 ^ 52 + 2 ^ 53) / 2 ^ 52 = field + 2 := by omega
      have hmod : (field * 2 ^ 52 + 2 ^ 53) % 2 ^ 52 = 0 := by omega
      have hnext : field + 2 - 1 = field + 1 := rfl
      rw [hdiv, hmod, if_neg (by omega), if_neg (by omega), hnext, Nat.add_zero, hfirst]
      have hdouble : ((2 ^ 52 : ℕ) : ℚ) * 2 ^ (leastExponent + (field + 1 : ℕ)) =
          ((2 ^ 53 : ℕ) : ℚ) * 2 ^ (leastExponent + field) := by
        push_cast
        rw [← add_assoc, zpow_add_one₀ two_ne_zero]
        ring
      exact congrArg (fun z => some (signed negative z)) hdouble

/-! ## Binades -/

/-- A power of two is at most a quotient if it is so without the division. -/
theorem two_zpow_le_div_iff (num : ℕ) {den : ℕ} (hden : 0 < den) (g : ℤ) :
    (2 : ℚ) ^ g ≤ num / den ↔
      (if 0 ≤ g then den <<< g.toNat ≤ num else den ≤ num <<< (-g).toNat) := by
  have hpos : (0 : ℚ) < den := Nat.cast_pos.mpr hden
  rw [le_div_iff₀ hpos]
  split
  · rename_i hg
    obtain ⟨k, rfl⟩ := Int.eq_ofNat_of_zero_le hg
    rw [Int.toNat_natCast, Nat.shiftLeft_eq, zpow_natCast, mul_comm]
    exact_mod_cast Iff.rfl
  · rename_i hg
    obtain ⟨k, hk⟩ := Int.eq_ofNat_of_zero_le (a := -g) (by omega)
    obtain rfl : g = -(k : ℤ) := by omega
    rw [neg_neg, Int.toNat_natCast, Nat.shiftLeft_eq, zpow_neg, zpow_natCast,
      inv_mul_le_iff₀ (by positivity), mul_comm]
    exact_mod_cast Iff.rfl

/-- The binade of a quotient. -/
theorem floorLog2_spec {num den : ℕ} (hnum : 0 < num) (hden : 0 < den) :
    (2 : ℚ) ^ floorLog2 num den ≤ num / den ∧ (num : ℚ) / den < 2 ^ (floorLog2 num den + 1) := by
  have hpos : (0 : ℚ) < den := Nat.cast_pos.mpr hden
  have hnumLow : (2 : ℚ) ^ num.log2 ≤ num := by exact_mod_cast Nat.log2_self_le hnum.ne'
  have hnumHigh : (num : ℚ) < 2 ^ (num.log2 + 1) := by exact_mod_cast Nat.lt_log2_self
  have hdenLow : (2 : ℚ) ^ den.log2 ≤ den := by exact_mod_cast Nat.log2_self_le hden.ne'
  have hdenHigh : (den : ℚ) < 2 ^ (den.log2 + 1) := by exact_mod_cast Nat.lt_log2_self
  -- the two logarithms tell the binade, or the next one
  have hhigh : (num : ℚ) / den < 2 ^ ((num.log2 : ℤ) - den.log2 + 1) := by
    have hsplit : (num.log2 : ℤ) - den.log2 + 1 = ((num.log2 + 1 : ℕ) : ℤ) - den.log2 := by
      push_cast
      ring
    rw [hsplit, zpow_sub₀ two_ne_zero, zpow_natCast, zpow_natCast]
    exact div_lt_div₀ hnumHigh hdenLow (by positivity) (by positivity)
  have hlow : (2 : ℚ) ^ ((num.log2 : ℤ) - den.log2 - 1) ≤ num / den := by
    have hsplit : (num.log2 : ℤ) - den.log2 - 1 = num.log2 - ((den.log2 + 1 : ℕ) : ℤ) := by
      push_cast
      ring
    rw [hsplit, zpow_sub₀ two_ne_zero, zpow_natCast, zpow_natCast]
    exact div_le_div₀ (Nat.cast_nonneg num) hnumLow hpos hdenHigh.le
  have hreached := two_zpow_le_div_iff num hden ((num.log2 : ℤ) - den.log2)
  rw [floorLog2]
  -- it is the binade of the difference if the quotient reaches it, and the one before if not
  by_cases hguess : (2 : ℚ) ^ ((num.log2 : ℤ) - den.log2) ≤ num / den
  · have hcond := hreached.mp hguess
    rw [if_pos]
    · exact ⟨hguess, hhigh⟩
    · split_ifs at hcond ⊢ <;> simpa using hcond
  · have hcond := fun h => hguess (hreached.mpr h)
    rw [if_neg]
    · rw [sub_add_cancel]
      exact ⟨hlow, not_le.mp hguess⟩
    · split_ifs at hcond ⊢ <;> simpa using hcond

/-- The steps of the number nearest to a quotient: those of its binade, or the least ones. -/
theorem exponentFor_spec {num den : ℕ} (hnum : 0 < num) (hden : 0 < den) :
    leastExponent ≤ exponentFor num den ∧
      (num : ℚ) / den < 2 ^ (exponentFor num den + 53) ∧
      (exponentFor num den = leastExponent ∨ 2 ^ (exponentFor num den + 52) ≤ (num : ℚ) / den) := by
  obtain ⟨hlow, hhigh⟩ := floorLog2_spec hnum hden
  rw [exponentFor]
  refine ⟨le_max_left _ _, lt_of_lt_of_le hhigh ?_, ?_⟩
  · exact zpow_le_zpow_right₀ one_le_two (by omega)
  · rcases le_total (floorLog2 num den - 52) leastExponent with hleast | hbinade
    · exact .inl (max_eq_left hleast)
    · rw [max_eq_right hbinade, sub_add_cancel]
      exact .inr hlow

/-! ## Rounded quotients -/

/-- The significand of a rounded quotient is the quotient in steps of its exponent, rounded. -/
theorem exists_significand {num den : ℕ} (hnum : 0 < num) (hden : 0 < den) :
    ∃ s : ℕ, magnitudeOfRatio num den =
        min infinityMagnitude ((exponentFor num den - leastExponent).toNat * 2 ^ 52 + s) ∧
      |(num : ℚ) / den / 2 ^ exponentFor num den - s| ≤ 1 / 2 ∧
      (|(num : ℚ) / den / 2 ^ exponentFor num den - s| = 1 / 2 → s % 2 = 0) := by
  rw [magnitudeOfRatio, if_neg hnum.ne']
  generalize exponentFor num den = e
  simp only [Nat.shiftLeft_eq]
  -- a power of two with an exponent of the one sign multiplies the denominator, and of the other
  -- the numerator
  by_cases he : 0 ≤ e
  · obtain ⟨k, rfl⟩ := Int.eq_ofNat_of_zero_le he
    have hquotient : (num : ℚ) / den / 2 ^ (k : ℤ) = num / ((den * 2 ^ k : ℕ) : ℚ) := by
      rw [zpow_natCast, div_div]
      push_cast
      rfl
    rw [hquotient]
    refine ⟨_, ?_, abs_div_sub_nearestEven num (Nat.mul_pos hden (Nat.two_pow_pos k))⟩
    rw [if_pos he, Int.toNat_natCast]
  · obtain ⟨k, hk⟩ := Int.eq_ofNat_of_zero_le (a := -e) (by omega)
    obtain rfl : e = -(k : ℤ) := by omega
    have hquotient : (num : ℚ) / den / 2 ^ (-(k : ℤ)) = ((num * 2 ^ k : ℕ) : ℚ) / den := by
      rw [zpow_neg, zpow_natCast, div_inv_eq_mul, div_mul_eq_mul_div]
      push_cast
      rfl
    rw [hquotient]
    refine ⟨_, ?_, abs_div_sub_nearestEven (num * 2 ^ k) hden⟩
    rw [if_neg he, neg_neg, Int.toNat_natCast]

/-- A number that is rounded to an integer lies between the same integers as that integer. -/
theorem le_of_abs_sub_le_half {a : ℚ} {s k : ℕ} (h : |a - s| ≤ 1 / 2) :
    (a < k → s ≤ k) ∧ ((k : ℚ) ≤ a → k ≤ s) := by
  obtain ⟨hlow, hhigh⟩ := abs_le.mp h
  constructor
  · intro hbelow
    have hnext : (s : ℚ) < ((k + 1 : ℕ) : ℚ) := by
      push_cast
      linarith
    exact Nat.lt_succ_iff.mp (Nat.cast_lt.mp hnext)
  · intro habove
    have hnext : (k : ℚ) < ((s + 1 : ℕ) : ℚ) := by
      push_cast
      linarith
    exact Nat.lt_succ_iff.mp (Nat.cast_lt.mp hnext)

/-- Half a step beyond the largest number. -/
def overflowBound : ℚ := 2 ^ (1024 : ℤ) - 2 ^ (970 : ℤ)

theorem overflowBound_eq : overflowBound = (2 ^ 53 - 1 / 2) * 2 ^ (971 : ℤ) := by
  have hstep : (2 : ℚ) ^ (971 : ℤ) = 2 * 2 ^ (970 : ℤ) := zpow_one_add₀ two_ne_zero 970
  have hlast : (2 : ℚ) ^ (1024 : ℤ) = 2 ^ 54 * 2 ^ (970 : ℤ) := zpow_add₀ two_ne_zero 54 970
  rw [overflowBound, hstep, hlast]
  ring

/-- It lies between two powers of two. -/
theorem overflowBound_bounds : (2 : ℚ) ^ (1023 : ℤ) ≤ overflowBound ∧
    overflowBound ≤ 2 ^ (1024 : ℤ) := by
  have hpos : (0 : ℚ) < 2 ^ (971 : ℤ) := zpow_pos two_pos _
  have hlow : (2 : ℚ) ^ (1023 : ℤ) = 2 ^ 52 * 2 ^ (971 : ℤ) := zpow_add₀ two_ne_zero 52 971
  have hhigh : (2 : ℚ) ^ (1024 : ℤ) = 2 ^ 53 * 2 ^ (971 : ℤ) := zpow_add₀ two_ne_zero 53 971
  rw [overflowBound_eq, hlow, hhigh]
  constructor <;> exact mul_le_mul_of_nonneg_right (by norm_num) hpos.le

/-- A significand has 53 bits, or is the next power of two; only in the least steps it may have
fewer. -/
theorem significand_bounds {q : ℚ} {e : ℤ} {s : ℕ} (hhigh : q < 2 ^ (e + 53))
    (hbinade : e = leastExponent ∨ 2 ^ (e + 52) ≤ q) (hs : |q / 2 ^ e - s| ≤ 1 / 2) :
    s ≤ 2 ^ 53 ∧ (e = leastExponent ∨ 2 ^ 52 ≤ s) := by
  have hunit : (0 : ℚ) < 2 ^ e := zpow_pos two_pos e
  constructor
  · apply (le_of_abs_sub_le_half hs).1
    rw [div_lt_iff₀ hunit]
    rw [zpow_add₀ two_ne_zero, mul_comm] at hhigh
    exact_mod_cast hhigh
  · refine hbinade.imp id fun hlow => (le_of_abs_sub_le_half hs).2 ?_
    rw [le_div_iff₀ hunit]
    rw [zpow_add₀ two_ne_zero, mul_comm] at hlow
    exact_mod_cast hlow

/-- In the last binade, the quotients that are rounded up to the next power of two. The significand
of the largest number is odd, so that the quotient half a step beyond it is one of them. -/
theorem carry_iff {q : ℚ} {s : ℕ} (hs : |q / 2 ^ (971 : ℤ) - s| ≤ 1 / 2)
    (heven : |q / 2 ^ (971 : ℤ) - s| = 1 / 2 → s % 2 = 0) :
    2 ^ 53 ≤ s ↔ overflowBound ≤ q := by
  rw [overflowBound_eq, ← le_div_iff₀ (zpow_pos two_pos 971)]
  constructor
  · intro hcarry
    have hcarry' : (2 : ℚ) ^ 53 ≤ s := by exact_mod_cast hcarry
    linarith [(abs_le.mp hs).1]
  · intro hbeyond
    by_contra hbelow
    -- a smaller significand is the odd one, and off by a half
    have hle : (s : ℚ) ≤ 2 ^ 53 - 1 := by
      have hnext : s + 1 ≤ 2 ^ 53 := by omega
      have hnext' : (s : ℚ) + 1 ≤ 2 ^ 53 := by exact_mod_cast hnext
      linarith
    have hoff : q / 2 ^ (971 : ℤ) - s = 1 / 2 := by
      refine le_antisymm (abs_le.mp hs).2 ?_
      linarith
    have hsame : (s : ℚ) = ((2 ^ 53 - 1 : ℕ) : ℚ) := by
      push_cast
      linarith
    have hlargest : s = 2 ^ 53 - 1 := Nat.cast_injective hsame
    have heven' := heven (by rw [hoff]; exact abs_of_pos (by norm_num))
    omega

/-- The quotients that are rounded to the infinity: those of no binade of the format, and in the
last one those that are rounded up to the next power of two. -/
theorem infinityMagnitude_le_iff {q : ℚ} {e : ℤ} {s : ℕ} (he : leastExponent ≤ e)
    (hhigh : q < 2 ^ (e + 53)) (hbinade : e = leastExponent ∨ 2 ^ (e + 52) ≤ q)
    (hs : |q / 2 ^ e - s| ≤ 1 / 2) (heven : |q / 2 ^ e - s| = 1 / 2 → s % 2 = 0) :
    infinityMagnitude ≤ (e - leastExponent).toNat * 2 ^ 52 + s ↔ overflowBound ≤ q := by
  have hinfinity : infinityMagnitude = 2047 * 2 ^ 52 := Nat.shiftLeft_eq 2047 52
  have hfield : (e - leastExponent).toNat = e + 1074 := by
    rw [leastExponent] at he ⊢
    omega
  obtain ⟨hsHigh, hsLow⟩ := significand_bounds hhigh hbinade hs
  rcases lt_trichotomy e 971 with hbelow | rfl | habove
  · have hpower : (2 : ℚ) ^ (e + 53) ≤ 2 ^ (1023 : ℤ) :=
      zpow_le_zpow_right₀ one_le_two (by omega)
    refine iff_of_false (by omega) (not_le.mpr ?_)
    exact lt_of_lt_of_le hhigh (hpower.trans overflowBound_bounds.1)
  · rw [← carry_iff hs heven]
    omega
  · have hne : e ≠ leastExponent := by
      rw [leastExponent]
      omega
    have hpower : (2 : ℚ) ^ (1024 : ℤ) ≤ 2 ^ (e + 52) :=
      zpow_le_zpow_right₀ one_le_two (by omega)
    have hsLow' := hsLow.resolve_left hne
    exact iff_of_true (by omega)
      (overflowBound_bounds.2.trans (hpower.trans (hbinade.resolve_left hne)))

/-! ## Nearest numbers -/

/-- The number of the format that is nearest to a rational number. Of two equally near ones it is
the one whose significand is even, which is told by its last bit. From half a step beyond the
largest number on, it is the infinity of the same sign. -/
structure IsNearest (x : Binary64) (q : ℚ) : Prop where
  /-- Beyond the bound, the infinity. -/
  infinite : overflowBound ≤ |q| → x.reading = .infinite (decide (q < 0))
  /-- Below it, a finite number. -/
  finite : |q| < overflowBound → x.isFinite = true
  /-- No finite number is nearer. -/
  abs_sub_le : ∀ (v w : ℚ) (y : Binary64), x.toRat? = some v → y.toRat? = some w →
    |q - v| ≤ |q - w|
  /-- If another one is as near, the significand is even. -/
  even : ∀ (v w : ℚ) (y : Binary64), x.toRat? = some v → y.toRat? = some w →
    |q - w| = |q - v| → w ≠ v → x.magnitude % 2 = 0

theorem OnGrid.signed {w : ℚ} (h : OnGrid w) (negative : Bool) :
    OnGrid (QueryTemplate.signed negative w) := by
  cases negative with
  | true => exact h.neg
  | false => exact h

/-- The nearest number is finite below the bound. -/
theorem IsNearest.isFinite_iff {x : Binary64} {q : ℚ} (h : x.IsNearest q) :
    x.isFinite = true ↔ |q| < overflowBound := by
  refine ⟨fun hfinite => ?_, h.finite⟩
  by_contra hbeyond
  have hinfinite := h.infinite (not_lt.mp hbeyond)
  rw [← isSome_toRat?_iff, toRat?, hinfinite] at hfinite
  cases hfinite

/-- What has to be shown of magnitude bits, whatever the sign. -/
theorem isNearest_ofMagnitude (negative : Bool) {magnitude : ℕ} {q : ℚ} (hq : 0 ≤ q)
    (hmagnitude : magnitude ≤ infinityMagnitude)
    (hinfinite : infinityMagnitude ≤ magnitude ↔ overflowBound ≤ q)
    (hnear : magnitude < infinityMagnitude → ∃ v,
      (ofMagnitude negative magnitude).toRat? = some (signed negative v) ∧
      ∀ w, OnGrid w → |q - v| ≤ |q - w| ∧ (|q - w| = |q - v| → w ≠ v → magnitude % 2 = 0)) :
    IsNearest (ofMagnitude negative magnitude) (signed negative q) := by
  have hfinite := isFinite_ofMagnitude negative hmagnitude
  -- a number with an exact value is finite, so that its value is the nearest one
  have hvalue : ∀ v, (ofMagnitude negative magnitude).toRat? = some v →
      ∀ w y, Binary64.toRat? y = some w →
        |signed negative q - v| ≤ |signed negative q - w| ∧
        (|signed negative q - w| = |signed negative q - v| → w ≠ v → magnitude % 2 = 0) := by
    intro v hv w y hw
    have hsome : (ofMagnitude negative magnitude).toRat?.isSome = true := by
      rw [hv]
      rfl
    obtain ⟨v', hv', hgrid⟩ := hnear (hfinite.mp ((isSome_toRat?_iff _).mp hsome))
    obtain rfl : signed negative v' = v := Option.some.inj (hv'.symm.trans hv)
    obtain ⟨hle, htie⟩ := hgrid _ ((onGrid_of_toRat? hw).signed negative)
    rw [abs_signed_sub, abs_signed_sub, signed_signed]
    refine ⟨hle, fun hsame hne => htie hsame ?_⟩
    rintro rfl
    exact hne (signed_signed negative w).symm
  refine ⟨?_, ?_, fun v w y hv hw => (hvalue v hv w y hw).1, fun v w y hv hw => ?_⟩
  -- a quotient beyond the bound is not zero, so that the sign of the infinity is its own
  · intro hbeyond
    rw [abs_signed, abs_of_nonneg hq] at hbeyond
    have hpos : 0 < q :=
      lt_of_lt_of_le (zpow_pos two_pos _) (overflowBound_bounds.1.trans hbeyond)
    have hsign : decide (signed negative q < 0) = negative := by
      cases negative with
      | true => exact decide_eq_true (neg_lt_zero.mpr hpos)
      | false => exact decide_eq_false (not_lt.mpr hq)
    rw [hsign, le_antisymm hmagnitude (hinfinite.mpr hbeyond)]
    exact reading_infinity negative
  · intro hbelow
    rw [abs_signed, abs_of_nonneg hq] at hbelow
    exact hfinite.mpr (not_le.mp fun h => not_le.mpr hbelow (hinfinite.mp h))
  · rw [magnitude_ofMagnitude negative hmagnitude]
    exact (hvalue v hv w y hw).2

/-- Below half a step of the least numbers, zero is the nearest number. -/
theorem isNearest_zero (negative : Bool) {q : ℚ} (hq : 0 ≤ q)
    (hsmall : q ≤ 2 ^ (leastExponent - 1)) :
    IsNearest (ofMagnitude negative 0) (signed negative q) := by
  have hvalue : (ofMagnitude negative 0).toRat? = some (signed negative 0) := by
    have hfinite : 0 * 2 ^ 52 + 0 < infinityMagnitude := by decide
    have hsum := toRat?_ofMagnitude negative (Nat.zero_le _) (.inl rfl) hfinite
    rwa [zero_mul, zero_add, Nat.cast_zero, zero_mul] at hsum
  have hhalf : |q / 2 ^ leastExponent - (0 : ℕ)| ≤ 1 / 2 := by
    rw [Nat.cast_zero, sub_zero, abs_of_nonneg (div_nonneg hq (zpow_pos two_pos _).le),
      div_le_iff₀ (zpow_pos two_pos _)]
    rwa [zpow_sub_one₀ two_ne_zero, ← div_eq_mul_inv, ← one_div_mul_eq_div] at hsmall
  refine isNearest_ofMagnitude negative hq (Nat.zero_le _) (iff_of_false (by decide) ?_) ?_
  · have hbelow : (2 : ℚ) ^ (leastExponent - 1) < 2 ^ (1023 : ℤ) :=
      zpow_lt_zpow_right₀ one_lt_two (by decide)
    exact not_le.mpr (lt_of_le_of_lt hsmall (lt_of_lt_of_le hbelow overflowBound_bounds.1))
  · intro _
    refine ⟨0, hvalue, fun w hw => ?_⟩
    have hnear := nearest_onGrid (.inl rfl) hhalf (fun _ => rfl) hw
    rwa [Nat.cast_zero, zero_mul] at hnear

/-- From half a step beyond the largest number on, the infinity is. -/
theorem isNearest_infinity (negative : Bool) {q : ℚ} (hbeyond : overflowBound ≤ q) :
    IsNearest (infinity negative) (signed negative q) := by
  have hq : 0 ≤ q := le_trans (zpow_pos two_pos _).le (overflowBound_bounds.1.trans hbeyond)
  exact isNearest_ofMagnitude negative hq le_rfl (iff_of_true le_rfl hbeyond)
    fun h => absurd h (lt_irrefl _)

/-- A quotient is rounded to the number nearest to it. -/
theorem isNearest_ofRatio (negative : Bool) (num : ℕ) {den : ℕ} (hden : 0 < den) :
    IsNearest (ofRatio negative num den) (signed negative (num / den)) := by
  rcases Nat.eq_zero_or_pos num with rfl | hnum
  · rw [Nat.cast_zero, zero_div]
    exact isNearest_zero negative le_rfl (zpow_pos two_pos _).le
  · obtain ⟨hleast, hhigh, hbinade⟩ := exponentFor_spec hnum hden
    obtain ⟨s, hmagnitude, hhalf, heven⟩ := exists_significand hnum hden
    rw [ofRatio, hmagnitude]
    -- all that matters of the exponent is stated above
    generalize exponentFor num den = e at hleast hhigh hbinade hhalf heven ⊢
    have hinfinite := infinityMagnitude_le_iff hleast hhigh hbinade hhalf heven
    obtain ⟨hsHigh, hsLow⟩ := significand_bounds hhigh hbinade hhalf
    refine isNearest_ofMagnitude negative (div_nonneg (Nat.cast_nonneg _) (Nat.cast_nonneg _))
      (min_le_left _ _) ?_ ?_
    · rw [le_min_iff, hinfinite]
      exact and_iff_right le_rfl
    -- the significand and the exponent are those of a finite number, and it is the nearest on the
    -- grid
    · intro hbelow
      have hfinite := (min_lt_iff.mp hbelow).resolve_left (lt_irrefl _)
      have hnormal : (e - leastExponent).toNat = 0 ∨ 2 ^ 52 ≤ s := hsLow.imp (by omega) id
      have hvalue := toRat?_ofMagnitude negative hsHigh hnormal hfinite
      have hexponent : leastExponent + (e - leastExponent).toNat = e := by omega
      rw [hexponent] at hvalue
      rw [min_eq_right hfinite.le]
      refine ⟨_, hvalue, fun w hw => ?_⟩
      obtain ⟨hle, htie⟩ := nearest_onGrid hbinade hhalf heven hw
      refine ⟨hle, fun hsame hne => ?_⟩
      have hs := htie hsame hne
      omega

end Binary64

end QueryTemplate
