import QueryTemplate.Proofs.Binary64.Nearest

/-!
# Numbers and their bits

Numbers of the format and their patterns of bits belong together one to one, the two zeros aside,
and an integer has such a number unless it lies too far beyond the largest one.
-/

namespace QueryTemplate.Binary64

/-!
## A number has one pattern of bits

The two zeros aside, no two finite numbers of the format are the same number. A significand that is
not filled up to its first bit belongs to the least exponent, so that a number leaves no choice of
its exponent, and with the significand the exponent and the sign give the bits.
-/

/-- The sign and the bits below it, from what the bits of a finite number say. -/
theorem magnitude_of_reading {x : Binary64} {negative : Bool} {m : ℕ} {e : ℤ}
    (h : x.reading = .finite negative m e) :
    x.isNegative = negative ∧ x.magnitude = (e - leastExponent).toNat * 2 ^ 52 + m ∧
      (e = leastExponent ∨ 2 ^ 52 ≤ m) := by
  have hsplit : x.magnitude / 2 ^ 52 * 2 ^ 52 + x.magnitude % 2 ^ 52 = x.magnitude :=
    Nat.div_add_mod' _ _
  have hfirst : firstNormal = 2 ^ 52 := by decide
  unfold reading at h
  simp only [Nat.shiftRight_eq_div_pow, Nat.one_shiftLeft] at h
  split_ifs at h with hspecial hfraction hfield
  · obtain ⟨rfl, rfl, rfl⟩ := Reading.finite.inj h
    refine ⟨rfl, ?_, .inl rfl⟩
    rw [sub_self]
    omega
  · obtain ⟨rfl, rfl, rfl⟩ := Reading.finite.inj h
    refine ⟨rfl, ?_, .inr (by omega)⟩
    rw [add_sub_cancel_left, Int.toNat_natCast, hfirst]
    omega

/-- The bits of a number are its sign and the bits below it. -/
theorem toNat_bits (x : Binary64) :
    x.bits.toNat = (if x.isNegative then 2 ^ 63 else 0) + x.magnitude := by
  have hbound : x.bits.toNat < 2 ^ 64 := x.bits.toNat_lt
  rw [isNegative, magnitude, Nat.one_shiftLeft]
  by_cases hsign : 2 ^ 63 ≤ x.bits.toNat
  · rw [if_pos (decide_eq_true hsign)]
    omega
  · rw [if_neg (by simpa using hsign)]
    omega

/-- Finite numbers of which the bits say the same are one. -/
theorem eq_of_reading_eq {x y : Binary64} {negative : Bool} {m : ℕ} {e : ℤ}
    (hx : x.reading = .finite negative m e) (hy : y.reading = .finite negative m e) : x = y := by
  obtain ⟨hsign, hmagnitude, -⟩ := magnitude_of_reading hx
  obtain ⟨hsign', hmagnitude', -⟩ := magnitude_of_reading hy
  have hbits : x.bits.toNat = y.bits.toNat := by
    rw [toNat_bits, toNat_bits, hsign, hsign', hmagnitude, hmagnitude']
  have heq : x.bits = y.bits := UInt64.toNat_inj.mp hbits
  cases x
  cases y
  exact congrArg Binary64.mk heq

/-- A number in two exponents: with the smaller one, the significand would be too large. -/
theorem exponent_le {m m' : ℕ} {e e' : ℤ} (h : (m : ℚ) * 2 ^ e = m' * 2 ^ e') (hm : m < 2 ^ 53)
    (he : leastExponent ≤ e) (hfilled : e' = leastExponent ∨ 2 ^ 52 ≤ m') : e' ≤ e := by
  by_contra hlt
  rw [not_le] at hlt
  have hm' : 2 ^ 52 ≤ m' := hfilled.resolve_left (by omega)
  have hbelow := lt_of_smaller_step (k := m) (by rw [Nat.abs_cast]; exact_mod_cast hm) hlt
  have habove : (2 : ℚ) ^ 52 * 2 ^ e' ≤ m' * 2 ^ e' :=
    mul_le_mul_of_nonneg_right (by exact_mod_cast hm') (zpow_nonneg zero_le_two e')
  rw [Int.cast_natCast, h] at hbelow
  exact absurd (lt_of_lt_of_le hbelow habove) (lt_irrefl _)

/-- A number other than zero has one sign. -/
theorem signed_inj {negative negative' : Bool} {a b : ℚ} (ha : 0 ≤ a) (hb : 0 ≤ b)
    (h : signed negative a = signed negative' b) (hne : signed negative a ≠ 0) :
    negative = negative' ∧ a = b := by
  cases negative <;> cases negative' <;> simp only [signed, if_true, Bool.false_eq_true, if_false,
    ne_eq, neg_eq_zero, neg_inj] at h hne
  · exact ⟨rfl, h⟩
  · exact absurd (le_antisymm (by linarith) ha) hne
  · exact absurd (le_antisymm (by linarith) ha) hne
  · exact ⟨rfl, h⟩

/-- What the bits of a number with an exact value say. -/
theorem exists_reading_of_toRat? {x : Binary64} {q : ℚ} (h : x.toRat? = some q) :
    ∃ negative m e, x.reading = .finite negative m e ∧ signed negative ((m : ℚ) * 2 ^ e) = q := by
  unfold toRat? at h
  cases hreading : x.reading with
  | finite negative m e =>
    rw [hreading] at h
    exact ⟨negative, m, e, rfl, Option.some.inj h⟩
  | _ =>
    rw [hreading] at h
    cases h

/-- Finite numbers of the format that are the same number, and not zero, are the same of the
format. -/
theorem eq_of_toRat?_eq {x y : Binary64} {q : ℚ} (hx : x.toRat? = some q) (hy : y.toRat? = some q)
    (hq : q ≠ 0) : x = y := by
  obtain ⟨negative, m, e, hreading, hvalue⟩ := exists_reading_of_toRat? hx
  obtain ⟨negative', m', e', hreading', hvalue'⟩ := exists_reading_of_toRat? hy
  have hnonneg : 0 ≤ (m : ℚ) * 2 ^ e := by positivity
  have hnonneg' : 0 ≤ (m' : ℚ) * 2 ^ e' := by positivity
  obtain ⟨rfl, hsame⟩ :=
    signed_inj hnonneg hnonneg' (hvalue.trans hvalue'.symm) (by rwa [hvalue])
  obtain ⟨hm, he⟩ := reading_bounds hreading
  obtain ⟨hm', he'⟩ := reading_bounds hreading'
  obtain ⟨-, -, hfilled⟩ := magnitude_of_reading hreading
  obtain ⟨-, -, hfilled'⟩ := magnitude_of_reading hreading'
  obtain rfl : e = e' :=
    le_antisymm (exponent_le hsame.symm hm' he' hfilled) (exponent_le hsame hm he hfilled')
  have hpower : (2 : ℚ) ^ e ≠ 0 := zpow_ne_zero e two_ne_zero
  obtain rfl : m = m' := by exact_mod_cast mul_right_cancel₀ hpower hsame
  exact eq_of_reading_eq hreading hreading'

end QueryTemplate.Binary64

namespace QueryTemplate

/-!
## Integers beyond the largest number

An integer has a nearest number of the format unless it is at least half a step beyond the largest
one: `2 ^ 1024 - 2 ^ 970` is the first integer without one. Below the largest number a step is
`2 ^ 971`, and the integer half a step beyond it would be rounded to `2 ^ 1024`, as the significand
of the largest number is odd.
-/

namespace Binary64

/-- Half a step beyond the largest number is an integer. -/
theorem overflowBound_eq_cast : overflowBound = ((2 ^ 1024 - 2 ^ 970 : ℕ) : ℚ) := by
  have hle : 2 ^ 970 ≤ 2 ^ 1024 := pow_le_pow_right₀ one_le_two (by decide)
  rw [Nat.cast_sub hle, Nat.cast_pow, Nat.cast_pow, Nat.cast_ofNat, ← zpow_natCast, ← zpow_natCast]
  rfl

/-- The integers that are rounded to a finite number, by their absolute value. -/
theorem isFinite_ofRatio (negative : Bool) (n : Nat) :
    (ofRatio negative n 1).isFinite = true ↔ n < 2 ^ 1024 - 2 ^ 970 := by
  have hnearest := isNearest_ofRatio negative n Nat.one_pos
  rw [hnearest.isFinite_iff, abs_signed, Nat.cast_one, div_one, Nat.abs_cast,
    overflowBound_eq_cast, Nat.cast_lt]

/-- The integers without a nearest number. -/
theorem ofInt?_eq_none_iff {i : Int} : ofInt? i = none ↔ 2 ^ 1024 - 2 ^ 970 ≤ i.natAbs := by
  rw [← Nat.not_lt, ← isFinite_ofRatio (i < 0), ofInt?]
  by_cases hfinite : (ofRatio (i < 0) i.natAbs 1).isFinite = true
  · simp only [if_pos hfinite]
    exact iff_of_false (Option.some_ne_none _) (not_not_intro hfinite)
  · simp only [if_neg hfinite]
    exact iff_of_true trivial hfinite

end Binary64

end QueryTemplate
