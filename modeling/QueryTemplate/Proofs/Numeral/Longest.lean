import QueryTemplate.Numeral
import QueryTemplate.Proofs.Binary64.Nearest
import QueryTemplate.Proofs.Numeral.Grammar

/-!
# What is read of a numeral

Reading takes the longest numeral at the start of a text, and gives the number of the format that is
nearest to what the numeral denotes.
-/

namespace QueryTemplate

/-!
## The longest numeral

A text is read part by part, and each part goes as far as it can. That the whole goes as far as a
numeral can is not the same: `1e+` ends behind the digit, as no digit follows the sign. Here every
numeral at the start of a text is shown to be no longer than what is read of the text, and a text of
which nothing is read to begin with no numeral at all.
-/

/-- A text that is a numeral. -/
def IsNumeral (p : Text) : Prop := ∃ n : Numeral, n.WellFormed ∧ n.text = p

/-- A numeral at the start of a text that no other one there is longer than. -/
structure IsLongestNumeral (p t : Text) : Prop where
  /-- The text begins with it. -/
  begins : p <+: t
  /-- It is a numeral. -/
  isNumeral : IsNumeral p
  /-- No other one is longer. -/
  length_le : ∀ q, q <+: t → IsNumeral q → q.length ≤ p.length

/-- There is one longest numeral at most. -/
theorem IsLongestNumeral.unique {p q t : Text} (hp : IsLongestNumeral p t)
    (hq : IsLongestNumeral q t) : p = q := by
  have hlength : p.length = q.length :=
    Nat.le_antisymm (hq.length_le p hp.begins hp.isNumeral) (hp.length_le q hq.begins hq.isNumeral)
  exact (List.prefix_of_prefix_length_le hp.begins hq.begins hlength.le).eq_of_length hlength

namespace Numeral

/-! ### What is left behind each part -/

theorem length_dropWhile_le (p : Char → Bool) (t : Text) : (t.dropWhile p).length ≤ t.length :=
  (List.dropWhile_sublist p).length_le

theorem length_splitFraction_le (t : Text) : (splitFraction t).2.length ≤ t.length := by
  have htext := congrArg List.length (append_splitFraction t).1
  rw [List.length_append] at htext
  omega

theorem length_splitExponent_le (t : Text) : (splitExponent t).2.length ≤ t.length := by
  have htext := congrArg List.length (append_splitExponent t).1
  rw [List.length_append] at htext
  omega

/-- Digits are split off together with the digits that follow them. -/
theorem splitWhile_append_of_forall {p : Char → Bool} {s : Text} (hs : ∀ c ∈ s, p c = true)
    (t : Text) : (s ++ t).splitWhile p = (s ++ t.takeWhile p, t.dropWhile p) := by
  rw [Text.splitWhile, List.takeWhile_append_of_pos hs, List.dropWhile_append_of_pos hs]

theorem splitFraction_of_head?_ne {t : Text} (h : ∀ c ∈ t.head?, c ≠ '.') :
    splitFraction t = (none, t) := by
  unfold splitFraction
  split
  · exact absurd rfl (h '.' rfl)
  · rfl

theorem splitFraction_point (t : Text) :
    splitFraction ('.' :: t) = (some (t.takeWhile isDigit), t.dropWhile isDigit) := rfl

theorem isDigit_head?_dropWhile (t : Text) :
    ∀ c ∈ (t.dropWhile isDigit).head?, isDigit c = false := by
  intro c hc
  have hstop := List.head?_dropWhile_not isDigit t
  rw [Option.mem_def.mp hc] at hstop
  exact hstop

/-- An exponent is split off with the digits that follow it. -/
theorem length_splitExponent_text_append {e : Exponent} (he : e.WellFormed) (s : Text) :
    (splitExponent (e.text ++ s)).2.length ≤ s.length := by
  -- the exponent with those digits is one that no digit follows
  let longer : Exponent := ⟨e.mark, e.sign, e.digits ++ s.takeWhile isDigit⟩
  have hlonger : longer.WellFormed := by
    refine ⟨he.mark, he.sign, ?_, fun hnil => he.nonempty (List.append_eq_nil_iff.mp hnil).1⟩
    intro c hc
    rcases List.mem_append.mp hc with hc | hc
    · exact he.digits c hc
    · exact List.mem_takeWhile_imp hc
  have htext : e.text ++ s = longer.text ++ s.dropWhile isDigit := by
    simp only [Exponent.text, longer, List.cons_append, List.append_assoc,
      List.takeWhile_append_dropWhile]
  have hsplit : splitExponent (((some longer).map Exponent.text).getD [] ++ s.dropWhile isDigit) =
      (some longer, s.dropWhile isDigit) := by
    refine splitExponent_append ?_ ?_ (isDigit_head?_dropWhile s)
    · intro e' he'
      rwa [← Option.some.inj he']
    · intro hnone
      cases hnone
  rw [htext]
  show (splitExponent (((some longer).map Exponent.text).getD [] ++ _)).2.length ≤ _
  rw [hsplit]
  exact length_dropWhile_le isDigit s

/-- Behind the digits of a numeral its exponent is split off, with or without a point in front of
it.
-/
theorem length_splitExponent_behind {n : Numeral} (h : n.WellFormed) (s : Text) :
    let behind := ((n.exponent.map Exponent.text).getD [] ++ s).dropWhile isDigit
    (splitExponent behind).2.length ≤ s.length ∧
      (splitExponent (splitFraction behind).2).2.length ≤ s.length := by
  cases hexponent : n.exponent with
  | some e =>
    have he := h.exponent e hexponent
    -- the letter is neither a digit nor the point
    have hmark : isDigit e.mark = false ∧ e.mark ≠ '.' := by
      rcases he.mark with hletter | hletter <;> rw [hletter] <;> decide
    have hdrop : (e.text ++ s).dropWhile isDigit = e.text ++ s := by
      show (e.mark :: (e.sign.toList ++ e.digits) ++ s).dropWhile isDigit = _
      rw [List.cons_append, List.dropWhile_cons, hmark.1]
      rfl
    have hpoint : splitFraction (e.text ++ s) = (none, e.text ++ s) := by
      apply splitFraction_of_head?_ne
      intro c hc
      obtain rfl : e.mark = c := Option.some.inj hc
      exact hmark.2
    show (splitExponent ((e.text ++ s).dropWhile isDigit)).2.length ≤ _ ∧
      (splitExponent (splitFraction ((e.text ++ s).dropWhile isDigit)).2).2.length ≤ _
    rw [hdrop, hpoint]
    exact ⟨length_splitExponent_text_append he s, length_splitExponent_text_append he s⟩
  | none =>
    have hdrop : (s.dropWhile isDigit).length ≤ s.length := length_dropWhile_le isDigit s
    have hfraction := length_splitFraction_le (s.dropWhile isDigit)
    have hexponent' := length_splitExponent_le (s.dropWhile isDigit)
    have hexponent'' := length_splitExponent_le (splitFraction (s.dropWhile isDigit)).2
    exact ⟨by simpa using le_trans hexponent' hdrop,
      by simpa using le_trans hexponent'' (le_trans hfraction hdrop)⟩

/-- The digits of a numeral are split off with the digits that follow them, and no more is left than
what follows the numeral. -/
theorem exists_split_digits {n : Numeral} (h : n.WellFormed) (s : Text) :
    ∃ whole fraction middle rest,
      Text.splitWhile isDigit (n.whole ++ ((n.fraction.map ('.' :: ·)).getD [] ++
        ((n.exponent.map Exponent.text).getD [] ++ s))) = (whole, middle) ∧
      splitFraction middle = (fraction, rest) ∧
      ¬(whole.isEmpty && (fraction.getD []).isEmpty) = true ∧
      (splitExponent rest).2.length ≤ s.length := by
  obtain ⟨hplain, hpointed⟩ := length_splitExponent_behind h s
  cases hfraction : n.fraction with
  | some f =>
    have hf : ∀ c ∈ f, isDigit c = true := h.fraction f hfraction
    have hwhole := splitWhile_append (t := '.' :: (f ++ ((n.exponent.map Exponent.text).getD [] ++
      s))) h.whole (fun c hc => by obtain rfl : '.' = c := Option.some.inj hc; decide)
    refine ⟨_, _, _, _, hwhole, splitFraction_point _, ?_, ?_⟩
    · rw [Bool.and_eq_true, List.isEmpty_iff, List.isEmpty_iff, Option.getD_some,
        List.takeWhile_append_of_pos hf, List.append_eq_nil_iff]
      rintro ⟨hno, hnot, -⟩
      rcases h.nonempty with hne | hne
      · exact hne hno
      · rw [hfraction] at hne
        exact hne hnot
    · rw [List.dropWhile_append_of_pos hf]
      exact hplain
  | none =>
    -- without a point the digits may go on in what follows, and more of them are split off
    refine ⟨_, _, _, _, splitWhile_append_of_forall h.whole _, rfl, ?_, hpointed⟩
    rw [Bool.and_eq_true, List.isEmpty_iff, List.append_eq_nil_iff]
    rintro ⟨⟨hno, -⟩, -⟩
    rcases h.nonempty with hne | hne
    · exact hne hno
    · rw [hfraction] at hne
      exact hne rfl

/-- Of a text that begins with a numeral, as much as that numeral is read at least. -/
theorem exists_read?_text_append {n : Numeral} (h : n.WellFormed) (s : Text) :
    ∃ m rest, read? (n.text ++ s) = some (m, rest) ∧ rest.length ≤ s.length := by
  have hwhole := h.head?_whole ((n.exponent.map Exponent.text).getD [] ++ s)
  have hsign := h.head?_sign ((n.exponent.map Exponent.text).getD [] ++ s)
  obtain ⟨whole, fraction, middle, rest, hdigits, hfraction, hsome, hlength⟩ :=
    exists_split_digits h s
  refine ⟨⟨n.lead, n.sign, whole, fraction, (splitExponent rest).1⟩, (splitExponent rest).2, ?_,
    hlength⟩
  rw [text_append, read?, splitWhile_append h.lead hsign]
  simp only [splitSign_append h.sign fun c hc => (hwhole c hc).1, hdigits, hfraction, if_neg hsome]

/-! ### What is read is the longest numeral -/

variable {n : Numeral} {t rest : Text}

/-- What is read of a text is the longest numeral at its start. -/
theorem isLongestNumeral_of_read? (h : read? t = some (n, rest)) : IsLongestNumeral n.text t := by
  obtain ⟨hformed, htext⟩ := wellFormed_of_read? h
  refine ⟨⟨rest, htext.symm⟩, ⟨n, hformed, rfl⟩, ?_⟩
  rintro q ⟨s, hs⟩ ⟨m, hm, rfl⟩
  obtain ⟨found, left, hread, hleft⟩ := exists_read?_text_append hm s
  rw [hs, h] at hread
  obtain ⟨-, rfl⟩ := Prod.mk.inj (Option.some.inj hread)
  have hlength := congrArg List.length (hs.trans htext)
  rw [List.length_append, List.length_append] at hlength
  omega

/-- Nothing is read of the texts that begin with no numeral. -/
theorem read?_eq_none_iff : read? t = none ↔ ¬∃ p, p <+: t ∧ IsNumeral p := by
  constructor
  · rintro hnone ⟨p, ⟨s, rfl⟩, m, hm, rfl⟩
    obtain ⟨found, left, hread, -⟩ := exists_read?_text_append hm s
    rw [hnone] at hread
    cases hread
  · intro hno
    cases hread : read? t with
    | none => rfl
    | some found =>
      have hlongest := isLongestNumeral_of_read? hread
      exact absurd ⟨_, hlongest.begins, hlongest.isNumeral⟩ hno

/-- A text that begins with a numeral begins with a longest one. -/
theorem exists_isLongestNumeral (h : ∃ p, p <+: t ∧ IsNumeral p) : ∃ p, IsLongestNumeral p t := by
  cases hread : read? t with
  | none => exact absurd h (read?_eq_none_iff.mp hread)
  | some found => exact ⟨found.1.text, isLongestNumeral_of_read? hread⟩

/-- A numeral is read of itself. -/
theorem read?_text (h : n.WellFormed) : read? n.text = some (n, []) := by
  have hread : read? (n.text ++ []) = some (n, []) := by
    refine read?_text_append h ?_
    intro c hc
    cases hc
  rwa [List.append_nil] at hread

/-- A text has the parts of a numeral in one way at most. -/
theorem WellFormed.eq_of_text_eq {m : Numeral} (hn : n.WellFormed) (hm : m.WellFormed)
    (h : n.text = m.text) : n = m := by
  have hread := read?_text hn
  rw [h, read?_text hm] at hread
  exact (Prod.mk.inj (Option.some.inj hread)).1.symm

/-- The longest numeral at the start of a text is read of it, and of itself. -/
theorem exists_read?_of_isLongestNumeral {p : Text} (h : IsLongestNumeral p t) :
    ∃ n rest, n.WellFormed ∧ n.text = p ∧ read? t = some (n, rest) ∧ read? p = some (n, []) := by
  cases hread : read? t with
  | none => exact absurd ⟨p, h.begins, h.isNumeral⟩ (read?_eq_none_iff.mp hread)
  | some found =>
    obtain ⟨n, rest⟩ := found
    have hformed := (wellFormed_of_read? hread).1
    have htext : n.text = p := (isLongestNumeral_of_read? hread).unique h
    exact ⟨n, rest, hformed, htext, rfl, htext ▸ read?_text hformed⟩

/-! ### The characters of numerals -/

/-- The characters that only a point or an exponent puts into a numeral. -/
def isPointOrMark (c : Char) : Bool := c = '.' || c = 'e' || c = 'E'

theorem isPointOrMark_iff {c : Char} : isPointOrMark c = true ↔ c = '.' ∨ c = 'e' ∨ c = 'E' := by
  simp only [isPointOrMark, Bool.or_eq_true, decide_eq_true_eq, or_assoc]

/-- They are neither blanks nor signs nor digits. -/
theorem isPointOrMark_eq_false {c : Char}
    (h : isBlank c = true ∨ isSign c = true ∨ isDigit c = true) : isPointOrMark c = false := by
  rw [Bool.eq_false_iff]
  intro hpoint
  rcases isPointOrMark_iff.mp hpoint with rfl | rfl | rfl <;> exact absurd h (by decide)

/-- Behind its blanks a numeral has signs, digits, the point and the letter of its exponent only. -/
theorem WellFormed.mem_text (h : n.WellFormed) {c : Char} (hc : c ∈ n.text) :
    c ∈ n.lead ∨ isSign c = true ∨ isDigit c = true ∨ isPointOrMark c = true := by
  simp only [Numeral.text, List.mem_append, or_assoc] at hc
  rcases hc with hlead | hsign | hwhole | hfraction | hexponent
  · exact .inl hlead
  · exact .inr (.inl (h.sign c (Option.mem_toList.mp hsign)))
  · exact .inr (.inr (.inl (h.whole c hwhole)))
  · cases hn : n.fraction with
    | none =>
      rw [hn] at hfraction
      cases hfraction
    | some f =>
      rw [hn] at hfraction
      rcases List.mem_cons.mp hfraction with rfl | hdigit
      · exact .inr (.inr (.inr (by decide)))
      · exact .inr (.inr (.inl (h.fraction f hn c hdigit)))
  · cases hn : n.exponent with
    | none =>
      rw [hn] at hexponent
      cases hexponent
    | some e =>
      have he := h.exponent e hn
      rw [hn] at hexponent
      rcases List.mem_append.mp hexponent with hfront | hdigit
      · rcases List.mem_cons.mp hfront with rfl | hsign
        · exact .inr (.inr (.inr (isPointOrMark_iff.mpr (.inr he.mark))))
        · exact .inr (.inl (he.sign c (Option.mem_toList.mp hsign)))
      · exact .inr (.inr (.inl (he.digits c hdigit)))

/-- The blanks of a numeral stand in front of it. -/
theorem WellFormed.mem_lead (h : n.WellFormed) {c : Char} (hc : c ∈ n.text)
    (hblank : isBlank c = true) : c ∈ n.lead := by
  rcases h.mem_text hc with hlead | hsign | hdigit | hpoint
  · exact hlead
  · rw [(isDigit_isBlank_of_isSign hsign).2] at hblank
    cases hblank
  · rw [(isSign_isBlank_of_isDigit hdigit).2] at hblank
    cases hblank
  · rw [isPointOrMark_eq_false (.inl hblank)] at hpoint
    cases hpoint

/-- A numeral has neither a point nor an exponent if their characters do not occur in it. -/
theorem WellFormed.isInteger_iff (h : n.WellFormed) :
    n.isInteger = true ↔ ∀ c ∈ n.text, isPointOrMark c = false := by
  rw [isInteger, Bool.and_eq_true, Option.isNone_iff_eq_none, Option.isNone_iff_eq_none]
  constructor
  · rintro ⟨hfraction, hexponent⟩ c hc
    simp only [Numeral.text, hfraction, hexponent, Option.map_none, Option.getD_none,
      List.append_nil, List.mem_append, or_assoc] at hc
    rcases hc with hlead | hsign | hwhole
    · exact isPointOrMark_eq_false (.inl (h.lead c hlead))
    · exact isPointOrMark_eq_false (.inr (.inl (h.sign c (Option.mem_toList.mp hsign))))
    · exact isPointOrMark_eq_false (.inr (.inr (h.whole c hwhole)))
  -- a point and the letter of an exponent would be among the characters
  · intro hnone
    constructor
    · cases hn : n.fraction with
      | none => rfl
      | some f =>
        have hpoint : '.' ∈ n.text := by
          simp [Numeral.text, hn]
        exact absurd (hnone '.' hpoint) (by decide)
    · cases hn : n.exponent with
      | none => rfl
      | some e =>
        have hmark : e.mark ∈ n.text := by
          simp [Numeral.text, hn, Exponent.text]
        have hpoint := isPointOrMark_iff.mpr (.inr (h.exponent e hn).mark)
        rw [hnone e.mark hmark] at hpoint
        cases hpoint

end Numeral

/-!
## Numerals as numbers

A numeral denotes a rational number: the integer that its digits denote, with the point left out,
times a power of ten. It is read as the number of the format that is nearest to it. Powers of ten
that are out of reach are not computed; here they are shown to be out of reach.
-/

namespace Binary64

/-- The decimal digits of a power of two: `log₁₀ 2 < 0.30103`. -/
theorem two_pow_lt_ten_pow (k : ℕ) : 2 ^ k < 10 ^ (k * 30103 / 100000 + 1) := by
  have hlog : 2 ^ 100000 ≤ 10 ^ 30103 := by decide +kernel
  have hdigits : k * 30103 < 100000 * (k * 30103 / 100000 + 1) := by omega
  apply lt_of_pow_lt_pow_left₀ 100000 (Nat.zero_le _)
  calc (2 ^ k) ^ 100000 = (2 ^ 100000) ^ k := by rw [← pow_mul, ← pow_mul, Nat.mul_comm]
    _ ≤ (10 ^ 30103) ^ k := Nat.pow_le_pow_left hlog k
    _ = 10 ^ (k * 30103) := by rw [← pow_mul, Nat.mul_comm]
    _ < 10 ^ (100000 * (k * 30103 / 100000 + 1)) := Nat.pow_lt_pow_right (by decide) hdigits
    _ = (10 ^ (k * 30103 / 100000 + 1)) ^ 100000 := by rw [← pow_mul, Nat.mul_comm]

/-- A number has no more digits than the bound. -/
theorem lt_ten_pow_digitBound (n : ℕ) : n < 10 ^ digitBound n := by
  calc n < 2 ^ (n.log2 + 1) := Nat.lt_log2_self
    _ = 2 ^ n.log2 * 2 := pow_succ 2 n.log2
    _ ≤ 10 ^ (n.log2 * 30103 / 100000 + 1) * 10 :=
      Nat.mul_le_mul (two_pow_lt_ten_pow n.log2).le (by decide)
    _ = 10 ^ digitBound n := (pow_succ 10 _).symm

/-- Beyond the largest power of ten that is computed, numbers are beyond the largest one. -/
theorem overflowBound_le_of_lt {digits : ℕ} {exponent : ℤ} (hdigits : digits ≠ 0)
    (hlarge : 400 < exponent) : overflowBound ≤ digits * 10 ^ exponent := by
  have hone : (1 : ℚ) ≤ digits := by exact_mod_cast Nat.one_le_iff_ne_zero.mpr hdigits
  have hten : (0 : ℚ) ≤ 10 ^ exponent := zpow_nonneg (by norm_num) exponent
  have hpower : (2 : ℚ) ^ (1024 : ℤ) ≤ 10 ^ (400 : ℤ) := by
    have hnat : 2 ^ 1024 ≤ 10 ^ 400 := by decide +kernel
    exact_mod_cast hnat
  calc overflowBound ≤ 2 ^ (1024 : ℤ) := overflowBound_bounds.2
    _ ≤ 10 ^ (400 : ℤ) := hpower
    _ ≤ 10 ^ exponent := zpow_le_zpow_right₀ (by norm_num) hlarge.le
    _ ≤ digits * 10 ^ exponent := le_mul_of_one_le_left hten hone

/-- Below the least power of ten that is computed, they are below half a step of the least ones. -/
theorem le_two_zpow_of_digitBound {digits : ℕ} {exponent : ℤ}
    (hsmall : (digitBound digits : ℤ) + exponent < -330) :
    (digits : ℚ) * 10 ^ exponent ≤ 2 ^ (leastExponent - 1) := by
  have hten : (0 : ℚ) ≤ 10 ^ exponent := zpow_nonneg (by norm_num) exponent
  have hbound : (digits : ℚ) ≤ 10 ^ (digitBound digits : ℤ) := by
    rw [zpow_natCast]
    exact_mod_cast (lt_ten_pow_digitBound digits).le
  have hpower : (10 : ℚ) ^ (-331 : ℤ) ≤ 2 ^ (-1075 : ℤ) := by
    have hnat : 2 ^ 1075 ≤ 10 ^ 331 := by decide +kernel
    rw [zpow_neg, zpow_neg]
    exact inv_anti₀ (zpow_pos two_pos _) (by exact_mod_cast hnat)
  calc (digits : ℚ) * 10 ^ exponent ≤ 10 ^ (digitBound digits : ℤ) * 10 ^ exponent :=
        mul_le_mul_of_nonneg_right hbound hten
    _ = 10 ^ ((digitBound digits : ℤ) + exponent) := (zpow_add₀ (by norm_num) _ _).symm
    _ ≤ 10 ^ (-331 : ℤ) := zpow_le_zpow_right₀ (by norm_num) (by omega)
    _ ≤ 2 ^ (-1075 : ℤ) := hpower

/-- Digits and a power of ten are rounded to the nearest number. -/
theorem isNearest_ofDecimal (negative : Bool) (digits : ℕ) (exponent : ℤ) :
    IsNearest (ofDecimal negative digits exponent)
      (signed negative (digits * 10 ^ exponent)) := by
  unfold ofDecimal
  -- zero, far beyond the largest number, far below the least one, and the two signs of the exponent
  split_ifs with hzero hlarge hsmall hwhole
  · rw [hzero, Nat.cast_zero, zero_mul]
    exact isNearest_zero negative le_rfl (zpow_pos two_pos _).le
  · exact isNearest_infinity negative (overflowBound_le_of_lt hzero hlarge)
  · have hnonneg : (0 : ℚ) ≤ digits * 10 ^ exponent :=
      mul_nonneg (Nat.cast_nonneg _) (zpow_nonneg (by norm_num) exponent)
    exact isNearest_zero negative hnonneg (le_two_zpow_of_digitBound hsmall)
  · obtain ⟨k, rfl⟩ := Int.eq_ofNat_of_zero_le hwhole
    have hvalue : (digits : ℚ) * 10 ^ (k : ℤ) = ((digits * Nat.pow 10 k : ℕ) : ℚ) / (1 : ℕ) := by
      rw [Nat.pow_eq, zpow_natCast, Nat.cast_one, div_one]
      push_cast
      rfl
    rw [Int.toNat_natCast, hvalue]
    exact isNearest_ofRatio negative _ Nat.one_pos
  · obtain ⟨k, hk⟩ := Int.eq_ofNat_of_zero_le (a := -exponent) (by omega)
    obtain rfl : exponent = -(k : ℤ) := by omega
    have hvalue : (digits : ℚ) * 10 ^ (-(k : ℤ)) = digits / ((Nat.pow 10 k : ℕ) : ℚ) := by
      rw [Nat.pow_eq, zpow_neg, zpow_natCast, div_eq_mul_inv]
      push_cast
      rfl
    rw [neg_neg, Int.toNat_natCast, hvalue]
    exact isNearest_ofRatio negative digits (Nat.pow_pos (by decide))

end Binary64

namespace Numeral

/-- The rational number that a numeral denotes. -/
def toRat (n : Numeral) : ℚ :=
  let fraction := n.fraction.getD []
  let power : ℤ := (n.exponent.map Exponent.value).getD 0
  signed n.isNegative (Digits.value (n.whole ++ fraction) * 10 ^ (power - fraction.length))

/-- A numeral is read as the number of the format that is nearest to it. -/
theorem isNearest_toBinary64 (n : Numeral) : n.toBinary64.IsNearest n.toRat :=
  Binary64.isNearest_ofDecimal _ _ _

end Numeral

end QueryTemplate
