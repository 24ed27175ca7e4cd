import QueryTemplate.Proofs.Numeral.Longest
import QueryTemplate.Proofs.Render.IntegerLiteral
import QueryTemplate.Proofs.Render.IntegerRange

/-!
# Texts as numbers, read loosely

Loosely, a text counts as the longest numeral at its start, for both number placeholders alike, and
as zero if it begins with none. Nothing that follows the numeral changes what is rendered. A numeral
without a point and an exponent is an integer, and is not read as a number with a point. Any other
one is read as the nearest such number, of which an integer placeholder cuts off what stands behind
the point.
-/

namespace QueryTemplate

/-! ## What is read decides -/

section Reading

variable {t rest : Text} {n : Numeral}

/-- As an integer, a text counts as the numeral that is read of it. -/
theorem integerOfText_of_read? (h : Numeral.read? t = some (n, rest)) (shown : Text) :
    integerOfText .loose t shown =
      if n.isInteger then .ok n.integer
      else if spoilsNumber n.lead then .error (.unreadableNumber n.text)
      else .ok (integerPart n.toBinary64) := by
  simp only [integerOfText, h]

/-- As a number with a point, it does as well. -/
theorem floatOfText_of_read? (h : Numeral.read? t = some (n, rest)) (shown : Text) :
    floatOfText .loose t shown =
      if spoilsNumber n.lead then .error (.unreadableNumber n.text) else .ok n.toBinary64 := by
  simp only [floatOfText, h]

end Reading

namespace Numeral.WellFormed

variable {n : Numeral} (h : n.WellFormed)

include h

/-- Information separators are blanks, which stand in front of a numeral only. -/
theorem spoilsNumber_iff :
    spoilsNumber n.lead = true ↔ ∃ c ∈ n.text, isInformationSeparator c = true := by
  have hblank : ∀ c, isInformationSeparator c = true → isBlank c = true := by
    intro c hc
    rw [isInformationSeparator, Bool.and_eq_true, decide_eq_true_eq, decide_eq_true_eq] at hc
    exact isBlank_iff.mpr ⟨(0x1C, 0x20), by decide, by omega⟩
  rw [spoilsNumber, List.any_eq_true]
  constructor
  · rintro ⟨c, hc, hseparator⟩
    refine ⟨c, ?_, hseparator⟩
    simp only [Numeral.text, List.append_assoc]
    exact List.mem_append_left _ hc
  · rintro ⟨c, hc, hseparator⟩
    exact ⟨c, h.mem_lead hc (hblank c hseparator), hseparator⟩

/-- A numeral without a point and an exponent is a literal of an integer. -/
theorem exists_literal (hinteger : n.isInteger = true) :
    ∃ l : IntegerLiteral, l.text = n.text ∧ l.numeral = n := by
  obtain ⟨lead, sign, whole, fraction, exponent⟩ := n
  rw [isInteger, Bool.and_eq_true, Option.isNone_iff_eq_none, Option.isNone_iff_eq_none] at hinteger
  obtain ⟨rfl, rfl⟩ : fraction = none ∧ exponent = none := hinteger
  have hdigit : whole ≠ [] := h.nonempty.resolve_right fun hne => hne rfl
  refine ⟨⟨lead, sign, whole, [], h.lead, h.sign, h.whole, hdigit, List.forall_mem_nil _⟩, ?_, rfl⟩
  simp only [IntegerLiteral.text, Numeral.text, Option.map_none, Option.getD_none, List.append_nil]

end Numeral.WellFormed

/-! ## Numbers that are cut off -/

theorem integerPart_of_toRat? {x : Binary64} {q : ℚ} (h : x.toRat? = some q) :
    integerPart x = towardZero q := by
  rw [integerPart, Binary64.truncated?_eq, h]
  rfl

/-- The sign of an infinity is its sign bit. -/
theorem isNegative_of_infinite {x : Binary64} {negative : Bool}
    (h : x.reading = .infinite negative) : x.isNegative = negative := by
  unfold Binary64.reading at h
  simp only at h
  split_ifs at h
  exact Binary64.Reading.infinite.inj h

/-- An infinity counts as the bound of its sign. -/
theorem integerPart_of_infinite {x : Binary64} {negative : Bool}
    (h : x.reading = .infinite negative) :
    integerPart x = if negative then -2 ^ 63 else 2 ^ 63 - 1 := by
  have hcut : x.truncated? = none := by
    rw [Binary64.truncated?, h]
  rw [integerPart, hcut]
  simp only [isNegative_of_infinite h]
  rfl

/-- The number of the binary64 format that a numeral is read as. -/
def IsNumberOf (p : Text) (x : Binary64) : Prop :=
  ∃ n : Numeral, n.WellFormed ∧ n.text = p ∧ x.IsNearest n.toRat

/-! ## Texts -/

namespace Renderer

variable {r : Renderer} (hloose : r.options.coercion = .loose)

include hloose

theorem integer_text_eq_bind (t : Text) :
    r.integer (.text t) = (integerOfText .loose t (quoted t) >>= r.fittedText) := by
  show (integerOfText r.options.coercion t (quoted t) >>= r.fittedText) = _
  rw [hloose]

theorem float_text_eq_bind (t : Text) :
    r.float (.text t) = (floatOfText .loose t (quoted t) >>= floatText) := by
  show (floatOfText r.options.coercion t (quoted t) >>= floatText) = _
  rw [hloose]

/-- A text that begins with no numeral is zero. -/
theorem number_of_read?_eq_none {t : Text} (h : Numeral.read? t = none) :
    r.integer (.text t) = .ok "0".toList ∧ r.float (.text t) = .ok "0.0".toList := by
  have hinteger : integerOfText .loose t (quoted t) = .ok 0 := by
    simp only [integerOfText, h]
  have hfloat : floatOfText .loose t (quoted t) = .ok .zero := by
    simp only [floatOfText, h]
  have hfinite : Binary64.zero.isFinite = true := by decide +kernel
  have htext : Binary64.zero.text = "0.0".toList := by decide +kernel
  have hzero : integerText 0 = "0".toList := by decide +kernel
  rw [integer_text_eq_bind hloose, float_text_eq_bind hloose, hinteger, hfloat]
  constructor
  · show r.fittedText 0 = _
    rw [fittedText_of_fits (by decide), hzero]
  · show floatText .zero = _
    rw [floatText, if_pos hfinite, htext]

/-- A text is rendered like the longest numeral at its start. -/
theorem number_congr {p t : Text} (h : IsLongestNumeral p t) :
    r.integer (.text t) = r.integer (.text p) ∧ r.float (.text t) = r.float (.text p) := by
  obtain ⟨n, rest, -, -, hread, hself⟩ := Numeral.exists_read?_of_isLongestNumeral h
  rw [integer_text_eq_bind hloose, integer_text_eq_bind hloose, float_text_eq_bind hloose,
    float_text_eq_bind hloose, integerOfText_of_read? hread, integerOfText_of_read? hself,
    floatOfText_of_read? hread, floatOfText_of_read? hself]
  exact ⟨rfl, rfl⟩

/-- A numeral without a point and an exponent is rendered as the integer that it is. -/
theorem integer_of_isInteger {n : Numeral} (hn : n.WellFormed) (hinteger : n.isInteger = true) :
    ∃ l : IntegerLiteral, l.text = n.text ∧
      r.integer (.text n.text) = r.fittedText l.numeral.integer ∧
      (¬l.HidesZeros → r.integer (.text n.text) = .ok (integerText (nearestInt64 l.number))) := by
  obtain ⟨l, htext, hnumeral⟩ := hn.exists_literal hinteger
  have hexact : r.integer (.text n.text) = r.fittedText l.numeral.integer := by
    rw [← htext, integer_text_eq]
  refine ⟨l, htext, hexact, fun hzeros => ?_⟩
  have hnumber : r.fittedText l.numeral.integer = r.fittedText l.number := by
    rw [fittedText, l.fitInteger_integer _ hzeros]
    rfl
  rw [hexact, hnumber, fittedText_loose hloose]

/-- Any other numeral is read as the nearest number, and cut off. -/
theorem integer_of_not_isInteger {n : Numeral} (hn : n.WellFormed)
    (hinteger : ¬n.isInteger = true) (hspoils : ¬spoilsNumber n.lead = true) :
    r.integer (.text n.text) = .ok (integerText (nearestInt64 (integerPart n.toBinary64))) := by
  rw [integer_text_eq_bind hloose, integerOfText_of_read? (Numeral.read?_text hn),
    if_neg hinteger, if_neg hspoils]
  exact fittedText_loose hloose _

/-- A numeral with an information separator in front is not read as a number with a point. -/
theorem number_of_spoilsNumber {n : Numeral} (hn : n.WellFormed)
    (hspoils : spoilsNumber n.lead = true) :
    r.float (.text n.text) = .error (.unreadableNumber n.text) ∧
      (¬n.isInteger = true →
        r.integer (.text n.text) = .error (.unreadableNumber n.text)) := by
  have hread := Numeral.read?_text hn
  constructor
  · rw [float_text_eq_bind hloose, floatOfText_of_read? hread, if_pos hspoils]
    rfl
  · intro hinteger
    rw [integer_text_eq_bind hloose, integerOfText_of_read? hread, if_neg hinteger,
      if_pos hspoils]
    rfl

theorem float_of_not_spoilsNumber {n : Numeral} (hn : n.WellFormed)
    (hspoils : ¬spoilsNumber n.lead = true) :
    r.float (.text n.text) = floatText n.toBinary64 := by
  rw [float_text_eq_bind hloose, floatOfText_of_read? (Numeral.read?_text hn), if_neg hspoils]
  rfl

end Renderer

/-- Loosely, a text that begins with no numeral is rendered as zero, and any other one like the
longest numeral at its start. Without a point and an exponent, the numeral is rendered as the
nearest integer of 64 bits, unless it hides zeros of another script. With a point or an exponent, it
is refused if an information separator stands in front, and otherwise read as the number of the
binary64 format nearest to it: an integer placeholder renders the integer of 64 bits nearest to that
number with what stands behind its point cut off, which for an infinite number is the bound of its
sign. -/
theorem loose_number {r : Renderer} (hloose : r.options.coercion = .loose) (t : Text) :
    ((¬∃ p, p <+: t ∧ IsNumeral p) →
      r.integer (.text t) = .ok "0".toList ∧ r.float (.text t) = .ok "0.0".toList) ∧
    ((∃ p, p <+: t ∧ IsNumeral p) → ∃ p, IsLongestNumeral p t ∧
      r.integer (.text t) = r.integer (.text p) ∧ r.float (.text t) = r.float (.text p) ∧
      ((∀ c ∈ p, Numeral.isPointOrMark c = false) →
        ∃ l : IntegerLiteral, l.text = p ∧
          r.integer (.text t) = r.fittedText l.numeral.integer ∧
          (¬l.HidesZeros →
            r.integer (.text t) = .ok (integerText (nearestInt64 l.number)))) ∧
      ((∃ c ∈ p, isInformationSeparator c = true) →
        r.float (.text t) = .error (.unreadableNumber p) ∧
        ((∃ c ∈ p, Numeral.isPointOrMark c = true) →
          r.integer (.text t) = .error (.unreadableNumber p))) ∧
      ((∀ c ∈ p, isInformationSeparator c = false) →
        ∃ x, IsNumberOf p x ∧ r.float (.text t) = floatText x ∧
          ((∃ c ∈ p, Numeral.isPointOrMark c = true) →
            (∀ q, x.toRat? = some q →
              r.integer (.text t) = .ok (integerText (nearestInt64 (towardZero q)))) ∧
            ∀ negative, x.reading = .infinite negative →
              r.integer (.text t) =
                .ok (integerText (if negative then -2 ^ 63 else 2 ^ 63 - 1))))) := by
  constructor
  · intro hnone
    exact Renderer.number_of_read?_eq_none hloose (Numeral.read?_eq_none_iff.mpr hnone)
  · intro hsome
    obtain ⟨p, hp⟩ := Numeral.exists_isLongestNumeral hsome
    obtain ⟨hinteger, hfloat⟩ := Renderer.number_congr hloose hp
    obtain ⟨n, hn, rfl⟩ := hp.isNumeral
    -- what the statement says of characters, the parts of the numeral say as well
    have hplain := hn.isInteger_iff
    have hspoils := hn.spoilsNumber_iff
    -- a point or the letter of an exponent makes the numeral no integer
    have hpointed : (∃ c ∈ n.text, Numeral.isPointOrMark c = true) → ¬n.isInteger = true := by
      rintro ⟨c, hc, hpoint⟩ hint
      rw [hplain.mp hint c hc] at hpoint
      cases hpoint
    refine ⟨n.text, hp, hinteger, hfloat, ?_, ?_, ?_⟩
    -- no point and no exponent: the numeral is an integer
    · intro hchars
      rw [hinteger]
      exact Renderer.integer_of_isInteger hloose hn (hplain.mpr hchars)
    -- next to an information separator it is not read as a number with a point
    · intro hseparator
      obtain ⟨hfloat', hinteger'⟩ :=
        Renderer.number_of_spoilsNumber hloose hn (hspoils.mpr hseparator)
      rw [hfloat, hinteger]
      exact ⟨hfloat', fun hpoint => hinteger' (hpointed hpoint)⟩
    · intro hseparator
      -- otherwise it is, and an integer placeholder cuts off the part behind the point
      have hreadable : ¬spoilsNumber n.lead = true := by
        intro hspoilt
        obtain ⟨c, hc, hseparator'⟩ := hspoils.mp hspoilt
        rw [hseparator c hc] at hseparator'
        cases hseparator'
      refine ⟨n.toBinary64, ⟨n, hn, rfl, n.isNearest_toBinary64⟩, ?_, fun hpoint => ?_⟩
      · rw [hfloat, Renderer.float_of_not_spoilsNumber hloose hn hreadable]
      · rw [hinteger,
          Renderer.integer_of_not_isInteger hloose hn (hpointed hpoint) hreadable]
        constructor
        · intro q hq
          rw [integerPart_of_toRat? hq]
        · intro negative hinfinite
          -- of an infinity, the end of the range is rendered
          rw [integerPart_of_infinite hinfinite, nearestInt64_of_fits]
          cases negative <;> decide

/-- A sign and a point are no numeral. Behind the numeral `-1e401` a letter and a sign without
digits are left, and the number nearest to it is infinite. -/
theorem loose_number_beyond :
    (Renderer.mk .default backslashEscaper).integer (.text "+.".toList) = .ok "0".toList ∧
    (Renderer.mk .default backslashEscaper).integer (.text "-1e401e+".toList) =
      .ok (integerText (-2 ^ 63)) := by
  obtain ⟨hzero, -⟩ :=
    loose_number (r := Renderer.mk .default backslashEscaper) rfl "+.".toList
  obtain ⟨-, hsome⟩ :=
    loose_number (r := Renderer.mk .default backslashEscaper) rfl "-1e401e+".toList
  have hnone : ¬∃ p, p <+: "+.".toList ∧ IsNumeral p :=
    Numeral.read?_eq_none_iff.mp (by decide +kernel)
  refine ⟨(hzero hnone).1, ?_⟩
  let n : Numeral := ⟨[], some '-', ['1'], none, some ⟨'e', none, "401".toList⟩⟩
  have hread : Numeral.read? "-1e401e+".toList = some (n, "e+".toList) := by decide +kernel
  have hformed := (Numeral.wellFormed_of_read? hread).1
  -- the longest numeral is what is read, and no other beginning is
  have hlongest := Numeral.isLongestNumeral_of_read? hread
  obtain ⟨p, hp, -, -, -, -, hnumber⟩ := hsome ⟨_, hlongest.begins, hlongest.isNumeral⟩
  obtain rfl : p = n.text := hp.unique hlongest
  have hclear : n.text.any isInformationSeparator = false := by decide
  obtain ⟨x, ⟨m, hm, htext, hnearest⟩, -, hcut⟩ :=
    hnumber fun c hc => Bool.eq_false_iff.mpr (List.any_eq_false.mp hclear c hc)
  obtain rfl : m = n := hm.eq_of_text_eq hformed htext
  -- the numeral denotes minus ten to the power of 401, which is beyond the largest number
  have hvalue : n.toRat = -(((1 : ℕ) : ℚ) * 10 ^ (401 : ℤ)) := by
    have hdigits : Digits.value ['1'] = 1 := by decide
    have hpower : Numeral.Exponent.value ⟨'e', none, "401".toList⟩ = 401 := by decide
    show -((Digits.value ['1'] : ℚ) *
      10 ^ (Numeral.Exponent.value ⟨'e', none, "401".toList⟩ - ((0 : ℕ) : ℤ))) = _
    rw [hdigits, hpower, Nat.cast_zero, sub_zero]
  have hbeyond : Binary64.overflowBound ≤ ((1 : ℕ) : ℚ) * 10 ^ (401 : ℤ) :=
    Binary64.overflowBound_le_of_lt (by decide) (by decide)
  have hpos : (0 : ℚ) < ((1 : ℕ) : ℚ) * 10 ^ (401 : ℤ) :=
    mul_pos (Nat.cast_pos.mpr Nat.one_pos) (zpow_pos (by norm_num) _)
  have hinfinite : x.reading = .infinite true := by
    rw [hnearest.infinite (by rwa [hvalue, abs_neg, abs_of_pos hpos]), hvalue,
      decide_eq_true (neg_lt_zero.mpr hpos)]
  exact (hcut ⟨'e', by decide, by decide⟩).2 true hinfinite

end QueryTemplate
