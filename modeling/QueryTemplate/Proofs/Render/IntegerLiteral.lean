import QueryTemplate.Proofs.Numeral.Decimal
import QueryTemplate.Proofs.Numeral.Grammar
import QueryTemplate.Render

/-!
# Integers written as texts

A text that is an integer stands for the number that its digits denote, whatever scripts they are of
and however many there are. It is rendered as the nearest integer of 64 bits by the loose reading,
and as itself or not at all by the strict one.

There is one exception. Of a long text only the ASCII zeros in front are passed over. If more than
nineteen digits are left and the first of them is a zero of another script, the text counts as a
number beyond 64 bits, whatever number it denotes.
-/

namespace QueryTemplate

/-! ## Integers of 64 bits -/

theorem leastInteger_eq : leastInteger = -2 ^ 63 := rfl

theorem greatestInteger_eq : greatestInteger = 2 ^ 63 - 1 := rfl

theorem fitInteger_of_mem {c : Coercion} {i : Int} (hlow : leastInteger ≤ i)
    (hhigh : i ≤ greatestInteger) : fitInteger c i = .ok i := by
  have hrange : (leastInteger ≤ i && i ≤ greatestInteger) = true := by
    rw [Bool.and_eq_true, decide_eq_true_eq, decide_eq_true_eq]
    exact ⟨hlow, hhigh⟩
  unfold fitInteger
  rw [if_pos hrange]

/-- An integer beyond the range is refused, or becomes the bound on its side. -/
theorem fitInteger_of_not_mem {c : Coercion} {i : Int}
    (h : ¬(leastInteger ≤ i ∧ i ≤ greatestInteger)) :
    fitInteger c i =
      match c with
      | .strict => .error .outOfIntegerRange
      | .loose => .ok (if 0 < i then greatestInteger else leastInteger) := by
  have hrange : ¬(leastInteger ≤ i && i ≤ greatestInteger) = true := by
    rw [Bool.and_eq_true, decide_eq_true_eq, decide_eq_true_eq]
    exact h
  unfold fitInteger
  cases c <;> exact if_neg hrange

/-- Loosely, an integer becomes the nearest one of 64 bits. -/
theorem fitInteger_loose (i : Int) :
    fitInteger .loose i = .ok (max leastInteger (min i greatestInteger)) := by
  by_cases hrange : leastInteger ≤ i ∧ i ≤ greatestInteger
  · rw [fitInteger_of_mem hrange.1 hrange.2, min_eq_left hrange.2, max_eq_right hrange.1]
  · rw [fitInteger_of_not_mem hrange]
    simp only [leastInteger_eq, greatestInteger_eq] at hrange ⊢
    split <;> congr 1 <;> omega

/-- Two integers beyond 64 bits on one side are fitted in one way. -/
theorem fitInteger_congr {c : Coercion} {i j : Int}
    (hi : ¬(leastInteger ≤ i ∧ i ≤ greatestInteger))
    (hj : ¬(leastInteger ≤ j ∧ j ≤ greatestInteger)) (hside : 0 < i ↔ 0 < j) :
    fitInteger c i = fitInteger c j := by
  rw [fitInteger_of_not_mem hi, fitInteger_of_not_mem hj]
  simp only [hside]

/-! ## Literals -/

/-- A text that is an integer: blanks, a sign if one is written, digits, and blanks. -/
structure IntegerLiteral where
  /-- The blanks in front. -/
  lead : Text
  /-- The sign, if one is written. -/
  sign : Option Char
  /-- The digits, of any scripts. -/
  digits : Text
  /-- The blanks behind. -/
  trail : Text
  /-- Nothing but blanks stands in front, -/
  lead_isBlank : ∀ c ∈ lead, isBlank c = true
  /-- the sign is one, -/
  sign_isSign : ∀ c ∈ sign, Numeral.isSign c = true
  /-- the digits are digits, -/
  digits_isDigit : ∀ c ∈ digits, isDigit c = true
  /-- there is one, -/
  digits_ne_nil : digits ≠ []
  /-- and nothing but blanks stands behind. -/
  trail_isBlank : ∀ c ∈ trail, isBlank c = true

namespace IntegerLiteral

variable (l : IntegerLiteral)

/-- The text of the literal. -/
def text : Text := l.lead ++ l.sign.toList ++ l.digits ++ l.trail

/-- Whether the literal has a minus sign. -/
def isNegative : Bool := l.sign = some '-'

/-- The integer that the literal denotes. -/
def number : Int := if l.isNegative then -(Digits.value l.digits : Int) else Digits.value l.digits

/-- The digits behind the ASCII zeros in front. -/
def significant : Text := l.digits.dropWhile (· = '0')

/-- Behind the ASCII zeros in front, more digits are left than are read exactly, and the first of
them is a zero of another script. -/
def HidesZeros : Prop :=
  Numeral.significantLimit < l.significant.length ∧ ∃ c ∈ l.significant.head?, digitOf c = 0

/-- The literal as a numeral. -/
def numeral : Numeral := ⟨l.lead, l.sign, l.digits, none, none⟩

theorem wellFormed_numeral : l.numeral.WellFormed where
  lead := l.lead_isBlank
  sign := l.sign_isSign
  whole := l.digits_isDigit
  fraction := by simp [numeral]
  nonempty := .inl l.digits_ne_nil
  exponent := by simp [numeral]

theorem text_eq : l.text = l.numeral.text ++ l.trail := by
  simp only [text, Numeral.text, numeral, Option.map_none, Option.getD_none, List.append_nil]

/-- A literal is read as its numeral by both readings. -/
theorem integerOfText_text (c : Coercion) (shown : Text) :
    integerOfText c l.text shown = .ok l.numeral.integer := by
  have hread : Numeral.read? l.text = some (l.numeral, l.trail) := by
    rw [text_eq]
    exact Numeral.read?_text_append l.wellFormed_numeral fun c hc =>
      l.trail_isBlank c (List.mem_of_mem_head? hc)
  have hall : Numeral.readAll? l.text = some (l.numeral, l.trail) :=
    Numeral.readAll?_eq_some_iff.mpr ⟨l.wellFormed_numeral, l.trail_isBlank, l.text_eq⟩
  have hinteger : l.numeral.isInteger = true := rfl
  cases c with
  | strict => simp only [integerOfText, hall, hinteger, if_true]
  | loose => simp only [integerOfText, hread, hinteger, if_true]

/-- The ASCII zeros in front do not count. -/
theorem number_eq :
    l.number =
      if l.isNegative then -(Digits.value l.significant : Int) else Digits.value l.significant := by
  rw [number, significant, Digits.value_dropWhile_zero]

/-- A text of few digits is read exactly. -/
theorem integer_of_short (h : l.significant.length ≤ Numeral.significantLimit) :
    l.numeral.integer = l.number := by
  rw [number_eq, Numeral.integer]
  show (if Numeral.significantLimit < l.significant.length then _ else _) = _
  rw [if_neg (Nat.not_lt.mpr h)]
  rfl

/-- A text of more digits stands for a number beyond 64 bits on its side. -/
theorem integer_of_long (h : Numeral.significantLimit < l.significant.length) :
    l.numeral.integer = if l.isNegative then leastInteger - 1 else greatestInteger + 1 := by
  rw [Numeral.integer]
  show (if Numeral.significantLimit < l.significant.length then _ else _) = _
  rw [if_pos h]
  rfl

/-- The number of a text of more digits lies beyond 64 bits, unless a zero of another script is the
first of them. -/
theorem value_of_long (h : Numeral.significantLimit < l.significant.length)
    (hzero : ¬l.HidesZeros) : 10 ^ 19 ≤ Digits.value l.significant := by
  obtain ⟨c, rest, hcons⟩ : ∃ c rest, l.significant = c :: rest :=
    List.exists_cons_of_ne_nil (List.ne_nil_of_length_pos (Nat.zero_lt_of_lt h))
  have hfirst : digitOf c ≠ 0 := by
    intro hc
    exact hzero ⟨h, c, by rw [hcons]; rfl, hc⟩
  rw [hcons, List.length_cons] at h
  rw [hcons]
  calc 10 ^ 19 ≤ 10 ^ rest.length := Nat.pow_le_pow_right (by decide) (Nat.lt_succ_iff.mp h)
    _ ≤ Digits.value (c :: rest) := Digits.pow_le_value hfirst rest

/-- What is read is fitted into 64 bits like the number itself. -/
theorem fitInteger_integer (c : Coercion) (hzero : ¬l.HidesZeros) :
    fitInteger c l.numeral.integer = fitInteger c l.number := by
  rcases Nat.lt_or_ge Numeral.significantLimit l.significant.length with hlong | hshort
  · have hvalue := l.value_of_long hlong hzero
    rw [integer_of_long l hlong]
    refine fitInteger_congr ?_ ?_ ?_
    · simp only [leastInteger_eq, greatestInteger_eq]
      split <;> omega
    · rw [number_eq]
      simp only [leastInteger_eq, greatestInteger_eq]
      split <;> omega
    · rw [number_eq]
      simp only [leastInteger_eq, greatestInteger_eq]
      split <;> omega
  · rw [integer_of_short l hshort]

end IntegerLiteral

/-- A literal is rendered as what is read of it, fitted into 64 bits. -/
theorem integer_text_eq (r : Renderer) (l : IntegerLiteral) :
    r.integer (.text l.text) = r.fittedText l.numeral.integer := by
  show (integerOfText r.options.coercion l.text (quoted l.text) >>= r.fittedText) = _
  rw [l.integerOfText_text]
  rfl

/-- An integer placeholder with a text that is an integer. Unless zeros of another script are hidden
in front of it, the loose reading renders the nearest integer of 64 bits, and the strict one renders
the integer itself or refuses it for its value if it does not fit. Where zeros are hidden, the text
counts as beyond 64 bits on the side of its sign, whatever it denotes. -/
theorem integer_of_literal (r : Renderer) (l : IntegerLiteral) :
    (¬l.HidesZeros →
      (r.options.coercion = .loose →
        r.integer (.text l.text) =
          .ok (integerText (max (-2 ^ 63) (min l.number (2 ^ 63 - 1))))) ∧
      (r.options.coercion = .strict →
        (-2 ^ 63 ≤ l.number ∧ l.number ≤ 2 ^ 63 - 1 →
          r.integer (.text l.text) = .ok (integerText l.number)) ∧
        (¬(-2 ^ 63 ≤ l.number ∧ l.number ≤ 2 ^ 63 - 1) →
          ∃ fault, r.integer (.text l.text) = .error fault ∧ fault = .outOfIntegerRange ∧
            fault.refusal? = some .value))) ∧
    (l.HidesZeros →
      (r.options.coercion = .loose →
        r.integer (.text l.text) =
          .ok (integerText (if l.isNegative then -2 ^ 63 else 2 ^ 63 - 1))) ∧
      (r.options.coercion = .strict →
        r.integer (.text l.text) = .error .outOfIntegerRange)) := by
  rw [integer_text_eq, Renderer.fittedText, ← leastInteger_eq, ← greatestInteger_eq]
  -- without hidden zeros, what is fitted is the number that the text denotes
  constructor
  · intro hzero
    rw [l.fitInteger_integer _ hzero]
    refine ⟨fun hloose => ?_, fun hstrict => ⟨fun hrange => ?_, fun hrange => ?_⟩⟩
    · rw [hloose, fitInteger_loose]
      rfl
    · rw [fitInteger_of_mem hrange.1 hrange.2]
      rfl
    · rw [hstrict, fitInteger_of_not_mem hrange]
      exact ⟨_, rfl, rfl, rfl⟩
  · rintro ⟨hlong, -⟩
    -- with them it is a number beyond the range, which stands for the sign alone
    have hbeyond : ¬(leastInteger ≤ l.numeral.integer ∧ l.numeral.integer ≤ greatestInteger) := by
      rw [l.integer_of_long hlong]
      simp only [leastInteger_eq, greatestInteger_eq]
      split <;> omega
    rw [fitInteger_of_not_mem hbeyond]
    refine ⟨fun hloose => ?_, fun hstrict => ?_⟩
    · rw [hloose, l.integer_of_long hlong]
      cases l.isNegative <;> rfl
    · rw [hstrict]
      rfl

/-- The least integer of 64 bits behind thirty ASCII zeros, with a digit of another script and
blanks of several kinds, is read strictly. -/
theorem integer_of_literal_least :
    ∃ l : IntegerLiteral,
      l.text = ['\u2003', '-'] ++ List.replicate 30 '0' ++ "922337203685477580".toList ++
        ['\u096E', '\n'] ∧
      (Renderer.mk ⟨.strict, .refuse, true⟩ backslashEscaper).integer (.text l.text) =
        .ok "-9223372036854775808".toList := by
  let l : IntegerLiteral :=
    { lead := ['\u2003']
      sign := some '-'
      digits := List.replicate 30 '0' ++ "922337203685477580".toList ++ ['\u096E']
      trail := ['\n']
      lead_isBlank := List.all_eq_true.mp (by decide)
      sign_isSign := by
        rintro c ⟨⟩
        decide
      digits_isDigit := List.all_eq_true.mp (by decide +kernel)
      digits_ne_nil := by decide
      trail_isBlank := List.all_eq_true.mp (by decide) }
  have hnumber : l.number = -2 ^ 63 := by decide +kernel
  -- the zeros in front are ASCII zeros, and too few digits are left behind them
  have hzero : ¬l.HidesZeros := by
    rintro ⟨hlong, -⟩
    exact absurd hlong (by decide +kernel)
  have hrange : -2 ^ 63 ≤ l.number ∧ l.number ≤ 2 ^ 63 - 1 := by
    rw [hnumber]
    decide
  refine ⟨l, by decide +kernel, ?_⟩
  rw [(((integer_of_literal _ l).1 hzero).2 rfl).1 hrange, hnumber]
  decide +kernel

/-- Behind twenty zeros of another script, the number five is rendered as the greatest integer of 64
bits, or refused as being out of the range. -/
theorem integer_hidden_zeros :
    ∃ l : IntegerLiteral, l.number = 5 ∧
      (Renderer.mk .default backslashEscaper).integer (.text l.text) =
        .ok "9223372036854775807".toList ∧
      (Renderer.mk ⟨.strict, .refuse, true⟩ backslashEscaper).integer (.text l.text) =
        .error .outOfIntegerRange :=
  ⟨{ lead := []
     sign := none
     digits := List.replicate 20 '\u0660' ++ ['5']
     trail := []
     lead_isBlank := List.all_eq_true.mp (by decide)
     sign_isSign := by rintro c ⟨⟩
     digits_isDigit := List.all_eq_true.mp (by decide +kernel)
     digits_ne_nil := by decide
     trail_isBlank := List.all_eq_true.mp (by decide) },
    by decide +kernel, by decide +kernel, by decide +kernel⟩

end QueryTemplate
