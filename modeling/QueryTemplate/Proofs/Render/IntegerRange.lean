import QueryTemplate.Proofs.Binary64.Exact
import QueryTemplate.Proofs.Numeral.Decimal
import QueryTemplate.Proofs.Render.Characters
import QueryTemplate.Proofs.Render.IntegerLiteral

/-!
# Integer placeholders stay within 64 bits

Whatever an integer placeholder is given, what it renders is null or the decimal text of an integer
of 64 bits. Of an integer, or of a number with what stands behind its point cut off, that is the
nearest such integer by the loose reading, and the integer itself or nothing by the strict one. By
the loose reading a larger number is therefore never rendered as a smaller integer.
-/

namespace QueryTemplate

/-! ## The range -/

/-- An integer of 64 bits. -/
def FitsInt64 (i : Int) : Prop := -2 ^ 63 ≤ i ∧ i ≤ 2 ^ 63 - 1

instance (i : Int) : Decidable (FitsInt64 i) :=
  inferInstanceAs (Decidable (-2 ^ 63 ≤ i ∧ i ≤ 2 ^ 63 - 1))

/-- The integer of 64 bits that is nearest to an integer. -/
def nearestInt64 (i : Int) : Int := max (-2 ^ 63) (min i (2 ^ 63 - 1))

theorem nearestInt64_of_fits {i : Int} (h : FitsInt64 i) : nearestInt64 i = i := by
  unfold FitsInt64 at h
  unfold nearestInt64
  omega

/-- Integers in order stay in order. -/
theorem nearestInt64_mono {i j : Int} (h : i ≤ j) : nearestInt64 i ≤ nearestInt64 j := by
  unfold nearestInt64
  omega

/-- What is fitted lies in the range, by both readings. -/
theorem fits_of_fitInteger {c : Coercion} {i j : Int} (h : fitInteger c i = .ok j) :
    FitsInt64 j := by
  by_cases hrange : leastInteger ≤ i ∧ i ≤ greatestInteger
  · rw [fitInteger_of_mem hrange.1 hrange.2] at h
    rw [← Except.ok.inj h]
    exact hrange
  · rw [fitInteger_of_not_mem hrange] at h
    cases c with
    | strict => cases h
    | loose =>
      rw [← Except.ok.inj h]
      unfold FitsInt64
      simp only [leastInteger_eq, greatestInteger_eq]
      split <;> omega

namespace Renderer

variable {r : Renderer} {i : Int} {t : Text}

theorem isDecimalText_of_fittedText (h : r.fittedText i = .ok t) :
    ∃ j, FitsInt64 j ∧ IsDecimalText t j := by
  obtain ⟨j, hj, ht⟩ := exists_of_bind_eq_ok h
  rw [← Except.ok.inj ht]
  exact ⟨j, fits_of_fitInteger hj, isDecimalText_integerText j⟩

theorem fittedText_loose (h : r.options.coercion = .loose) (i : Int) :
    r.fittedText i = .ok (integerText (nearestInt64 i)) := by
  rw [fittedText, h, fitInteger_loose]
  rfl

theorem fittedText_of_fits (h : FitsInt64 i) : r.fittedText i = .ok (integerText i) := by
  rw [fittedText, fitInteger_of_mem h.1 h.2]
  rfl

theorem fittedText_strict_of_not_fits (hstrict : r.options.coercion = .strict)
    (h : ¬FitsInt64 i) : r.fittedText i = .error .outOfIntegerRange := by
  rw [fittedText, hstrict, fitInteger_of_not_mem h]
  rfl

end Renderer

/-! ## Numbers -/

namespace Value

/-- The integer that a number is cut off to: an integer itself, and a finite number of the binary64
format its exact value without what stands behind the point. -/
inductive CutsTo : Value → Int → Prop
  /-- An integer. -/
  | int (i : Int) : CutsTo (.int i) i
  /-- A finite number. -/
  | float {x : Binary64} {q : ℚ} : x.toRat? = some q → CutsTo (.float x) (towardZero q)

/-- The exact value of a number: that of an integer, or of a finite number of the binary64
format. -/
def toRat? : Value → Option ℚ
  | int i => some i
  | float x => x.toRat?
  | _ => none

/-- A number is cut off to its exact value rounded toward zero. -/
theorem cutsTo_of_toRat? {v : Value} {q : ℚ} (h : v.toRat? = some q) :
    v.CutsTo (towardZero q) := by
  cases v with
  | int i =>
    have hq : (i : ℚ) = q := Option.some.inj h
    rw [← hq, towardZero_intCast]
    exact .int i
  | float x => exact .float h
  | _ => cases h

end Value

/-- A truth value is rendered as an integer of one digit. -/
theorem isDecimalText_boolText (b : Bool) : FitsInt64 (intOfBool b) ∧
    IsDecimalText (boolText b) (intOfBool b) := by
  have htext : boolText b = integerText (intOfBool b) := by
    cases b <;> decide +kernel
  have hfits : FitsInt64 (intOfBool b) := by
    cases b <;> exact ⟨by decide, by decide⟩
  exact ⟨hfits, isDecimalText_iff.mpr htext⟩

namespace Renderer

variable (r : Renderer)

/-- A number is rendered as the integer that it is cut off to. -/
theorem integer_of_cutsTo {v : Value} {i : Int} (h : v.CutsTo i) :
    r.integer v = r.fittedText i := by
  cases h with
  | int => rfl
  | @float x q hq =>
    have hcut : x.truncated? = some (towardZero q) := by
      rw [Binary64.truncated?_eq, hq]
      rfl
    simp only [integer, Value.shape, hcut]

/-- A number that is infinite or no number is refused. -/
theorem integer_of_not_isFinite {x : Binary64} (h : x.isFinite = false) :
    r.integer (.float x) = .error (.noIntegerPart x) := by
  have hcut : x.truncated? = none := (Binary64.truncated?_eq_none_iff x).mpr h
  simp only [integer, Value.shape, hcut]

/-- Whatever an integer placeholder renders is null or an integer of 64 bits. -/
theorem isDecimalText_of_integer {v : Value} {t : Text} (h : r.integer v = .ok t) :
    t = nullText ∨ ∃ i, FitsInt64 i ∧ IsDecimalText t i := by
  unfold integer at h
  split at h
  · exact .inl (Except.ok.inj h).symm
  · rename_i b _
    rw [← Except.ok.inj h]
    exact .inr ⟨_, isDecimalText_boolText b⟩
  · exact .inr (isDecimalText_of_fittedText h)
  · split at h
    · exact .inr (isDecimalText_of_fittedText h)
    · cases h
  · obtain ⟨i, -, hi⟩ := exists_of_bind_eq_ok h
    exact .inr (isDecimalText_of_fittedText hi)
  · obtain ⟨i, -, hi⟩ := exists_of_bind_eq_ok h
    exact .inr (isDecimalText_of_fittedText hi)
  · cases h

end Renderer

/-- What an integer placeholder renders is null or the decimal text of an integer of 64 bits. A
number is rendered as the integer that it is cut off to: loosely as the nearest one of 64 bits,
strictly as itself, unless it is beyond 64 bits, for which alone it is refused. A number that is not
finite is always refused. Loosely, numbers in order are rendered as integers in order. -/
theorem integer_within_64_bits (r : Renderer) :
    (∀ v t, r.integer v = .ok t → t = nullText ∨ ∃ i, FitsInt64 i ∧ IsDecimalText t i) ∧
    (∀ v i, v.CutsTo i →
      (r.options.coercion = .loose →
        ∃ t, r.integer v = .ok t ∧ IsDecimalText t (nearestInt64 i)) ∧
      (r.options.coercion = .strict →
        (FitsInt64 i → ∃ t, r.integer v = .ok t ∧ IsDecimalText t i) ∧
        ((∃ fault, r.integer v = .error fault ∧ fault.refusal? = some .value) ↔
          ¬FitsInt64 i))) ∧
    (∀ x : Binary64, x.isFinite = false →
      ∃ fault, r.integer (.float x) = .error fault ∧ fault.refusal? = some .value) ∧
    (r.options.coercion = .loose → ∀ v w p q, v.toRat? = some p → w.toRat? = some q → p ≤ q →
      ∃ s t i j, r.integer v = .ok s ∧ r.integer w = .ok t ∧ IsDecimalText s i ∧
        IsDecimalText t j ∧ i ≤ j) := by
  refine ⟨fun v t => r.isDecimalText_of_integer, ?_, ?_, ?_⟩
  · intro v i hcut
    rw [r.integer_of_cutsTo hcut]
    constructor
    · intro hloose
      exact ⟨_, Renderer.fittedText_loose hloose i, isDecimalText_integerText _⟩
    · intro hstrict
      refine ⟨?_, ?_⟩
      · intro hfits
        exact ⟨_, Renderer.fittedText_of_fits hfits, isDecimalText_integerText i⟩
      · constructor
        -- an integer of 64 bits is never refused
        · rintro ⟨fault, hfault, -⟩ hfits
          rw [Renderer.fittedText_of_fits hfits] at hfault
          cases hfault
        · intro hfits
          exact ⟨_, Renderer.fittedText_strict_of_not_fits hstrict hfits, rfl⟩
  · intro x hx
    exact ⟨_, r.integer_of_not_isFinite hx, rfl⟩
  · intro hloose v w p q hp hq hpq
    -- cutting off keeps the order, and so does going to the nearest integer of 64 bits
    have hv := r.integer_of_cutsTo (Value.cutsTo_of_toRat? hp)
    have hw := r.integer_of_cutsTo (Value.cutsTo_of_toRat? hq)
    rw [Renderer.fittedText_loose hloose] at hv hw
    exact ⟨_, _, _, _, hv, hw, isDecimalText_integerText _, isDecimalText_integerText _,
      nearestInt64_mono (towardZero_mono hpq)⟩

/-- The number `2 ^ 63` is the first one beyond 64 bits: loosely it is rendered as the greatest
integer, and not below what an integer far under the range is rendered as; strictly it is refused.
-/
theorem integer_within_64_bits_first_beyond :
    ∃ x : Binary64, x.bits = 0x43E0000000000000 ∧ x.toRat? = some (2 ^ 63) ∧
      (∃ t, (Renderer.mk .default backslashEscaper).integer (.float x) = .ok t ∧
        IsDecimalText t (2 ^ 63 - 1)) ∧
      (∃ s t i j, (Renderer.mk .default backslashEscaper).integer (.int (-10 ^ 30)) = .ok s ∧
        (Renderer.mk .default backslashEscaper).integer (.float x) = .ok t ∧
        IsDecimalText s i ∧ IsDecimalText t j ∧ i ≤ j) ∧
      ∃ fault, (Renderer.mk ⟨.strict, .refuse, true⟩ backslashEscaper).integer (.float x) =
        .error fault ∧ fault.refusal? = some .value := by
  let x : Binary64 := ⟨0x43E0000000000000⟩
  have hreading : x.reading = .finite false (2 ^ 52) 11 := by decide +kernel
  have hexact : x.toRat? = some (2 ^ 63) := by
    unfold Binary64.toRat?
    rw [hreading]
    simp only [signed, Bool.false_eq_true, if_false, Option.some.injEq]
    norm_num
  -- the number is an integer already, so nothing is cut off
  have hcut : (Value.float x).CutsTo (2 ^ 63) := by
    have hcast : ((2 ^ 63 : ℤ) : ℚ) = 2 ^ 63 := by norm_num
    rw [← towardZero_intCast (2 ^ 63), hcast]
    exact .float hexact
  obtain ⟨-, hloose, -, hmono⟩ := integer_within_64_bits (Renderer.mk .default backslashEscaper)
  obtain ⟨-, hstrict, -, -⟩ :=
    integer_within_64_bits (Renderer.mk ⟨.strict, .refuse, true⟩ backslashEscaper)
  refine ⟨x, rfl, hexact, (hloose _ _ hcut).1 rfl, ?_, ?_⟩
  · exact hmono rfl (.int (-10 ^ 30)) (.float x) _ _ rfl hexact (by norm_num)
  · exact ((hstrict _ _ hcut).2 rfl).2.mpr (by decide)

end QueryTemplate
