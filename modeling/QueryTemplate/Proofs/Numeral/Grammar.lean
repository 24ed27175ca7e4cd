import Mathlib.Data.List.TakeWhile
import Mathlib.Tactic.Common
import QueryTemplate.Numeral

/-!
# The grammar of numerals

A numeral is blanks, a sign if there is one, digits with at most one point among them, and an
exponent if there is one. A text is read from its start, part by part and each as far as it goes;
here the parts are put together again. What is read is a numeral, and of a numeral with blanks
behind it nothing else is read than the numeral itself. A text that is a numeral as a whole is
therefore read as that numeral by the strict reading and by the loose one.
-/

namespace QueryTemplate

theorem isBlank_iff {c : Char} :
    isBlank c = true ↔ ∃ range ∈ blankRanges, range.1 ≤ c.toNat ∧ c.toNat ≤ range.2 := by
  simp only [isBlank, Text.inRanges, List.any_eq_true, Bool.and_eq_true, decide_eq_true_eq]

theorem isDigit_iff {c : Char} :
    isDigit c = true ↔ ∃ z ∈ digitZeros, z ≤ c.toNat ∧ c.toNat < z + 10 := by
  simp only [isDigit, digitValue?, Option.isSome_map, List.find?_isSome, Bool.and_eq_true,
    decide_eq_true_eq]

/-- No digit of any script is a blank. -/
theorem isDigit_of_isBlank {c : Char} (h : isBlank c = true) : isDigit c = false := by
  have hapart : ∀ z ∈ digitZeros, ∀ range ∈ blankRanges, z + 10 ≤ range.1 ∨ range.2 < z := by
    decide
  obtain ⟨range, hrange, hlow, hhigh⟩ := isBlank_iff.mp h
  rw [Bool.eq_false_iff]
  intro hdigit
  obtain ⟨z, hz, hfrom, hto⟩ := isDigit_iff.mp hdigit
  have hboth := hapart z hz range hrange
  omega

namespace Numeral

theorem isSign_iff {c : Char} : isSign c = true ↔ c = '+' ∨ c = '-' := by
  simp only [isSign, Bool.or_eq_true, decide_eq_true_eq]

/-- A sign is neither a digit nor a blank. -/
theorem isDigit_isBlank_of_isSign {c : Char} (h : isSign c = true) :
    isDigit c = false ∧ isBlank c = false := by
  rcases isSign_iff.mp h with rfl | rfl <;> decide

/-- A digit is neither a sign nor a blank. -/
theorem isSign_isBlank_of_isDigit {c : Char} (h : isDigit c = true) :
    isSign c = false ∧ isBlank c = false := by
  constructor
  · rw [Bool.eq_false_iff]
    intro hsign
    rw [(isDigit_isBlank_of_isSign hsign).1] at h
    cases h
  · rw [Bool.eq_false_iff]
    intro hblank
    rw [isDigit_of_isBlank hblank] at h
    cases h

/-- The parts of an exponent are what they stand for. -/
structure Exponent.WellFormed (e : Exponent) : Prop where
  /-- The letter is one of the two. -/
  mark : e.mark = 'e' ∨ e.mark = 'E'
  /-- The sign is one. -/
  sign : ∀ c ∈ e.sign, isSign c = true
  /-- The digits are digits. -/
  digits : ∀ c ∈ e.digits, isDigit c = true
  /-- There is a digit. -/
  nonempty : e.digits ≠ []

/-- The parts of a numeral are what they stand for. -/
structure WellFormed (n : Numeral) : Prop where
  /-- Blanks stand before it. -/
  lead : ∀ c ∈ n.lead, isBlank c = true
  /-- The sign is one. -/
  sign : ∀ c ∈ n.sign, isSign c = true
  /-- Digits stand before the point. -/
  whole : ∀ c ∈ n.whole, isDigit c = true
  /-- Digits stand behind it. -/
  fraction : ∀ f ∈ n.fraction, ∀ c ∈ f, isDigit c = true
  /-- There is a digit on one of its sides. -/
  nonempty : n.whole ≠ [] ∨ n.fraction.getD [] ≠ []
  /-- The exponent is one. -/
  exponent : ∀ e ∈ n.exponent, e.WellFormed

/-! ## Parts of a text -/

section Parts

variable {s t : Text} {p : Char → Bool}

/-- A part that goes as far as its characters do is split off whole. -/
theorem splitWhile_append (hs : ∀ c ∈ s, p c = true) (ht : ∀ c ∈ t.head?, p c = false) :
    (s ++ t).splitWhile p = (s, t) := by
  have htake : t.takeWhile p = [] := by
    cases t with
    | nil => rfl
    | cons c rest => simp [ht c rfl]
  have hdrop : t.dropWhile p = t := by
    cases t with
    | nil => rfl
    | cons c rest => simp [ht c rfl]
  rw [Text.splitWhile, List.takeWhile_append_of_pos hs, List.dropWhile_append_of_pos hs, htake,
    hdrop, List.append_nil]

/-- What is split off is made of the characters looked for. -/
theorem forall_mem_splitWhile (p : Char → Bool) (t : Text) :
    ∀ c ∈ (t.splitWhile p).1, p c = true :=
  fun _ hc => List.mem_takeWhile_imp hc

theorem splitSign_append {sign : Option Char} (hsign : ∀ c ∈ sign, isSign c = true)
    (ht : ∀ c ∈ t.head?, isSign c = false) : splitSign (sign.toList ++ t) = (sign, t) := by
  cases sign with
  | some c =>
    show splitSign (c :: t) = _
    rw [splitSign, if_pos (hsign c rfl)]
  | none =>
    show splitSign t = _
    cases t with
    | nil => rfl
    | cons c rest =>
      have hc := ht c rfl
      rw [splitSign, if_neg (Bool.eq_false_iff.mp hc)]

theorem append_splitSign (t : Text) :
    (splitSign t).1.toList ++ (splitSign t).2 = t ∧ ∀ c ∈ (splitSign t).1, isSign c = true := by
  cases t with
  | nil => exact ⟨rfl, by simp [splitSign]⟩
  | cons c rest =>
    rw [splitSign]
    by_cases hc : isSign c = true
    · rw [if_pos hc]
      refine ⟨rfl, ?_⟩
      intro d hd
      rw [← Option.some.inj hd]
      exact hc
    · rw [if_neg hc]
      exact ⟨rfl, by simp⟩

theorem splitFraction_append {fraction : Option Text}
    (hfraction : ∀ f ∈ fraction, ∀ c ∈ f, isDigit c = true)
    (hpoint : fraction = none → ∀ c ∈ t.head?, c ≠ '.')
    (hdigit : ∀ c ∈ t.head?, isDigit c = false) :
    splitFraction ((fraction.map ('.' :: ·)).getD [] ++ t) = (fraction, t) := by
  cases fraction with
  | some f =>
    have hsplit := splitWhile_append (hfraction f rfl) hdigit
    rw [Text.splitWhile, Prod.mk.injEq] at hsplit
    show splitFraction ('.' :: (f ++ t)) = _
    rw [splitFraction, hsplit.1, hsplit.2]
  | none =>
    have hne := hpoint rfl
    show splitFraction t = _
    unfold splitFraction
    split
    · exact absurd rfl (hne '.' rfl)
    · rfl

theorem append_splitFraction (t : Text) :
    ((splitFraction t).1.map ('.' :: ·)).getD [] ++ (splitFraction t).2 = t ∧
      ∀ f ∈ (splitFraction t).1, ∀ c ∈ f, isDigit c = true := by
  unfold splitFraction
  split
  · rename_i rest
    refine ⟨?_, ?_⟩
    · exact congrArg ('.' :: ·) List.takeWhile_append_dropWhile
    · intro f hf
      rw [← Option.some.inj hf]
      exact fun c hc => List.mem_takeWhile_imp hc
  · exact ⟨rfl, by simp⟩

theorem splitExponent_append {exponent : Option Exponent}
    (hexponent : ∀ e ∈ exponent, e.WellFormed)
    (hmark : exponent = none → ∀ c ∈ t.head?, c ≠ 'e' ∧ c ≠ 'E')
    (hdigit : ∀ c ∈ t.head?, isDigit c = false) :
    splitExponent ((exponent.map Exponent.text).getD [] ++ t) = (exponent, t) := by
  cases exponent with
  | some e =>
    obtain ⟨hletter, hsign, hdigits, hne⟩ := hexponent e rfl
    obtain ⟨mark, sign, digits⟩ := e
    have hsplit := splitWhile_append hdigits hdigit
    rw [Text.splitWhile, Prod.mk.injEq] at hsplit
    -- no digit is a sign, so that the sign ends where the digits begin
    have hhead : ∀ c ∈ (digits ++ t).head?, isSign c = false := by
      intro c hc
      obtain ⟨d, rest, rfl⟩ := List.exists_cons_of_ne_nil hne
      obtain rfl : d = c := Option.some.inj hc
      exact (isSign_isBlank_of_isDigit (hdigits d List.mem_cons_self)).1
    show splitExponent (mark :: (sign.toList ++ digits ++ t)) = _
    have hmark' : (mark = 'e' || mark = 'E') = true := by
      rcases hletter with rfl | rfl <;> rfl
    have hsome : ¬digits.isEmpty = true := by
      rw [List.isEmpty_iff]
      exact hne
    rw [splitExponent, if_pos hmark', List.append_assoc, splitSign_append hsign hhead]
    simp only [hsplit.1, hsplit.2, if_neg hsome]
  | none =>
    -- without an exponent, what follows begins with no letter of one
    have hne := hmark rfl
    show splitExponent t = _
    cases t with
    | nil => rfl
    | cons c rest =>
      obtain ⟨he, hE⟩ := hne c rfl
      rw [splitExponent]
      simp [he, hE]

theorem append_splitExponent (t : Text) :
    ((splitExponent t).1.map Exponent.text).getD [] ++ (splitExponent t).2 = t ∧
      ∀ e ∈ (splitExponent t).1, e.WellFormed := by
  cases t with
  | nil => exact ⟨rfl, by simp [splitExponent]⟩
  | cons c rest =>
    rw [splitExponent]
    by_cases hmark : (c = 'e' || c = 'E') = true
    · rw [if_pos hmark]
      obtain ⟨hrest, hsign⟩ := append_splitSign rest
      simp only
      by_cases hnone : ((splitSign rest).2.takeWhile isDigit).isEmpty = true
      -- a letter without digits behind it begins no exponent and stays where it is
      · rw [if_pos hnone]
        exact ⟨rfl, by simp⟩
      · rw [if_neg hnone]
        refine ⟨?_, ?_⟩
        · show c :: ((splitSign rest).1.toList ++ (splitSign rest).2.takeWhile isDigit) ++
            (splitSign rest).2.dropWhile isDigit = c :: rest
          rw [List.cons_append, List.append_assoc, List.takeWhile_append_dropWhile, hrest]
        · intro e he
          rw [← Option.some.inj he]
          refine ⟨by simpa using hmark, hsign, fun d hd => List.mem_takeWhile_imp hd, ?_⟩
          intro hempty
          exact hnone (List.isEmpty_iff.mpr hempty)
    · rw [if_neg hmark]
      exact ⟨rfl, by simp⟩

end Parts

/-! ## Numerals -/

variable {n : Numeral} {t rest : Text}

/-- What is read is a numeral, and the text is the numeral with what follows it. -/
theorem wellFormed_of_read? (h : read? t = some (n, rest)) :
    n.WellFormed ∧ t = n.text ++ rest := by
  have hlead := Text.splitWhile_append isBlank t
  have hblank := forall_mem_splitWhile isBlank t
  unfold read? at h
  -- the parts are taken off one after the other, each with what is known of it
  generalize t.splitWhile isBlank = first at h hlead hblank
  obtain ⟨lead, t₁⟩ := first
  obtain ⟨happend₁, hsign⟩ := append_splitSign t₁
  simp only at h hlead hblank
  generalize splitSign t₁ = second at h happend₁ hsign
  obtain ⟨sign, t₂⟩ := second
  have happend₂ := Text.splitWhile_append isDigit t₂
  have hwhole := forall_mem_splitWhile isDigit t₂
  simp only at h happend₁ hsign
  generalize t₂.splitWhile isDigit = third at h happend₂ hwhole
  obtain ⟨whole, t₃⟩ := third
  obtain ⟨happend₃, hfraction⟩ := append_splitFraction t₃
  simp only at h happend₂ hwhole
  generalize splitFraction t₃ = fourth at h happend₃ hfraction
  obtain ⟨fraction, t₄⟩ := fourth
  obtain ⟨happend₄, hexponent⟩ := append_splitExponent t₄
  simp only at h happend₃ hfraction
  generalize splitExponent t₄ = fifth at h happend₄ hexponent
  obtain ⟨exponent, t₅⟩ := fifth
  simp only at h happend₄ hexponent
  by_cases hnone : (whole.isEmpty && (fraction.getD []).isEmpty) = true
  · rw [if_pos hnone] at h
    cases h
  · rw [if_neg hnone] at h
    obtain ⟨rfl, rfl⟩ := Prod.mk.inj (Option.some.inj h)
    refine ⟨⟨hblank, hsign, hwhole, hfraction, ?_, hexponent⟩, ?_⟩
    -- without any digit nothing is read
    · by_contra hempty
      push Not at hempty
      obtain ⟨hno, hnot⟩ : whole = [] ∧ fraction.getD [] = [] := hempty
      rw [hno, hnot] at hnone
      exact hnone rfl
    · rw [← hlead, ← happend₁, ← happend₂, ← happend₃, ← happend₄]
      simp only [Numeral.text, List.append_assoc]

namespace WellFormed

/-- Behind the digits of a numeral stands the letter of an exponent, or what follows the numeral. -/
theorem head?_exponent (h : n.WellFormed) (hrest : ∀ c ∈ rest.head?, isBlank c = true) :
    ∀ c ∈ ((n.exponent.map Exponent.text).getD [] ++ rest).head?,
      isDigit c = false ∧ c ≠ '.' := by
  intro c hc
  cases hexponent : n.exponent with
  | some e =>
    rw [hexponent] at hc
    obtain rfl : e.mark = c := Option.some.inj hc
    rcases (h.exponent e hexponent).mark with hmark | hmark <;> rw [hmark] <;> decide
  | none =>
    rw [hexponent] at hc
    refine ⟨isDigit_of_isBlank (hrest c hc), ?_⟩
    rintro rfl
    exact absurd (hrest '.' hc) (by decide)

/-- Behind the digits before the point stands the point, or what may stand behind the others. -/
theorem head?_fraction (n : Numeral) {behind : Text}
    (hbehind : ∀ c ∈ behind.head?, isDigit c = false) :
    ∀ c ∈ ((n.fraction.map ('.' :: ·)).getD [] ++ behind).head?, isDigit c = false := by
  intro c hc
  cases hfraction : n.fraction with
  | some f =>
    rw [hfraction] at hc
    obtain rfl : '.' = c := Option.some.inj hc
    decide
  | none =>
    rw [hfraction] at hc
    exact hbehind c hc

/-- Behind its sign a numeral begins with a digit or the point. -/
theorem head?_whole (h : n.WellFormed) (behind : Text) :
    ∀ c ∈ (n.whole ++ ((n.fraction.map ('.' :: ·)).getD [] ++ behind)).head?,
      isSign c = false ∧ isBlank c = false := by
  intro c hc
  cases hwhole : n.whole with
  | cons d others =>
    rw [hwhole] at hc
    obtain rfl : d = c := Option.some.inj hc
    have hd := h.whole d (hwhole ▸ List.mem_cons_self)
    exact isSign_isBlank_of_isDigit hd
  | nil =>
    -- without a digit before the point there is one behind it
    rcases h.nonempty with hne | hne
    · exact absurd hwhole hne
    · cases hfraction : n.fraction with
      | none =>
        rw [hfraction] at hne
        exact absurd rfl hne
      | some f =>
        rw [hwhole, hfraction] at hc
        obtain rfl : '.' = c := Option.some.inj hc
        decide

/-- Behind its blanks a numeral begins with its sign, a digit or the point. -/
theorem head?_sign (h : n.WellFormed) (behind : Text) :
    ∀ c ∈ (n.sign.toList ++ (n.whole ++ ((n.fraction.map ('.' :: ·)).getD [] ++ behind))).head?,
      isBlank c = false := by
  intro c hc
  cases hsign : n.sign with
  | some d =>
    rw [hsign] at hc
    obtain rfl : d = c := Option.some.inj hc
    exact (isDigit_isBlank_of_isSign (h.sign d hsign)).2
  | none =>
    rw [hsign] at hc
    exact (h.head?_whole behind c hc).2

end WellFormed

/-- The parts of a numeral one after another, and what follows it. -/
theorem text_append (n : Numeral) (rest : Text) :
    n.text ++ rest =
      n.lead ++ (n.sign.toList ++ (n.whole ++ ((n.fraction.map ('.' :: ·)).getD [] ++
        ((n.exponent.map Exponent.text).getD [] ++ rest)))) := by
  simp only [Numeral.text, List.append_assoc]

/-- A numeral with blanks or nothing behind it is read as itself: each part ends where the next one
begins. -/
theorem read?_text_append (h : n.WellFormed) (hrest : ∀ c ∈ rest.head?, isBlank c = true) :
    read? (n.text ++ rest) = some (n, rest) := by
  -- from the last part to the first: what follows a part does not begin like the part goes on
  have hexponent := h.head?_exponent hrest
  have hfraction := WellFormed.head?_fraction n fun c hc => (hexponent c hc).1
  have hwhole := h.head?_whole ((n.exponent.map Exponent.text).getD [] ++ rest)
  have hsign := h.head?_sign ((n.exponent.map Exponent.text).getD [] ++ rest)
  have hmark : n.exponent = none → ∀ c ∈ rest.head?, c ≠ 'e' ∧ c ≠ 'E' := by
    intro _ c hc
    constructor
    · rintro rfl
      exact absurd (hrest 'e' hc) (by decide)
    · rintro rfl
      exact absurd (hrest 'E' hc) (by decide)
  have hsome : ¬(n.whole.isEmpty && (n.fraction.getD []).isEmpty) = true := by
    rw [Bool.and_eq_true, List.isEmpty_iff, List.isEmpty_iff]
    rintro ⟨hno, hnot⟩
    rcases h.nonempty with hne | hne
    · exact hne hno
    · exact hne hnot
  rw [text_append, read?, splitWhile_append h.lead hsign]
  simp only [splitSign_append h.sign fun c hc => (hwhole c hc).1,
    splitWhile_append h.whole hfraction,
    splitFraction_append h.fraction (fun _ c hc => (hexponent c hc).2)
      fun c hc => (hexponent c hc).1,
    splitExponent_append h.exponent hmark fun c hc => isDigit_of_isBlank (hrest c hc),
    if_neg hsome]

/-- The strict reading accepts the texts that are a numeral with blanks behind it, and no others. It
finds that numeral, however the text is taken apart. -/
theorem readAll?_eq_some_iff :
    readAll? t = some (n, rest) ↔
      n.WellFormed ∧ (∀ c ∈ rest, isBlank c = true) ∧ t = n.text ++ rest := by
  unfold readAll?
  constructor
  · intro h
    cases hread : read? t with
    | none =>
      rw [hread] at h
      cases h
    | some found =>
      obtain ⟨m, behind⟩ := found
      rw [hread] at h
      simp only at h
      by_cases hblank : behind.all isBlank = true
      · rw [if_pos hblank] at h
        obtain ⟨rfl, rfl⟩ := Prod.mk.inj (Option.some.inj h)
        obtain ⟨hformed, htext⟩ := wellFormed_of_read? hread
        exact ⟨hformed, List.all_eq_true.mp hblank, htext⟩
      · rw [if_neg hblank] at h
        cases h
  · rintro ⟨hformed, hblank, rfl⟩
    have hread := read?_text_append hformed fun c hc => hblank c (List.mem_of_mem_head? hc)
    rw [hread]
    simp only [if_pos (List.all_eq_true.mpr hblank)]

end Numeral

end QueryTemplate
