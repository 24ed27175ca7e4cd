import Mathlib.Tactic.Common
import QueryTemplate.Proofs.Numeral.Decimal
import QueryTemplate.Proofs.Numeral.Grammar
import QueryTemplate.Proofs.Render.Characters
import QueryTemplate.Proofs.Text
import QueryTemplate.Render

/-!
# Scalars and literals read back

A scalar is found again at the start of any text that begins with what is rendered for it, and a
literal closes at its own quote.
-/

namespace QueryTemplate

/-!
## Scalars found again in their texts

A null, an integer or a text is known by the first character that is rendered for it. The inside of
a literal is read one character after another: a backslash stands for the character behind it, and
the first quote that is read on its own closes the literal. An integer ends before the first
character that is no digit. So a scalar is found again at the start of a longer text, whatever its
contents.
-/

section

open Text

/-! ### Literals -/

/-- Reads the inside of a literal up to the quote that closes it, and what follows that quote. A
backslash stands for the character behind it. -/
def readInside? : Text → Option (Text × Text)
  | [] => none
  | c :: rest =>
    if c = singleQuote then some ([], rest)
    else if c = '\\' then
      match rest with
      | [] => none
      | d :: behind => (readInside? behind).map fun found => (d :: found.1, found.2)
    else (readInside? rest).map fun found => (c :: found.1, found.2)

theorem readInside?_quote (rest : Text) : readInside? (singleQuote :: rest) = some ([], rest) := by
  unfold readInside?
  rw [if_pos rfl]

theorem readInside?_backslash (c : Char) (rest : Text) :
    readInside? ('\\' :: c :: rest) =
      (readInside? rest).map fun found => (c :: found.1, found.2) := by
  have hquote : '\\' ≠ singleQuote := by decide
  rw [readInside?.eq_def]
  simp only [if_neg hquote, if_true]

theorem readInside?_of_ne {c : Char} (hquote : c ≠ singleQuote) (hbackslash : c ≠ '\\')
    (rest : Text) :
    readInside? (c :: rest) = (readInside? rest).map fun found => (c :: found.1, found.2) := by
  rw [readInside?.eq_def]
  simp only [if_neg hquote, if_neg hbackslash]

/-- A character as it stands in a literal is read as itself. -/
theorem readInside?_escapeChar (c : Char) (rest : Text) :
    readInside? (escapeChar c ++ rest) =
      (readInside? rest).map fun found => (c :: found.1, found.2) := by
  by_cases hescaped : (c = '\\' || c = singleQuote) = true
  · rw [escapeChar, if_pos hescaped]
    exact readInside?_backslash c rest
  · rw [escapeChar, if_neg hescaped]
    rw [Bool.or_eq_true, decide_eq_true_eq, decide_eq_true_eq, not_or] at hescaped
    exact readInside?_of_ne hescaped.2 hescaped.1 rest

/-- A text as it stands in a literal is read as itself up to the closing quote, whatever follows. -/
theorem readInside?_escapeText (t rest : Text) :
    readInside? (escapeText t ++ singleQuote :: rest) = some (t, rest) := by
  induction t with
  | nil => exact readInside?_quote rest
  | cons c t ih =>
    have hcons : escapeText (c :: t) = escapeChar c ++ escapeText t := List.flatMap_cons
    rw [hcons, List.append_assoc, readInside?_escapeChar, ih]
    rfl

/-! ### Integers -/

/-- Reads digits of ASCII, at least one, as the number that they denote. -/
def readNatural? (t : Text) : Option (Nat × Text) :=
  match t.splitWhile Char.isDigit with
  | ([], _) => none
  | (digits, rest) => some (Digits.value digits, rest)

/-- The digits of a number are read as the number where no digit follows. -/
theorem readNatural?_ofNat (n : Nat) {rest : Text} (hrest : ∀ c ∈ rest.head?, c.isDigit = false) :
    readNatural? (Digits.ofNat n ++ rest) = some (n, rest) := by
  have hvalue := Digits.value_ofNat n
  obtain ⟨hne, hdigits, -⟩ := Digits.isCanonical_ofNat n
  obtain ⟨c, others, hcons⟩ := List.exists_cons_of_ne_nil hne
  rw [readNatural?, Numeral.splitWhile_append hdigits hrest]
  rw [hcons] at hvalue ⊢
  show some (Digits.value (c :: others), rest) = _
  rw [hvalue]

/-! ### Scalars -/

/-- A null, an integer or a text. -/
inductive Scalar where
  /-- Null. -/
  | null
  /-- An integer. -/
  | int (i : Int)
  /-- A text. -/
  | text (t : Text)
  deriving DecidableEq

/-- The null, the integer or the text that a value is. -/
def Value.scalar? : Value → Option Scalar
  | .null => some .null
  | .int i => some (.int i)
  | .text t => some (.text t)
  | .member m => some (.text m.value)
  | _ => none

/-- Reads a scalar from the start of a text. Its first character tells what it is. -/
def readScalar? : Text → Option (Scalar × Text)
  | [] => none
  | c :: rest =>
    if c = singleQuote then (readInside? rest).map fun found => (.text found.1, found.2)
    else if c = '-' then (readNatural? rest).map fun found => (.int (-found.1), found.2)
    else if c.isDigit then (readNatural? (c :: rest)).map fun found => (.int found.1, found.2)
    else ((c :: rest).dropPrefix? nullText).map fun behind => (.null, behind)

theorem readScalar?_null (rest : Text) :
    readScalar? (nullText ++ rest) = some (.null, rest) := by
  have hdrop : (nullText ++ rest).dropPrefix? nullText = some rest :=
    List.dropPrefix?_append_of_beq _ (beq_self_eq_true nullText)
  obtain ⟨others, hcons⟩ : ∃ others, nullText ++ rest = 'N' :: others := ⟨_, rfl⟩
  have hquote : 'N' ≠ singleQuote := by decide
  rw [hcons] at hdrop ⊢
  rw [readScalar?, if_neg hquote, if_neg (by decide), if_neg (by decide), hdrop]
  rfl

theorem readScalar?_int (i : Int) {rest : Text} (hrest : ∀ c ∈ rest.head?, c.isDigit = false) :
    readScalar? (integerText i ++ rest) = some (.int i, rest) := by
  have hread := readNatural?_ofNat i.natAbs hrest
  unfold integerText
  split
  · rename_i hnegative
    have hquote : '-' ≠ singleQuote := by decide
    have hsign : -(i.natAbs : Int) = i := by omega
    rw [List.cons_append, readScalar?, if_neg hquote, if_pos rfl, hread, Option.map_some, hsign]
  · rename_i hnonneg
    have hsign : (i.natAbs : Int) = i := by omega
    obtain ⟨hne, hdigits, -⟩ := Digits.isCanonical_ofNat i.natAbs
    obtain ⟨c, others, hcons⟩ := List.exists_cons_of_ne_nil hne
    have hdigit : c.isDigit = true := hdigits c (hcons ▸ List.mem_cons_self)
    -- neither the quote nor the sign is a digit
    have hquote : c ≠ singleQuote := by
      rintro rfl
      exact absurd hdigit (by decide)
    have hminus : c ≠ '-' := by
      rintro rfl
      exact absurd hdigit (by decide)
    rw [hcons, List.cons_append] at hread ⊢
    rw [readScalar?, if_neg hquote, if_neg hminus, if_pos hdigit, hread, Option.map_some, hsign]

theorem readScalar?_text (t rest : Text) :
    readScalar? (singleQuote :: escapeText t ++ [singleQuote] ++ rest) = some (.text t, rest) := by
  rw [List.cons_append, List.cons_append, List.append_assoc, List.singleton_append, readScalar?,
    if_pos rfl, readInside?_escapeText]
  rfl

/-! ### Rendered scalars -/

/-- The integers within the digit limit have their decimal texts. -/
theorem intText_eq_ok_iff {i : Int} {t : Text} :
    intText i = .ok t ↔ withinDigitLimit i = true ∧ t = integerText i := by
  unfold intText integerText?
  by_cases hlimit : withinDigitLimit i = true
  · rw [if_pos hlimit]
    constructor
    · intro h
      exact ⟨hlimit, (Except.ok.inj h).symm⟩
    · rintro ⟨-, rfl⟩
      rfl
  · rw [if_neg hlimit]
    constructor
    · intro h
      cases h
    · rintro ⟨hwithin, -⟩
      exact absurd hwithin hlimit

theorem Renderer.scalar_int (r : Renderer) (i : Int) : r.scalar (.int i) = intText i := rfl

/-- Where an item of a list ends, no digit follows. -/
theorem isDigit_eq_false_of_atBoundary {rest : Text}
    (h : AtBoundary Renderer.listSeparator rest) : ∀ c ∈ rest.head?, c.isDigit = false := by
  rintro c hc
  rcases h with rfl | ⟨others, rfl⟩
  · cases hc
  · obtain rfl : ',' = c := Option.some.inj hc
    decide

/-- A literal is read as its text. -/
theorem isReadAs_of_literal {r : Renderer} (hescaper : r.escaper = backslashEscaper) {s t : Text}
    (h : r.literal s = .ok t) : IsReadAs Renderer.listSeparator readScalar? t (.text s) := by
  have hliteral : r.literal s = .ok (singleQuote :: escapeText s ++ [singleQuote]) := by
    rw [Renderer.literal, hescaper]
    rfl
  obtain rfl : singleQuote :: escapeText s ++ [singleQuote] = t :=
    Except.ok.inj (hliteral.symm.trans h)
  exact ⟨List.cons_ne_nil _ _, fun rest _ => readScalar?_text s rest⟩

/-- What is rendered for a scalar is read as that scalar. -/
theorem isReadAs_of_scalar {r : Renderer} (hescaper : r.escaper = backslashEscaper) {v : Value}
    {x : Scalar} {t : Text} (hx : v.scalar? = some x) (h : r.scalar v = .ok t) :
    IsReadAs Renderer.listSeparator readScalar? t x := by
  cases v with
  | null =>
    obtain rfl : Scalar.null = x := Option.some.inj hx
    obtain rfl : nullText = t := Except.ok.inj h
    exact ⟨List.cons_ne_nil _ _, fun rest _ => readScalar?_null rest⟩
  | int i =>
    obtain rfl : Scalar.int i = x := Option.some.inj hx
    rw [Renderer.scalar_int] at h
    -- an integer ends at the separator or at the end, as neither begins with a digit
    obtain ⟨-, rfl⟩ := intText_eq_ok_iff.mp h
    refine ⟨?_, fun rest hrest => readScalar?_int i (isDigit_eq_false_of_atBoundary hrest)⟩
    intro hnil
    have hread := readScalar?_int i (isDigit_eq_false_of_atBoundary (.inl rfl))
    rw [hnil] at hread
    cases hread
  | text s =>
    obtain rfl : Scalar.text s = x := Option.some.inj hx
    exact isReadAs_of_literal hescaper h
  | member m =>
    obtain rfl : Scalar.text m.value = x := Option.some.inj hx
    exact isReadAs_of_literal hescaper h
  | _ => cases hx

end

/-!
## Literals end at their own quotes

Whoever reads a literal needs to know nothing of what follows it. A reader who takes a backslash
together with the character behind it stops at the closing quote and nowhere before, has read the
text that was quoted, and goes on behind the quote. So no text closes its literal early or swallows
the closing quote, whatever its runs of backslashes and quotes, and no two texts share a literal.
-/

/-- What is read of a literal that is closed stays the same if more follows, and the rest gets
longer. -/
theorem readInside?_append {t s rest : Text} (h : readInside? t = some (s, rest)) (more : Text) :
    readInside? (t ++ more) = some (s, rest ++ more) := by
  fun_induction readInside? t generalizing s rest with
  | case1 => cases h
  | case2 behind =>
    obtain ⟨rfl, rfl⟩ := Prod.mk.inj (Option.some.inj h)
    exact readInside?_quote _
  | case3 => cases h
  | case4 c behind _ ih =>
    obtain ⟨⟨s', rest'⟩, hfound, heq⟩ := Option.map_eq_some_iff.mp h
    obtain ⟨rfl, rfl⟩ := Prod.mk.inj heq
    rw [List.cons_append, List.cons_append, readInside?_backslash, ih hfound]
    rfl
  | case5 c behind hquote hbackslash ih =>
    obtain ⟨⟨s', rest'⟩, hfound, heq⟩ := Option.map_eq_some_iff.mp h
    obtain ⟨rfl, rfl⟩ := Prod.mk.inj heq
    rw [List.cons_append, readInside?_of_ne hquote hbackslash, ih hfound]
    rfl

/-- No beginning of the inside of a literal closes the literal: reading on from a quote that did
would leave less than the closing quote behind. -/
theorem readInside?_eq_none_of_prefix {t beginning : Text} (h : beginning <+: escapeText t) :
    readInside? beginning = none := by
  obtain ⟨others, hothers⟩ := h
  cases hread : readInside? beginning with
  | none => rfl
  | some found =>
    have hlonger := readInside?_append hread (others ++ [singleQuote])
    rw [← List.append_assoc, hothers, readInside?_escapeText] at hlonger
    have hrest : [] = found.2 ++ (others ++ [singleQuote]) :=
      congrArg Prod.snd (Option.some.inj hlonger)
    simp at hrest

/-- Different texts have different insides. -/
theorem escapeText_injective : Function.Injective escapeText := by
  intro s t h
  have hread := readInside?_escapeText s []
  rw [h, readInside?_escapeText] at hread
  exact (congrArg Prod.fst (Option.some.inj hread)).symm

/-- Where two literals stand at the start of one text, they are literals of the same text, and the
same follows them. -/
theorem eq_of_literal_append_eq {s t rest rest' : Text}
    (h : singleQuote :: escapeText s ++ [singleQuote] ++ rest =
      singleQuote :: escapeText t ++ [singleQuote] ++ rest') : s = t ∧ rest = rest' := by
  have hinside : escapeText s ++ singleQuote :: rest = escapeText t ++ singleQuote :: rest' := by
    simpa using h
  have hread := readInside?_escapeText s rest
  rw [hinside, readInside?_escapeText] at hread
  obtain ⟨htext, hrest⟩ := Prod.mk.inj (Option.some.inj hread)
  exact ⟨htext.symm, hrest.symm⟩

/-- With the escaping by backslashes, every text has a literal. Its inside is the text with every
backslash doubled, and then a backslash put in front of every single quote. Read from behind the
opening quote, the literal closes at its last quote, whatever follows, and at no quote before; the
text is read back, and what follows is left. So different texts have different insides, and a text
begins with one literal at most. -/
theorem literal_delimits_itself (options : Options) (s : Text) :
    (Renderer.mk options backslashEscaper).literal s =
      .ok (singleQuote :: escapeText s ++ [singleQuote]) ∧
    escapeText s =
      Text.replaced singleQuote ['\\', singleQuote] (Text.replaced '\\' ['\\', '\\'] s) ∧
    (∀ rest, readInside? (escapeText s ++ singleQuote :: rest) = some (s, rest)) ∧
    (∀ beginning, beginning <+: escapeText s → readInside? beginning = none) ∧
    (∀ t, escapeText t = escapeText s → t = s) ∧
    ∀ t rest rest',
      singleQuote :: escapeText t ++ [singleQuote] ++ rest =
        singleQuote :: escapeText s ++ [singleQuote] ++ rest' → t = s ∧ rest = rest' := by
  refine ⟨rfl, escapeText_eq_replaced s, readInside?_escapeText s, ?_, ?_, ?_⟩
  · intro beginning h
    exact readInside?_eq_none_of_prefix h
  · intro t h
    exact escapeText_injective h
  · intro t rest rest' h
    exact eq_of_literal_append_eq h

/-- A backslash in front of a quote, and one at the end of the text: both could be taken for part of
an escape. -/
theorem literal_delimits_itself_backslashes :
    let s : Text := ['\\', singleQuote, '\\']
    let inside : Text := ['\\', '\\', '\\', singleQuote, '\\', '\\']
    (Renderer.mk .default backslashEscaper).literal s =
      .ok (singleQuote :: inside ++ [singleQuote]) ∧
    readInside? (inside ++ singleQuote :: " OR".toList) = some (s, " OR".toList) ∧
    inside.take 4 <+: inside ∧ readInside? (inside.take 4) = none ∧
    escapeText s = inside ∧ escapeText ['\\'] ≠ inside := by
  intro s inside
  obtain ⟨hliteral, -, hread, hbeginning, hsame, -⟩ := literal_delimits_itself .default s
  have hinside : escapeText s = inside := by decide
  rw [hinside] at hliteral hread hbeginning
  have hprefix : inside.take 4 <+: inside := List.take_prefix 4 inside
  refine ⟨hliteral, hread _, hprefix, hbeginning _ hprefix, hinside, fun hother => ?_⟩
  have heq : ['\\'] = s := hsame _ (hother.trans hinside.symm)
  exact absurd heq (by decide)

/-- With the quotes escaped first, a quote would close its own literal. -/
example :
    readInside? (Text.replaced '\\' ['\\', '\\']
      (Text.replaced singleQuote ['\\', singleQuote] [singleQuote, ' '])) =
      some (['\\'], [' ']) := by
  decide

end QueryTemplate
