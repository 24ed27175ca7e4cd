import QueryTemplate.Proofs.Results
import QueryTemplate.Proofs.Value
import QueryTemplate.Render

/-!
# Which faults rendering can end in

Nearly every fault of rendering blames the argument, for its type or for its value. With the
escaping of this library there are two others, and they come from conversions that a check before
them did not foresee: a numeral next to an information separator is read as a number with a point,
and a key of a mapping is shown that holds an integer beyond the digit limit. No fault of rendering
carries an index, so that the index of the argument is the one reported.
-/

namespace QueryTemplate

namespace Fault

/-- Whatever fault a computation ends in satisfies `P`. -/
def Only {α : Type} (P : Fault → Prop) (x : Except Fault α) : Prop :=
  ∀ fault, x = .error fault → P fault

variable {α β : Type} {P Q : Fault → Prop}

/-- A result is no fault. -/
theorem Only.ok (a : α) : Only P (.ok a) := by
  intro fault h
  cases h

/-- A fault that satisfies `P`. -/
theorem Only.error {fault : Fault} (h : P fault) : Only P (.error fault : Except Fault α) := by
  intro found hfound
  rw [← Except.error.inj hfound]
  exact h

/-- What holds of given faults holds of those a computation ends in. -/
theorem Only.mono {x : Except Fault α} (hx : Only P x) (hPQ : ∀ fault, P fault → Q fault) :
    Only Q x :=
  fun fault h => hPQ fault (hx fault h)

/-- One computation after another ends in the faults of either. -/
theorem Only.bind {x : Except Fault α} {f : α → Except Fault β} (hx : Only P x)
    (hf : ∀ a, x = .ok a → Only P (f a)) : Only P (x >>= f) := by
  cases x with
  | error fault => exact Only.error (hx fault rfl)
  | ok a => exact hf a rfl

/-- The faults of rendering itself that blame the argument. -/
def IsForeseen : Fault → Prop
  | unreadable _ | keyTooLong | refused _ _ _ | kindless | escaperFailed _ _ => False
  | _ => True

/-- The faults of rendering itself, with the escaping of this library. -/
def IsOwn : Fault → Prop
  | refused _ _ _ | kindless | escaperFailed _ _ => False
  | _ => True

theorem IsForeseen.isOwn {fault : Fault} (h : fault.IsForeseen) : fault.IsOwn := by
  cases fault with
  | refused what reason index => exact h.elim
  | kindless => exact h.elim
  | escaperFailed name reason => exact h.elim
  | _ => trivial

/-- A fault that was foreseen blames the argument. -/
theorem IsForeseen.isSome_refusal? {fault : Fault} (h : fault.IsForeseen) :
    fault.refusal?.isSome = true := by
  cases fault with
  | unreadable shown => exact h.elim
  | keyTooLong => exact h.elim
  | kindless => exact h.elim
  | escaperFailed name reason => exact h.elim
  | _ => rfl

/-- A fault of rendering itself carries no index. -/
theorem IsOwn.ownIndex? {fault : Fault} (h : fault.IsOwn) : fault.ownIndex? = none := by
  cases fault with
  | refused what reason index => exact h.elim
  | _ => rfl

/-- By itself, a fault of rendering is worded by its reason. -/
theorem IsOwn.message_none {fault : Fault} (h : fault.IsOwn) :
    fault.message none = fault.reason := by
  have hindex : fault.index? none = none := by
    rw [index?, h.ownIndex?]
    split <;> rfl
  rw [message, hindex]

/-- A fault that blames the argument is reported with the argument's index in front. -/
theorem IsOwn.message_of_refusal {fault : Fault} (h : fault.IsOwn)
    (hrefusal : fault.refusal?.isSome = true) (i : Nat) :
    fault.index? (some i) = some i ∧
      fault.message (some i) =
        "argument #".toList ++ integerText i ++ ": ".toList ++ fault.message none := by
  have hindex : fault.index? (some i) = some i := by
    rw [index?, if_pos hrefusal, h.ownIndex?]
    rfl
  refine ⟨hindex, ?_⟩
  rw [h.message_none, message, hindex]

/-- A fault that does not blame the argument is reported as it is. -/
theorem message_of_no_refusal {fault : Fault} (hrefusal : fault.refusal? = none) (i : Nat) :
    fault.index? (some i) = none ∧ fault.message (some i) = fault.message none := by
  have hindex : ∀ given, fault.index? given = none := by
    intro given
    rw [index?, hrefusal]
    rfl
  refine ⟨hindex _, ?_⟩
  rw [message, message, hindex, hindex]

end Fault

/-- A computation for each item of a list ends in the faults of the items. -/
theorem Fault.Only.mapM {α β : Type} {f : α → Except Fault β} {P : Fault → Prop}
    (hf : ∀ x, Fault.Only P (f x)) (items : List α) :
    Fault.Only P (items.mapM f) := by
  intro fault h
  obtain ⟨before, x, after, -, -, hx⟩ := mapM_eq_error_iff.mp h
  exact hf x fault hx

/-! ## Faults that blame the argument -/

section Foreseen

variable {P : Fault → Prop} (hP : ∀ fault : Fault, fault.IsForeseen → P fault)

include hP

theorem intText_only (i : Int) : Fault.Only P (intText i) := by
  unfold intText
  split
  · exact .ok _
  · exact .error (hP _ trivial)

theorem floatText_only (x : Binary64) : Fault.Only P (floatText x) := by
  unfold floatText
  split
  · exact .ok _
  · exact .error (hP _ trivial)

theorem fitInteger_only (c : Coercion) (i : Int) : Fault.Only P (fitInteger c i) := by
  unfold fitInteger
  split
  · exact .ok _
  · cases c with
    | strict => exact .error (hP _ trivial)
    | loose => exact .ok _

theorem floatOfInt_only (i : Int) : Fault.Only P (floatOfInt i) := by
  unfold floatOfInt
  split
  · exact .ok _
  · exact .error (hP _ trivial)

namespace Renderer

variable (r : Renderer)

theorem fittedText_only (i : Int) : Fault.Only P (r.fittedText i) :=
  (fitInteger_only hP _ i).bind fun _ _ => .ok _

theorem quoteName_only (characters shown written : Text) :
    Fault.Only P (r.quoteName characters shown written) := by
  unfold quoteName
  split
  · exact .error (hP _ trivial)
  · split
    · exact .error (hP _ trivial)
    · exact .ok _

theorem listedIdentifier_only (item : Value) : Fault.Only P (r.listedIdentifier item) := by
  unfold listedIdentifier
  split
  · exact quoteName_only hP r _ _ _
  · exact quoteName_only hP r _ _ _
  · exact .error (hP _ trivial)

theorem identifier_only (v : Value) : Fault.Only P (r.identifier v) := by
  unfold identifier
  split
  · exact quoteName_only hP r _ _ _
  · exact quoteName_only hP r _ _ _
  · exact (Fault.Only.mapM (listedIdentifier_only hP r) _).bind fun _ _ => .ok _
  · exact .error (hP _ trivial)

theorem scalar_only (hesc : ∀ t, Fault.Only P (r.escaper t)) (v : Value) :
    Fault.Only P (r.scalar v) := by
  unfold scalar
  split
  · exact .ok _
  · exact .ok _
  · exact intText_only hP _
  · exact floatText_only hP _
  · exact (hesc _).bind fun _ _ => .ok _
  · exact (hesc _).bind fun _ _ => .ok _
  · exact .error (hP _ trivial)

end Renderer

end Foreseen

/-! ## Faults that do not -/

/-- The arguments that end in a fault that does not blame them, and the fault. -/
inductive Unforeseen (r : Renderer) : Placeholder → Value → Fault → Prop
  /-- Strictly, a text that is a number as a whole, with an information separator in front of the
  numeral or behind it. -/
  | strictFloat {v : Value} {t shown rest : Text} {n : Numeral} (text : v.asText? = some t)
      (shows : v.display? = some shown) (strict : r.options.coercion = .strict)
      (read : Numeral.readAll? t = some (n, rest))
      (spoilt : (spoilsNumber n.lead || spoilsNumber rest) = true) :
      Unforeseen r .float v (.unreadable shown)
  /-- Loosely, a text that begins with a number, with an information separator in front of the
  numeral. -/
  | looseFloat {v : Value} {t rest : Text} {n : Numeral} (text : v.asText? = some t)
      (loose : r.options.coercion = .loose) (read : Numeral.read? t = some (n, rest))
      (spoilt : spoilsNumber n.lead = true) : Unforeseen r .float v (.unreadableNumber n.text)
  /-- Loosely, the same in the place of an integer, if the numeral has a point or an exponent. -/
  | looseInteger {v : Value} {t rest : Text} {n : Numeral} (text : v.asText? = some t)
      (loose : r.options.coercion = .loose) (read : Numeral.read? t = some (n, rest))
      (fractional : n.isInteger = false) (spoilt : spoilsNumber n.lead = true) :
      Unforeseen r .integer v (.unreadableNumber n.text)
  /-- A mapping with a key that cannot be written, behind pairs that have a text. -/
  | key {v key value : Value} {before after : List (Value × Value)}
      (shape : v.shape = .entries (before ++ (key, value) :: after))
      (first : ∀ entry ∈ before, ∃ t, r.pair entry = .ok t) (hidden : key.CannotBeWritten) :
      Unforeseen r .array v .keyTooLong

/-- A fault that was not foreseen does not blame the argument. -/
theorem Unforeseen.refusal?_eq_none {r : Renderer} {k : Placeholder} {v : Value} {fault : Fault}
    (h : Unforeseen r k v fault) : fault.refusal? = none := by
  cases h <;> rfl

namespace Renderer

variable {r : Renderer} {v : Value} {t shown : Text} {fault : Fault}

/-- A text in the place of an integer, plain or a member of a choice. -/
theorem integer_of_asText? (ht : v.asText? = some t) (hshown : v.display? = some shown) :
    r.integer v = (integerOfText r.options.coercion t shown >>= r.fittedText) := by
  cases v with
  | text | member =>
    cases ht
    cases hshown
    rfl
  | _ => cases ht

/-- A text in the place of a number with a point. -/
theorem float_of_asText? (ht : v.asText? = some t) (hshown : v.display? = some shown) :
    r.float v = (floatOfText r.options.coercion t shown >>= floatText) := by
  cases v with
  | text | member =>
    cases ht
    cases hshown
    rfl
  | _ => cases ht

/-- A text can be shown. -/
theorem exists_display?_of_asText? (ht : v.asText? = some t) :
    ∃ shown, v.display? = some shown := by
  cases v with
  | text | member => exact ⟨_, rfl⟩
  | _ => cases ht

/-- An argument that ends in a fault that was not foreseen ends in that fault. -/
theorem render_of_unforeseen {k : Placeholder} (h : Unforeseen r k v fault) :
    r.render k v = .error fault := by
  cases h with
  | strictFloat text shows strict read spoilt =>
    simp only [render, float_of_asText? text shows, floatOfText, strict, read, if_pos spoilt]
    rfl
  | looseFloat text loose read spoilt =>
    obtain ⟨_, hshown⟩ := exists_display?_of_asText? text
    simp only [render, float_of_asText? text hshown, floatOfText, loose, read, if_pos spoilt]
    rfl
  | looseInteger text loose read fractional spoilt =>
    obtain ⟨_, hshown⟩ := exists_display?_of_asText? text
    simp only [render, integer_of_asText? text hshown, integerOfText, loose, read, fractional,
      if_pos spoilt, Bool.false_eq_true, if_false]
    rfl
  | @key v key value before after shape first hidden =>
    -- the entries before this one have their texts, and it has none, as its key has none
    have hpair : r.pair (key, value) = .error .keyTooLong := by
      simp only [pair, keyName, Value.keyText?_eq_none_iff.mpr hidden]
      rfl
    have hitems : (before ++ (key, value) :: after).mapM r.pair = .error .keyTooLong :=
      mapM_eq_error_iff.mpr ⟨before, _, after, rfl, first, hpair⟩
    simp only [render, array, shape, hitems]
    rfl

section Only

variable {P : Fault → Prop} (hP : ∀ fault : Fault, fault.IsForeseen → P fault)

include hP

/-- A text in the place of an integer. -/
theorem integerOfText_only (ht : v.asText? = some t) (shown : Text) :
    Fault.Only (fun fault => P fault ∨ Unforeseen r .integer v fault)
      (integerOfText r.options.coercion t shown) := by
  unfold integerOfText
  cases hcoercion : r.options.coercion with
  | strict =>
    simp only
    split
    · split
      · exact .ok _
      · exact .error (.inl (hP _ trivial))
    · exact .error (.inl (hP _ trivial))
  | loose =>
    simp only
    split
    · exact .ok _
    · rename_i n rest hread
      -- only a numeral that is no integer is read as a number with a point, and this may go wrong
      by_cases hinteger : n.isInteger = true
      · rw [if_pos hinteger]
        exact .ok _
      · rw [if_neg hinteger]
        split
        · rename_i hspoilt
          exact .error (.inr (.looseInteger ht hcoercion hread
            (Bool.eq_false_iff.mpr hinteger) hspoilt))
        · exact .ok _

/-- An integer placeholder. -/
theorem integer_only (v : Value) :
    Fault.Only (fun fault => P fault ∨ Unforeseen r .integer v fault) (r.integer v) := by
  have hP' : ∀ fault : Fault, fault.IsForeseen → P fault ∨ Unforeseen r .integer v fault :=
    fun fault h => .inl (hP fault h)
  unfold integer
  split
  · exact .ok _
  · exact .ok _
  · exact fittedText_only hP' r _
  · split
    · exact fittedText_only hP' r _
    · exact .error (hP' _ trivial)
  · rename_i t hshape
    obtain rfl := Value.shape_eq_text_iff.mp hshape
    exact (integerOfText_only hP rfl _).bind fun i _ => fittedText_only hP' r i
  · rename_i m hshape
    obtain rfl := Value.shape_eq_member_iff.mp hshape
    exact (integerOfText_only hP rfl _).bind fun i _ => fittedText_only hP' r i
  · exact .error (hP' _ trivial)

/-- A text in the place of a float. -/
theorem floatOfText_only (ht : v.asText? = some t) (hshown : v.display? = some shown) :
    Fault.Only (fun fault => P fault ∨ Unforeseen r .float v fault)
      (floatOfText r.options.coercion t shown) := by
  unfold floatOfText
  cases hcoercion : r.options.coercion with
  | strict =>
    simp only
    split
    · rename_i n rest hread
      split
      -- strictly or loosely, the numeral has an information separator next to it
      · rename_i hspoilt
        exact .error (.inr (.strictFloat ht hshown hcoercion hread hspoilt))
      · exact .ok _
    · exact .error (.inl (hP _ trivial))
  | loose =>
    simp only
    split
    · exact .ok _
    · rename_i n rest hread
      split
      · rename_i hspoilt
        exact .error (.inr (.looseFloat ht hcoercion hread hspoilt))
      · exact .ok _

/-- A float placeholder. -/
theorem float_only (v : Value) :
    Fault.Only (fun fault => P fault ∨ Unforeseen r .float v fault) (r.float v) := by
  have hP' : ∀ fault : Fault, fault.IsForeseen → P fault ∨ Unforeseen r .float v fault :=
    fun fault h => .inl (hP fault h)
  unfold float
  split
  · exact .ok _
  · exact (floatOfInt_only hP' _).bind fun x _ => floatText_only hP' x
  · exact (floatOfInt_only hP' _).bind fun x _ => floatText_only hP' x
  · exact floatText_only hP' _
  · rename_i t hshape
    obtain rfl := Value.shape_eq_text_iff.mp hshape
    exact (floatOfText_only hP rfl rfl).bind fun x _ => floatText_only hP' x
  · rename_i m hshape
    obtain rfl := Value.shape_eq_member_iff.mp hshape
    exact (floatOfText_only hP rfl rfl).bind fun x _ => floatText_only hP' x
  · exact .error (hP' _ trivial)

/-- An array placeholder. A pair is the only part of it with a fault that was not foreseen. -/
theorem array_only (hesc : ∀ t, Fault.Only P (r.escaper t)) (v : Value) :
    Fault.Only (fun fault => P fault ∨ Unforeseen r .array v fault) (r.array v) := by
  unfold array
  split
  · have hscalars := Fault.Only.mapM (scalar_only hP r hesc)
    exact ((hscalars _).bind fun _ _ => .ok _).mono fun fault h => .inl h
  · rename_i entries hshape
    refine Fault.Only.bind ?_ fun _ _ => .ok _
    intro fault h
    obtain ⟨before, ⟨key, value⟩, after, rfl, hbefore, hpair⟩ := mapM_eq_error_iff.mp h
    -- the first pair without a text: its key has none, or what follows the key is at fault
    cases hkey : key.keyText? with
    | none =>
      simp only [pair, keyName, hkey] at hpair
      rw [← Except.error.inj hpair]
      exact .inr (.key hshape hbefore (Value.keyText?_eq_none_iff.mp hkey))
    | some name =>
      have hrest : Fault.Only P (r.pair (key, value)) := by
        simp only [pair, keyName, hkey]
        exact (quoteName_only hP r _ _ _).bind fun _ _ =>
          (scalar_only hP r hesc value).bind fun _ _ => .ok _
      exact .inl (hrest fault hpair)
  · exact .error (.inl (hP _ trivial))

/-- Every argument. -/
theorem render_only (hesc : ∀ t, Fault.Only P (r.escaper t)) (k : Placeholder) (v : Value) :
    Fault.Only (fun fault => P fault ∨ Unforeseen r k v fault) (r.render k v) := by
  cases k with
  | generic => exact (scalar_only hP r hesc v).mono fun _ => .inl
  | integer => exact integer_only hP v
  | float => exact float_only hP v
  | identifier => exact (identifier_only hP r v).mono fun _ => .inl
  | array => exact array_only hP hesc v

end Only

/-- Rendering an argument ends in a fault of its own, if the escaping does. -/
theorem render_isOwn (h : ∀ t, Fault.Only Fault.IsOwn (r.escaper t)) (kind : Placeholder)
    (v : Value) : Fault.Only Fault.IsOwn (r.render kind v) := by
  refine (render_only (fun fault => Fault.IsForeseen.isOwn) h kind v).mono fun fault hfault => ?_
  rcases hfault with hown | hunforeseen
  · exact hown
  · cases hunforeseen <;> trivial

end Renderer

/-- The escaping with backslashes ends in no fault at all. -/
theorem backslashEscaper_only {P : Fault → Prop} (t : Text) : Fault.Only P (backslashEscaper t) :=
  .ok _

theorem backslashEscaper_isOwn (t : Text) : Fault.Only Fault.IsOwn (backslashEscaper t) :=
  backslashEscaper_only t

/-- With the escaping of this library, the arguments that end in a fault that does not blame them
are those that were not foreseen. -/
theorem render_unforeseen_iff {options : Options} {k : Placeholder} {v : Value} {fault : Fault} :
    (Renderer.mk options backslashEscaper).render k v = .error fault ∧ fault.refusal? = none ↔
      Unforeseen ⟨options, backslashEscaper⟩ k v fault := by
  constructor
  · rintro ⟨hrender, hnone⟩
    have honly := Renderer.render_only (r := ⟨options, backslashEscaper⟩) (fun _ h => h)
      backslashEscaper_only k v fault hrender
    rcases honly with hforeseen | hunforeseen
    · have hsome := hforeseen.isSome_refusal?
      rw [hnone] at hsome
      cases hsome
    · exact hunforeseen
  · intro h
    exact ⟨Renderer.render_of_unforeseen h, h.refusal?_eq_none⟩

end QueryTemplate
