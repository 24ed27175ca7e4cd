import Mathlib.Data.List.Basic
import QueryTemplate.Proofs.Results
import QueryTemplate.Proofs.Text
import QueryTemplate.Render

/-!
# The characters of rendered texts

What is rendered without quotes is made of a few characters, none of them a blank.
-/

namespace QueryTemplate

/-!
## The characters of scalars

Whatever is rendered but neither quoted nor escaped is made of a few characters: the digits of a
number, its sign, its point and its exponent, and the letters of the words for the other scalars.
What holds of each of these characters therefore holds of every such text.
-/

/-- The characters of the scalars that are not quoted. -/
def scalarCharacters : Text := "0123456789+-.einfaNUL".toList

theorem Text.filled_subset {c : Char} {s : Text} (h : c ∈ s) (n : Nat) : filled n c ⊆ s := by
  intro d hd
  rw [List.eq_of_mem_replicate hd]
  exact h

/-- A digit is one of the characters. -/
theorem Digits.ofValue_mem : ∀ d < 10, ofValue d ∈ scalarCharacters := by
  decide

theorem Digits.ofNat_subset (n : Nat) : ofNat n ⊆ scalarCharacters := by
  fun_induction ofNat n with
  | case1 n h => exact List.cons_subset.mpr ⟨ofValue_mem n h, List.nil_subset _⟩
  | case2 n h ih =>
    have hlast := ofValue_mem (n % 10) (Nat.mod_lt n (by decide))
    exact List.append_subset.mpr ⟨ih, List.cons_subset.mpr ⟨hlast, List.nil_subset _⟩⟩

theorem integerText_subset (i : Int) : integerText i ⊆ scalarCharacters := by
  unfold integerText
  split
  · exact List.cons_subset.mpr ⟨by decide, Digits.ofNat_subset _⟩
  · exact Digits.ofNat_subset _

namespace DecimalLayout

theorem exponentText_subset (layout : DecimalLayout) (power : Int) :
    layout.exponentText power ⊆ scalarCharacters := by
  have hsign : (if power < 0 then '-' else '+') ∈ scalarCharacters := by
    split <;> decide
  have hzeros : ∀ n, Text.filled n '0' ⊆ scalarCharacters := Text.filled_subset (by decide)
  unfold exponentText
  rw [List.cons_append]
  exact List.cons_subset.mpr
    ⟨hsign, List.append_subset.mpr ⟨hzeros _, Digits.ofNat_subset _⟩⟩

/-- A decimal is set out with these characters, whatever its layout. -/
theorem text_subset (layout : DecimalLayout) (d : Decimal) :
    layout.text d ⊆ scalarCharacters := by
  have hdigits := Digits.ofNat_subset d.digits
  have hzeros : ∀ n, Text.filled n '0' ⊆ scalarCharacters := Text.filled_subset (by decide)
  have htake : ∀ n, (Digits.ofNat d.digits).take n ⊆ scalarCharacters :=
    fun n => List.Subset.trans (List.take_subset n _) hdigits
  have hdrop : ∀ n, (Digits.ofNat d.digits).drop n ⊆ scalarCharacters :=
    fun n => List.Subset.trans (List.drop_subset n _) hdigits
  have hpoint : ∀ {t : Text}, t ⊆ scalarCharacters → '.' :: t ⊆ scalarCharacters :=
    fun h => List.cons_subset.mpr ⟨by decide, h⟩
  unfold text
  simp only
  split
  -- with a point, the digits in front of it or behind it
  · split
    · have hleading : "0.".toList ⊆ scalarCharacters := by decide
      exact List.append_subset.mpr ⟨List.append_subset.mpr ⟨hleading, hzeros _⟩, hdigits⟩
    · refine List.append_subset.mpr ⟨List.append_subset.mpr ⟨htake _, hzeros _⟩, hpoint ?_⟩
      split
      · decide
      · exact hdrop _
  -- with an exponent
  · have hexponent : 'e' :: layout.exponentText (d.exponent + (Digits.ofNat d.digits).length - 1) ⊆
        scalarCharacters := List.cons_subset.mpr ⟨by decide, layout.exponentText_subset _⟩
    refine List.append_subset.mpr ⟨List.append_subset.mpr ⟨htake 1, ?_⟩, hexponent⟩
    split
    · exact List.nil_subset _
    · exact hpoint (hdrop 1)

end DecimalLayout

theorem Binary64.text_subset (x : Binary64) : x.text ⊆ scalarCharacters := by
  unfold text
  split
  · decide
  · split <;> decide
  · rename_i m e _
    simp only
    split
    · exact List.cons_subset.mpr ⟨by decide, DecimalLayout.text_subset _ _⟩
    · exact DecimalLayout.text_subset _ _

theorem boolText_subset (b : Bool) : boolText b ⊆ scalarCharacters := by
  cases b <;> decide

theorem nullText_subset : nullText ⊆ scalarCharacters := by
  decide

theorem subset_of_intText {i : Int} {s : Text} (h : intText i = .ok s) :
    s ⊆ scalarCharacters := by
  unfold intText integerText? at h
  by_cases hlimit : withinDigitLimit i = true
  · rw [if_pos hlimit] at h
    rw [← Except.ok.inj h]
    exact integerText_subset i
  · rw [if_neg hlimit] at h
    cases h

theorem subset_of_floatText {x : Binary64} {s : Text} (h : floatText x = .ok s) :
    s ⊆ scalarCharacters := by
  unfold floatText at h
  by_cases hfinite : x.isFinite = true
  · rw [if_pos hfinite] at h
    rw [← Except.ok.inj h]
    exact x.text_subset
  · rw [if_neg hfinite] at h
    cases h

namespace Renderer

variable {r : Renderer} {v : Value} {s : Text}

theorem subset_of_fittedText {i : Int} (h : r.fittedText i = .ok s) : s ⊆ scalarCharacters := by
  obtain ⟨fitted, -, hfitted⟩ := exists_of_bind_eq_ok h
  rw [← Except.ok.inj hfitted]
  exact integerText_subset fitted

/-- Whatever an integer placeholder is given, its text is made of these characters. -/
theorem subset_of_integer (h : r.integer v = .ok s) : s ⊆ scalarCharacters := by
  unfold integer at h
  split at h
  · rw [← Except.ok.inj h]
    exact nullText_subset
  · rename_i b _
    rw [← Except.ok.inj h]
    exact boolText_subset b
  · exact subset_of_fittedText h
  · split at h
    · exact subset_of_fittedText h
    · cases h
  · obtain ⟨i, -, hi⟩ := exists_of_bind_eq_ok h
    exact subset_of_fittedText hi
  · obtain ⟨i, -, hi⟩ := exists_of_bind_eq_ok h
    exact subset_of_fittedText hi
  · cases h

/-- Whatever a float placeholder is given, its text is made of these characters. -/
theorem subset_of_float (h : r.float v = .ok s) : s ⊆ scalarCharacters := by
  unfold float at h
  split at h
  · rw [← Except.ok.inj h]
    exact nullText_subset
  · obtain ⟨x, -, hx⟩ := exists_of_bind_eq_ok h
    exact subset_of_floatText hx
  · obtain ⟨x, -, hx⟩ := exists_of_bind_eq_ok h
    exact subset_of_floatText hx
  · exact subset_of_floatText h
  · obtain ⟨x, -, hx⟩ := exists_of_bind_eq_ok h
    exact subset_of_floatText hx
  · obtain ⟨x, -, hx⟩ := exists_of_bind_eq_ok h
    exact subset_of_floatText hx
  · cases h

/-- A value that is a text is rendered as a literal. -/
theorem scalar_of_asText? (r : Renderer) {t : Text} (h : v.asText? = some t) :
    r.scalar v = r.literal t := by
  cases v with
  | text | member =>
    rw [← Option.some.inj h]
    rfl
  | _ => cases h

/-- A scalar is a literal, or its text is made of these characters. -/
theorem subset_or_literal_of_scalar (h : r.scalar v = .ok s) :
    s ⊆ scalarCharacters ∨ ∃ t, v.asText? = some t ∧ r.literal t = .ok s := by
  unfold scalar at h
  split at h
  · left
    rw [← Except.ok.inj h]
    exact nullText_subset
  · left
    rename_i b _
    rw [← Except.ok.inj h]
    exact boolText_subset b
  · exact .inl (subset_of_intText h)
  · exact .inl (subset_of_floatText h)
  · rename_i t hshape
    obtain rfl := Value.shape_eq_text_iff.mp hshape
    exact .inr ⟨t, rfl, h⟩
  · rename_i m hshape
    obtain rfl := Value.shape_eq_member_iff.mp hshape
    exact .inr ⟨m.value, rfl, h⟩
  · cases h

end Renderer

/-!
## Where the texts of arguments end

The text of an argument ends in a quote, or in a character of a number or a word: never in a blank,
whatever blanks the argument holds. Only an empty list has an empty text, and no part of a longer
one has.
-/

section

open Text

/-! ### Numbers -/

theorem Digits.ofNat_ne_nil (n : Nat) : ofNat n ≠ [] := by
  unfold ofNat
  split <;> simp

theorem integerText_ne_nil (i : Int) : integerText i ≠ [] := by
  unfold integerText
  split
  · exact List.cons_ne_nil _ _
  · exact Digits.ofNat_ne_nil _

/-- A number has a point or an exponent in its text, or is shown by a word. -/
theorem Binary64.text_ne_nil (x : Binary64) : x.text ≠ [] := by
  have hdecimal (layout : DecimalLayout) (d : Decimal) : layout.text d ≠ [] := by
    unfold DecimalLayout.text
    simp only
    split_ifs <;> simp
  unfold text
  split
  · decide
  · split <;> decide
  · simp only
    split
    · exact List.cons_ne_nil _ _
    · exact hdecimal _ _

/-! ### Parts -/

theorem eq_nil_or_endsSolid_of_subset_scalarCharacters {s : Text} (h : s ⊆ scalarCharacters) :
    s = [] ∨ s.EndsSolid := by
  have hsolid : scalarCharacters.all (fun c => !isBlank c) = true := by
    decide
  refine eq_nil_or_endsSolid fun c hc => ?_
  simpa using List.all_eq_true.mp hsolid c (h hc)

/-- What holds of the text of every item holds of all texts. -/
theorem forall_of_mapM {α β : Type} {P : β → Prop} {f : α → Except Fault β}
    (hf : ∀ x t, f x = .ok t → P t) {xs : List α} {ts : List β} (h : xs.mapM f = .ok ts) :
    ∀ t ∈ ts, P t := by
  rw [mapM_eq_ok_iff] at h
  induction h with
  | nil => exact List.forall_mem_nil P
  | @cons x t rest others ht hothers ih => exact List.forall_mem_cons.mpr ⟨hf x t ht, ih⟩

/-- Texts with a separator between them end as the last of them does. -/
theorem endsSolid_joined (sep : Text) {texts : List Text} (hne : texts ≠ [])
    (h : ∀ t ∈ texts, EndsSolid t) : EndsSolid (joined sep texts) := by
  induction texts with
  | nil => exact absurd rfl hne
  | cons t rest ih =>
    obtain ⟨ht, hrest⟩ := List.forall_mem_cons.mp h
    by_cases hlast : rest = []
    · rw [hlast]
      exact ht
    · rw [joined_cons_of_ne_nil sep t hlast]
      exact (ih hlast hrest).append_left _

namespace Renderer

variable {r : Renderer} {v : Value} {s : Text}

/-- A literal ends in its quote, whatever the escaping is. -/
theorem endsSolid_of_literal {t : Text} (h : r.literal t = .ok s) : s.EndsSolid := by
  obtain ⟨inside, -, hs⟩ := exists_of_bind_eq_ok h
  rw [← Except.ok.inj hs]
  exact .concat (by decide) _

/-- A name ends in its quote, whether or not names are checked. -/
theorem endsSolid_of_quoteName {characters shown written : Text}
    (h : r.quoteName characters shown written = .ok s) : s.EndsSolid := by
  unfold quoteName at h
  split_ifs at h
  rw [← Except.ok.inj h]
  exact .concat (by decide) _

/-- Every scalar has a character. -/
theorem ne_nil_of_scalar (h : r.scalar v = .ok s) : s ≠ [] := by
  unfold scalar at h
  split at h
  · rw [← Except.ok.inj h]
    decide
  · rename_i b _
    rw [← Except.ok.inj h]
    cases b <;> decide
  · rename_i i _
    -- an integer with a text has at least one digit
    unfold intText integerText? at h
    by_cases hlimit : withinDigitLimit i = true
    · rw [if_pos hlimit] at h
      rw [← Except.ok.inj h]
      exact integerText_ne_nil i
    · rw [if_neg hlimit] at h
      cases h
  · rename_i x _
    unfold floatText at h
    split_ifs at h
    rw [← Except.ok.inj h]
    exact x.text_ne_nil
  · exact (endsSolid_of_literal h).ne_nil
  · exact (endsSolid_of_literal h).ne_nil
  · cases h

theorem endsSolid_of_scalar (h : r.scalar v = .ok s) : s.EndsSolid := by
  rcases subset_or_literal_of_scalar h with hsubset | ⟨t, -, hliteral⟩
  · exact (eq_nil_or_endsSolid_of_subset_scalarCharacters hsubset).resolve_left
      (ne_nil_of_scalar h)
  · exact endsSolid_of_literal hliteral

theorem endsSolid_of_pair {entry : Value × Value} (h : r.pair entry = .ok s) : s.EndsSolid := by
  obtain ⟨name, -, h⟩ := exists_of_bind_eq_ok h
  obtain ⟨column, -, h⟩ := exists_of_bind_eq_ok h
  obtain ⟨value, hvalue, h⟩ := exists_of_bind_eq_ok h
  rw [← Except.ok.inj h]
  exact (endsSolid_of_scalar hvalue).append_left _

theorem endsSolid_of_listedIdentifier (h : r.listedIdentifier v = .ok s) : s.EndsSolid := by
  unfold listedIdentifier at h
  split at h
  · exact endsSolid_of_quoteName h
  · exact endsSolid_of_quoteName h
  · cases h

/-- A list is rendered item by item, and has no text if it has no items. -/
theorem eq_nil_or_endsSolid_of_list {α : Type} {f : α → Except Fault Text}
    (hf : ∀ x t, f x = .ok t → EndsSolid t) {xs : List α}
    (h : (do return joined listSeparator (← xs.mapM f)) = (.ok s : Except Fault Text)) :
    s = [] ∨ s.EndsSolid := by
  obtain ⟨texts, htexts, h⟩ := exists_of_bind_eq_ok h
  rw [← Except.ok.inj h]
  by_cases hnone : texts = []
  · rw [hnone]
    exact .inl rfl
  · exact .inr (endsSolid_joined listSeparator hnone (forall_of_mapM hf htexts))

theorem eq_nil_or_endsSolid_of_identifier (h : r.identifier v = .ok s) :
    s = [] ∨ s.EndsSolid := by
  unfold identifier at h
  split at h
  · exact .inr (endsSolid_of_quoteName h)
  · exact .inr (endsSolid_of_quoteName h)
  · exact eq_nil_or_endsSolid_of_list (fun _ _ => endsSolid_of_listedIdentifier) h
  · cases h

theorem eq_nil_or_endsSolid_of_array (h : r.array v = .ok s) : s = [] ∨ s.EndsSolid := by
  unfold array at h
  split at h
  · exact eq_nil_or_endsSolid_of_list (fun _ _ => endsSolid_of_scalar) h
  · exact eq_nil_or_endsSolid_of_list (fun _ _ => endsSolid_of_pair) h
  · cases h

/-- The text of an argument does not end in a blank. -/
theorem eq_nil_or_endsSolid_of_render {k : Placeholder} (h : r.render k v = .ok s) :
    s = [] ∨ s.EndsSolid := by
  cases k with
  | generic => exact .inr (endsSolid_of_scalar h)
  | integer => exact eq_nil_or_endsSolid_of_subset_scalarCharacters (subset_of_integer h)
  | float => exact eq_nil_or_endsSolid_of_subset_scalarCharacters (subset_of_float h)
  | identifier => exact eq_nil_or_endsSolid_of_identifier h
  | array => exact eq_nil_or_endsSolid_of_array h

end Renderer

end

end QueryTemplate
