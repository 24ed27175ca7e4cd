import Mathlib.Data.List.Forall2
import QueryTemplate.Proofs.Containment.Scanner
import QueryTemplate.Proofs.Render.Characters
import QueryTemplate.Render
import QueryTemplate.Template

/-!
# Arguments of the same skeleton

Alike arguments, which differ in quoted contents only, are rendered into texts of the same skeleton.
-/

namespace QueryTemplate

/-!
## Arguments that differ in quoted contents only

A text given for a placeholder without a suffix ends up in a literal, a text given for an identifier
placeholder in an identifier, and the texts in a list or a mapping in the one or the other. Two
arguments are alike for a placeholder if they differ in such texts only: they are of the same shape,
of the same lengths, and the same in everything else.

A member of a choice is a text as well, but as an identifier it is written as its name, which
nothing checks. Where members are given as identifiers, their names are asked to hold no backtick;
of any other argument nothing is asked.
-/

namespace Value

/-- The value is a text. -/
def IsText (v : Value) : Prop := ∃ t, v.asText? = some t

/-- If the value is a member of a choice, its name holds no backtick. -/
def HasPlainName (v : Value) : Prop := ∀ m, v = .member m → backtick ∉ Display.memberName m

/-- The same value twice, or two texts. -/
def SameButText (v w : Value) : Prop := v = w ∨ v.IsText ∧ w.IsText

/-- Two entries of mappings that differ in texts only. -/
def SameEntryButText (e f : Value × Value) : Prop := SameButText e.1 f.1 ∧ SameButText e.2 f.2

/-- Two identifiers that differ in texts only. -/
structure SameButName (v w : Value) : Prop where
  sameButText : SameButText v w
  left : v.HasPlainName
  right : w.HasPlainName

/-- Two arguments of a placeholder that differ in quoted contents only. -/
inductive Alike : Placeholder → Value → Value → Prop
  /-- The same argument twice. -/
  | same {k : Placeholder} (hk : k ≠ .identifier) (v : Value) : Alike k v v
  /-- The same identifiers twice. -/
  | sameNames {v : Value} : v.HasPlainName → (∀ x ∈ v.items, x.HasPlainName) →
      Alike .identifier v v
  /-- Two texts for a placeholder without a suffix. -/
  | text {v w : Value} : v.IsText → w.IsText → Alike .generic v w
  /-- Two names. -/
  | name {v w : Value} : v.IsText → w.IsText → v.HasPlainName → w.HasPlainName →
      Alike .identifier v w
  /-- Two lists of as many names. -/
  | names {v w : Value} {xs ys : List Value} : v.shape = .items xs → w.shape = .items ys →
      List.Forall₂ SameButName xs ys → Alike .identifier v w
  /-- Two lists of as many scalars. -/
  | items {v w : Value} {xs ys : List Value} : v.shape = .items xs → w.shape = .items ys →
      List.Forall₂ SameButText xs ys → Alike .array v w
  /-- Two mappings of as many entries. -/
  | entries {v w : Value} {es fs : List (Value × Value)} : v.shape = .entries es →
      w.shape = .entries fs → List.Forall₂ SameEntryButText es fs → Alike .array v w

theorem SameButText.refl (v : Value) : SameButText v v := .inl rfl

theorem SameEntryButText.refl (e : Value × Value) : SameEntryButText e e := ⟨.inl rfl, .inl rfl⟩

/-- A plain text has no other name. -/
theorem hasPlainName_text (t : Text) : HasPlainName (.text t) := by
  intro m h
  cases h

/-- A value of another shape is not the skip marker. -/
theorem isSkip_eq_false_of_shape {v : Value} {shape : Shape} (h : v.shape = shape)
    (hne : shape ≠ .skip) : v.isSkip = false := by
  cases v with
  | skip => exact absurd h.symm hne
  | _ => rfl

theorem IsText.isSkip_eq_false {v : Value} (h : v.IsText) : v.isSkip = false := by
  obtain ⟨t, ht⟩ := h
  cases v with
  | skip => cases ht
  | _ => rfl

/-- Of two alike arguments both are the skip marker or none is. -/
theorem Alike.isSkip_eq {k : Placeholder} {v w : Value} (h : Alike k v w) :
    v.isSkip = w.isSkip := by
  cases h with
  | same | sameNames => rfl
  | text hv hw | name hv hw _ _ => rw [hv.isSkip_eq_false, hw.isSkip_eq_false]
  | names hv hw _ | items hv hw _ | entries hv hw _ =>
    rw [isSkip_eq_false_of_shape hv (by simp), isSkip_eq_false_of_shape hw (by simp)]

/-- A text is no position. -/
theorem IsText.isPositionalFrom_eq_false {key : Value} (h : key.IsText) (n : Int) (value : Value)
    (rest : List (Value × Value)) : isPositionalFrom n ((key, value) :: rest) = false := by
  obtain ⟨t, ht⟩ := h
  cases key with
  | int i => cases ht
  | _ => rfl

/-- Whether the keys of a mapping are positions does not depend on the texts in it. -/
theorem isPositionalFrom_eq {es fs : List (Value × Value)}
    (h : List.Forall₂ SameEntryButText es fs) (n : Int) :
    isPositionalFrom n es = isPositionalFrom n fs := by
  induction h generalizing n with
  | nil => rfl
  | @cons e f es fs hentry hrest ih =>
    obtain ⟨key, value⟩ := e
    obtain ⟨key', value'⟩ := f
    rcases hentry.1 with hkey | ⟨hkey, hkey'⟩
    · obtain rfl : key = key' := hkey
      cases key with
      | int i => rw [isPositionalFrom, isPositionalFrom, ih]
      | _ => rfl
    · rw [hkey.isPositionalFrom_eq_false, hkey'.isPositionalFrom_eq_false]

/-- Mappings with the same keys and values, but for texts, are alike, whether they stand for lists
or for pairs. -/
theorem alike_map {es fs : List (Value × Value)} (h : List.Forall₂ SameEntryButText es fs) :
    Alike .array (.map es) (.map fs) := by
  have hshape : isAssociative es = isAssociative fs := by
    rw [isAssociative, isAssociative, isPositionalFrom_eq h]
  by_cases hassociative : isAssociative es = true
  · refine .entries ?_ ?_ h
    · rw [shape, shapeOfEntries, if_pos hassociative]
    · rw [shape, shapeOfEntries, if_pos (hshape ▸ hassociative)]
  · have hitems : List.Forall₂ SameButText (es.map (·.2)) (fs.map (·.2)) := by
      rw [List.forall₂_map_left_iff, List.forall₂_map_right_iff]
      exact h.imp fun e f hentry => hentry.2
    refine .items ?_ ?_ hitems
    · rw [shape, shapeOfEntries, if_neg hassociative]
    · rw [shape, shapeOfEntries, if_neg (hshape ▸ hassociative)]

end Value

/-- Two lists of arguments of a template of which every placeholder gets two alike ones. -/
def AlikeArguments (template : Text) (args args' : List Value) : Prop :=
  ∀ (i : Nat) (k : Placeholder) (v w : Value), (placeholders template)[i]? = some k →
    args[i]? = some v → args'[i]? = some w → v.Alike k w

/-!
## Alike arguments are rendered alike

Two arguments that are alike for a placeholder are rendered into texts of the same skeleton,
whatever the texts in them hold: escaping keeps a literal from ending early, a name with a backtick
is refused, and everything else that is rendered is plain.
-/

/-- No character of a scalar that is not quoted is a quote. -/
theorem isPlain_of_subset_scalarCharacters {s : Text} (h : s ⊆ scalarCharacters) : s.IsPlain := by
  have hplain : scalarCharacters.IsPlain := by
    decide
  exact hplain.subset h

/-- Two lists of related items have related results, item by item. -/
theorem mapM_forall₂ {α β : Type} {R : α → α → Prop} {S : β → β → Prop} {f : α → Except Fault β}
    (hf : ∀ x y s t, R x y → f x = .ok s → f y = .ok t → S s t) {xs ys : List α}
    (h : List.Forall₂ R xs ys) {ss ts : List β} (hs : xs.mapM f = .ok ss)
    (ht : ys.mapM f = .ok ts) : List.Forall₂ S ss ts := by
  rw [mapM_eq_ok_iff] at hs ht
  induction h generalizing ss ts with
  | nil =>
    cases hs
    cases ht
    exact .nil
  | @cons x y xs ys hxy hrest ih =>
    cases hs with
    | @cons _ s _ ss hx hxs =>
      cases ht with
      | @cons _ t _ ts hy hys => exact .cons (hf x y s t hxy hx hy) (ih hxs hys)

namespace Renderer

/-- The escaping of this library, and names that are checked. -/
structure IsGuarded (r : Renderer) : Prop where
  /-- Texts are escaped with backslashes. -/
  escaper : r.escaper = backslashEscaper
  /-- Names are checked. -/
  checked : r.options.validateIdentifiers = true

variable {r : Renderer} {v w : Value} {s t : Text}

theorem isPlain_listSeparator : listSeparator.IsPlain := by
  decide

theorem isPlain_pairSeparator : pairSeparator.IsPlain := by
  decide

/-- Two literals. -/
theorem literal_sameSkeleton (h : r.IsGuarded) {x y : Text} (hs : r.literal x = .ok s)
    (ht : r.literal y = .ok t) : SameSkeleton s t := by
  have hliteral : ∀ u, r.literal u = .ok (singleQuote :: escapeText u ++ [singleQuote]) := by
    intro u
    rw [literal, h.escaper]
    rfl
  rw [hliteral] at hs ht
  rw [← Except.ok.inj hs, ← Except.ok.inj ht]
  exact SameSkeleton.quoted rfl rfl (ScanMode.hides_escapeText x) (ScanMode.hides_escapeText y)

/-- The text is a name between backticks that holds none. -/
def IsClosedName (s : Text) : Prop := ∃ name, backtick ∉ name ∧ s = backtick :: name ++ [backtick]

/-- Two identifiers. -/
theorem IsClosedName.sameSkeleton (hs : IsClosedName s) (ht : IsClosedName t) :
    SameSkeleton s t := by
  obtain ⟨x, hx, rfl⟩ := hs
  obtain ⟨y, hy, rfl⟩ := ht
  exact SameSkeleton.quoted rfl rfl (ScanMode.hides_name hx) (ScanMode.hides_name hy)

/-- A name that is accepted holds no backtick. -/
theorem isClosedName_of_quoteIdentifier (h : r.IsGuarded) {name : Text}
    (hs : r.quoteIdentifier name = .ok s) : IsClosedName s := by
  unfold quoteIdentifier quoteName at hs
  rw [h.checked, Bool.true_and, Bool.true_and] at hs
  split at hs
  · cases hs
  · split at hs
    · cases hs
    · rename_i hsafe
      refine ⟨name, fun hmem => ?_, (Except.ok.inj hs).symm⟩
      exact hsafe (List.any_eq_true.mpr ⟨backtick, hmem, by decide⟩)

/-- Of a member that is accepted, the name is written. -/
theorem isClosedName_of_quoteMember {m : Member} (hname : (Value.member m).HasPlainName)
    (hs : r.quoteMember m = .ok s) : IsClosedName s := by
  unfold quoteMember quoteName at hs
  split_ifs at hs
  exact ⟨Display.memberName m, hname m rfl, (Except.ok.inj hs).symm⟩

/-- Two scalars, of which the texts are literals. -/
theorem scalar_sameSkeleton (h : r.IsGuarded) (hvw : v.SameButText w) (hs : r.scalar v = .ok s)
    (ht : r.scalar w = .ok t) : SameSkeleton s t := by
  rcases hvw with rfl | ⟨⟨x, hx⟩, ⟨y, hy⟩⟩
  · rw [hs] at ht
    rw [← Except.ok.inj ht]
    rcases subset_or_literal_of_scalar hs with hsubset | ⟨x, -, hx⟩
    · exact SameSkeleton.of_isPlain (isPlain_of_subset_scalarCharacters hsubset)
    · exact literal_sameSkeleton h hx hx
  · rw [r.scalar_of_asText? hx] at hs
    rw [r.scalar_of_asText? hy] at ht
    exact literal_sameSkeleton h hs ht

/-- Two pairs, whatever their keys are. -/
theorem pair_sameSkeleton (h : r.IsGuarded) {e f : Value × Value}
    (hef : Value.SameEntryButText e f) (hs : r.pair e = .ok s) (ht : r.pair f = .ok t) :
    SameSkeleton s t := by
  obtain ⟨name, -, hs⟩ := exists_of_bind_eq_ok hs
  obtain ⟨column, hcolumn, hs⟩ := exists_of_bind_eq_ok hs
  obtain ⟨value, hvalue, hs⟩ := exists_of_bind_eq_ok hs
  obtain ⟨name', -, ht⟩ := exists_of_bind_eq_ok ht
  obtain ⟨column', hcolumn', ht⟩ := exists_of_bind_eq_ok ht
  obtain ⟨value', hvalue', ht⟩ := exists_of_bind_eq_ok ht
  rw [← Except.ok.inj hs, ← Except.ok.inj ht]
  have hcolumns := (isClosedName_of_quoteIdentifier h hcolumn).sameSkeleton
    (isClosedName_of_quoteIdentifier h hcolumn')
  have hvalues := scalar_sameSkeleton h hef.2 hvalue hvalue'
  exact (hcolumns.append (SameSkeleton.of_isPlain isPlain_pairSeparator)).append hvalues

/-- What is rendered item by item and joined. -/
theorem joined_sameSkeleton {α : Type} {R : α → α → Prop} {f : α → Except Fault Text}
    (hf : ∀ x y s t, R x y → f x = .ok s → f y = .ok t → SameSkeleton s t) {xs ys : List α}
    (h : List.Forall₂ R xs ys)
    (hs : (do return Text.joined listSeparator (← xs.mapM f)) = (.ok s : Except Fault Text))
    (ht : (do return Text.joined listSeparator (← ys.mapM f)) = (.ok t : Except Fault Text)) :
    SameSkeleton s t := by
  obtain ⟨ss, hss, hs⟩ := exists_of_bind_eq_ok hs
  obtain ⟨ts, hts, ht⟩ := exists_of_bind_eq_ok ht
  rw [← Except.ok.inj hs, ← Except.ok.inj ht]
  exact SameSkeleton.joined isPlain_listSeparator (mapM_forall₂ hf h hss hts)

/-- An item of a list of identifiers. -/
theorem isClosedName_of_listedIdentifier (h : r.IsGuarded) (hname : v.HasPlainName)
    (hs : r.listedIdentifier v = .ok s) : IsClosedName s := by
  unfold listedIdentifier at hs
  split at hs
  · exact isClosedName_of_quoteIdentifier h hs
  · rename_i m hshape
    obtain rfl := Value.shape_eq_member_iff.mp hshape
    exact isClosedName_of_quoteMember hname hs
  · cases hs

/-- An identifier placeholder takes a text, which it treats as an item of a list, or a list. -/
theorem listed_or_items_of_identifier (hs : r.identifier v = .ok s) :
    (v.IsText ∧ r.listedIdentifier v = .ok s) ∨ ∃ xs, v.shape = .items xs := by
  unfold identifier at hs
  split at hs
  · rename_i name hshape
    obtain rfl := Value.shape_eq_text_iff.mp hshape
    exact .inl ⟨⟨name, rfl⟩, hs⟩
  · rename_i m hshape
    obtain rfl := Value.shape_eq_member_iff.mp hshape
    exact .inl ⟨⟨m.value, rfl⟩, hs⟩
  · rename_i xs hshape
    exact .inr ⟨xs, hshape⟩
  · cases hs

/-- A text for an identifier placeholder. -/
theorem isClosedName_of_identifier (h : r.IsGuarded) (hv : v.IsText) (hname : v.HasPlainName)
    (hs : r.identifier v = .ok s) : IsClosedName s := by
  rcases listed_or_items_of_identifier hs with ⟨-, hlisted⟩ | ⟨xs, hxs⟩
  · exact isClosedName_of_listedIdentifier h hname hlisted
  · obtain ⟨t, ht⟩ := hv
    cases v with
    | text | member => cases hxs
    | _ => cases ht

/-- Two lists of as many items for an identifier placeholder. -/
theorem identifier_sameSkeleton_of_items (h : r.IsGuarded) {xs ys : List Value}
    (hxs : v.shape = .items xs) (hys : w.shape = .items ys)
    (hxy : List.Forall₂ Value.SameButName xs ys) (hs : r.identifier v = .ok s)
    (ht : r.identifier w = .ok t) : SameSkeleton s t := by
  rw [identifier, hxs] at hs
  rw [identifier, hys] at ht
  refine joined_sameSkeleton (fun x y s t hxy hs ht => ?_) hxy hs ht
  exact (isClosedName_of_listedIdentifier h hxy.left hs).sameSkeleton
    (isClosedName_of_listedIdentifier h hxy.right ht)

/-- The same identifiers twice. -/
theorem identifier_sameSkeleton_self (h : r.IsGuarded) (hname : v.HasPlainName)
    (hitems : ∀ x ∈ v.items, x.HasPlainName) (hs : r.identifier v = .ok s) : SameSkeleton s s := by
  rcases listed_or_items_of_identifier hs with ⟨htext, -⟩ | ⟨xs, hxs⟩
  · have hclosed := isClosedName_of_identifier h htext hname hs
    exact hclosed.sameSkeleton hclosed
  · have hsame : List.Forall₂ Value.SameButName xs xs := by
      refine List.forall₂_same.mpr fun x hx => ?_
      have hplain := hitems x (by rw [Value.items, hxs]; exact hx)
      exact ⟨.refl x, hplain, hplain⟩
    exact identifier_sameSkeleton_of_items h hxs hxs hsame hs hs

/-- An array placeholder takes a list or pairs. -/
theorem shape_of_array (hs : r.array v = .ok s) :
    (∃ xs, v.shape = .items xs) ∨ ∃ es, v.shape = .entries es := by
  unfold array at hs
  split at hs
  · rename_i xs hshape
    exact .inl ⟨xs, hshape⟩
  · rename_i es hshape
    exact .inr ⟨es, hshape⟩
  · cases hs

/-- Two lists of as many scalars for an array placeholder. -/
theorem array_sameSkeleton_of_items (h : r.IsGuarded) {xs ys : List Value}
    (hxs : v.shape = .items xs) (hys : w.shape = .items ys)
    (hxy : List.Forall₂ Value.SameButText xs ys) (hs : r.array v = .ok s)
    (ht : r.array w = .ok t) : SameSkeleton s t := by
  rw [array, hxs] at hs
  rw [array, hys] at ht
  exact joined_sameSkeleton (fun x y s t hxy => scalar_sameSkeleton h hxy) hxy hs ht

/-- Two lists of as many pairs for an array placeholder. -/
theorem array_sameSkeleton_of_entries (h : r.IsGuarded) {es fs : List (Value × Value)}
    (hes : v.shape = .entries es) (hfs : w.shape = .entries fs)
    (hef : List.Forall₂ Value.SameEntryButText es fs) (hs : r.array v = .ok s)
    (ht : r.array w = .ok t) : SameSkeleton s t := by
  rw [array, hes] at hs
  rw [array, hfs] at ht
  exact joined_sameSkeleton (fun e f s t hef => pair_sameSkeleton h hef) hef hs ht

/-- The same argument twice, which is given for no identifier. -/
theorem render_sameSkeleton_self (h : r.IsGuarded) {k : Placeholder} (hk : k ≠ .identifier)
    (hs : r.render k v = .ok s) : SameSkeleton s s := by
  have hitems : ∀ xs : List Value, List.Forall₂ Value.SameButText xs xs :=
    fun xs => List.forall₂_same.mpr fun x _ => .refl x
  have hentries : ∀ es : List (Value × Value), List.Forall₂ Value.SameEntryButText es es :=
    fun es => List.forall₂_same.mpr fun e _ => .refl e
  cases k with
  | generic => exact scalar_sameSkeleton h (.refl v) hs hs
  | integer => exact .of_isPlain (isPlain_of_subset_scalarCharacters (subset_of_integer hs))
  | float => exact .of_isPlain (isPlain_of_subset_scalarCharacters (subset_of_float hs))
  | identifier => exact absurd rfl hk
  | array =>
    rcases shape_of_array hs with ⟨xs, hxs⟩ | ⟨es, hes⟩
    · exact array_sameSkeleton_of_items h hxs hxs (hitems xs) hs hs
    · exact array_sameSkeleton_of_entries h hes hes (hentries es) hs hs

/-- Two alike arguments are rendered into texts of the same skeleton. -/
theorem render_sameSkeleton (h : r.IsGuarded) {k : Placeholder} (hvw : v.Alike k w)
    (hs : r.render k v = .ok s) (ht : r.render k w = .ok t) : SameSkeleton s t := by
  cases hvw with
  | same hk =>
    rw [hs] at ht
    rw [← Except.ok.inj ht]
    exact render_sameSkeleton_self h hk hs
  | sameNames hname hitems =>
    rw [hs] at ht
    rw [← Except.ok.inj ht]
    exact identifier_sameSkeleton_self h hname hitems hs
  | text hv hw => exact scalar_sameSkeleton h (.inr ⟨hv, hw⟩) hs ht
  | name hv hw hname hname' =>
    exact (isClosedName_of_identifier h hv hname hs).sameSkeleton
      (isClosedName_of_identifier h hw hname' ht)
  | names hxs hys hxy => exact identifier_sameSkeleton_of_items h hxs hys hxy hs ht
  | items hxs hys hxy => exact array_sameSkeleton_of_items h hxs hys hxy hs ht
  | entries hes hfs hef => exact array_sameSkeleton_of_entries h hes hfs hef hs ht

end Renderer

end QueryTemplate
