import QueryTemplate.Proofs.Render.Literals
import QueryTemplate.Proofs.Render.Names
import QueryTemplate.Render

/-!
# Elements and pairs found again in arrays

With the escaping by backslashes, the text of an array is read back: the elements of a list as the
scalars that they are, and, where names are checked, the pairs of a mapping as the columns with
their scalars. No element takes the place of a separator, of another element or of a pair, whatever
quotes, commas and digits it holds. A mapping is never taken for a list, as it begins with a
backtick.
-/

namespace QueryTemplate

open Text

/-! ## Columns -/

/-- Reads a column with its scalar from the start of a text. -/
def readColumn? (t : Text) : Option ((Text × Scalar) × Text) :=
  match readName? t with
  | none => none
  | some (name, rest) =>
    match rest.dropPrefix? Renderer.pairSeparator with
    | none => none
    | some others => (readScalar? others).map fun found => ((name, found.1), found.2)

/-- The column and the scalar that a pair of a mapping stands for, if its key is a text. -/
def IsColumn (entry : Value × Value) (column : Text × Scalar) : Prop :=
  entry.1 = .text column.1 ∧ entry.2.scalar? = some column.2

/-- What is rendered for a pair is read as its column with its scalar. -/
theorem isReadAs_of_pair {r : Renderer} (hescaper : r.escaper = backslashEscaper)
    (hchecked : r.options.validateIdentifiers = true) {entry : Value × Value}
    {column : Text × Scalar} {t : Text} (hcolumn : IsColumn entry column)
    (h : r.pair entry = .ok t) : IsReadAs Renderer.listSeparator readColumn? t column := by
  obtain ⟨key, value⟩ := entry
  obtain ⟨name, x⟩ := column
  obtain ⟨rfl, hvalue⟩ : key = .text name ∧ value.scalar? = some x := hcolumn
  obtain ⟨found, hfound, hrest⟩ := exists_of_bind_eq_ok h
  obtain rfl : name = found := Except.ok.inj hfound
  -- the two parts of the pair have their texts, and the name is safe
  obtain ⟨quoted, hquoted, hscalar⟩ := exists_of_bind_eq_ok hrest
  obtain ⟨hsafe, rfl⟩ := (Renderer.quoteIdentifier_eq_ok_iff hchecked).mp hquoted
  obtain ⟨s, hs, ht⟩ := exists_of_bind_eq_ok hscalar
  obtain rfl : quotedName name ++ Renderer.pairSeparator ++ s = t := Except.ok.inj ht
  have hread : IsReadAs Renderer.listSeparator readScalar? s x :=
    isReadAs_of_scalar hescaper hvalue hs
  refine ⟨List.cons_ne_nil _ _, fun rest hrest => ?_⟩
  -- behind the name stands the separator of the pair, and behind it the scalar
  have hdrop : (Renderer.pairSeparator ++ (s ++ rest)).dropPrefix? Renderer.pairSeparator =
      some (s ++ rest) :=
    List.dropPrefix?_append_of_beq _ (beq_self_eq_true Renderer.pairSeparator)
  rw [readColumn?, List.append_assoc, List.append_assoc,
    readName?_quotedName hsafe.backtick_not_mem]
  simp only [hdrop, hread.read_append rest hrest, Option.map_some]

/-! ## What arrays hold -/

/-- The scalars that are the elements of a list, in their order. -/
def Value.HoldsScalars (v : Value) (xs : List Scalar) : Prop :=
  ∃ items, v.shape = .items items ∧
    List.Forall₂ (fun (item : Value) (x : Scalar) => item.scalar? = some x) items xs

/-- The columns that are the pairs of a mapping, in their order. -/
def Value.HoldsColumns (v : Value) (columns : List (Text × Scalar)) : Prop :=
  ∃ entries, v.shape = .entries entries ∧ List.Forall₂ IsColumn entries columns

/-- A mapping that is no list has an entry. -/
theorem entries_ne_nil {v : Value} {entries : List (Value × Value)}
    (h : v.shape = .entries entries) : entries ≠ [] := by
  have hassociative : ∀ es, Value.shapeOfEntries es = .entries entries → entries ≠ [] := by
    rintro es hes rfl
    unfold Value.shapeOfEntries at hes
    split at hes
    · rename_i hassoc
      obtain rfl : es = [] := Shape.entries.inj hes
      exact absurd hassoc (by decide)
    · cases hes
  cases v with
  | map es => exact hassociative es h
  | orderedMap es => exact hassociative es h
  | _ => cases h

/-- Where each item is read from what is rendered for it, the items are read from the text of all of
them. -/
theorem readList?_of_forall₂ {α β : Type} {R : α → β → Prop} {f : α → Except Fault Text}
    {sep : Text} {read : Text → Option (β × Text)}
    (hread : ∀ a b t, R a b → f a = .ok t → IsReadAs sep read t b) {as : List α} {bs : List β}
    {ts : List Text} (h : List.Forall₂ R as bs)
    (hts : List.Forall₂ (fun a t => f a = .ok t) as ts) :
    readList? sep read (joined sep ts) = some bs := by
  apply readList?_joined
  induction h generalizing ts with
  | nil =>
    cases hts
    exact .nil
  | @cons a b as bs hab hrest ih =>
    cases hts with
    | @cons _ t _ ts ht hothers => exact .cons (hread a b t hab ht) (ih hothers)

namespace Renderer

variable {r : Renderer} {v : Value} {t : Text}

/-- The text of a list is that of its elements. -/
theorem array_eq_ok_iff_of_items {items : List Value} (hshape : v.shape = .items items) :
    r.array v = .ok t ↔
      ∃ ts, List.Forall₂ (fun item s => r.scalar item = .ok s) items ts ∧
        t = joined listSeparator ts := by
  rw [array, hshape]
  constructor
  · intro h
    obtain ⟨ts, hts, ht⟩ := exists_of_bind_eq_ok h
    exact ⟨ts, mapM_eq_ok_iff.mp hts, (Except.ok.inj ht).symm⟩
  · rintro ⟨ts, hts, rfl⟩
    simp only [mapM_eq_ok_iff.mpr hts]
    rfl

/-- The text of a mapping is that of its pairs. -/
theorem array_eq_ok_iff_of_entries {entries : List (Value × Value)}
    (hshape : v.shape = .entries entries) :
    r.array v = .ok t ↔
      ∃ ts, List.Forall₂ (fun entry s => r.pair entry = .ok s) entries ts ∧
        t = joined listSeparator ts := by
  rw [array, hshape]
  constructor
  · intro h
    obtain ⟨ts, hts, ht⟩ := exists_of_bind_eq_ok h
    exact ⟨ts, mapM_eq_ok_iff.mp hts, (Except.ok.inj ht).symm⟩
  · rintro ⟨ts, hts, rfl⟩
    simp only [mapM_eq_ok_iff.mpr hts]
    rfl

/-- The elements of a list are read from its text. -/
theorem readList?_of_holdsScalars (hescaper : r.escaper = backslashEscaper) {xs : List Scalar}
    (hxs : v.HoldsScalars xs) (h : r.array v = .ok t) :
    readList? listSeparator readScalar? t = some xs := by
  obtain ⟨items, hshape, hitems⟩ := hxs
  obtain ⟨ts, hts, rfl⟩ := (array_eq_ok_iff_of_items hshape).mp h
  refine readList?_of_forall₂ ?_ hitems hts
  intro item x s hx hs
  exact isReadAs_of_scalar hescaper hx hs

/-- The pairs of a mapping are read from its text. -/
theorem readList?_of_holdsColumns (hescaper : r.escaper = backslashEscaper)
    (hchecked : r.options.validateIdentifiers = true) {columns : List (Text × Scalar)}
    (hcolumns : v.HoldsColumns columns) (h : r.array v = .ok t) :
    readList? listSeparator readColumn? t = some columns := by
  obtain ⟨entries, hshape, hentries⟩ := hcolumns
  obtain ⟨ts, hts, rfl⟩ := (array_eq_ok_iff_of_entries hshape).mp h
  refine readList?_of_forall₂ ?_ hentries hts
  intro entry column s hcolumn hs
  exact isReadAs_of_pair hescaper hchecked hcolumn hs

/-! ## How arrays begin -/

/-- No scalar begins with a backtick. -/
theorem head?_of_scalar (h : r.scalar v = .ok t) : backtick ∉ t.head? := by
  intro hhead
  rcases subset_or_literal_of_scalar h with hsubset | ⟨s, -, hliteral⟩
  · exact absurd (hsubset (List.mem_of_mem_head? hhead)) (by decide)
  · obtain ⟨inside, -, ht⟩ := exists_of_bind_eq_ok hliteral
    rw [← Except.ok.inj ht] at hhead
    exact absurd (Option.some.inj hhead) (by decide)

/-- No list begins with a backtick: its first character is that of an element, or of a separator. -/
theorem head?_of_array_items {items : List Value} (hshape : v.shape = .items items)
    (h : r.array v = .ok t) : backtick ∉ t.head? := by
  obtain ⟨ts, hts, rfl⟩ := (array_eq_ok_iff_of_items hshape).mp h
  cases hts with
  | nil => exact fun hhead => by cases hhead
  | @cons item first items others hfirst hothers =>
    have hitem : backtick ∉ first.head? := head?_of_scalar hfirst
    by_cases hlast : others = []
    · rw [hlast]
      exact hitem
    · rw [joined_cons_of_ne_nil _ _ hlast, List.append_assoc, List.head?_append]
      cases first with
      | nil => exact fun hhead => absurd (Option.some.inj hhead) (by decide)
      | cons c rest => exact hitem

/-- A mapping begins with a backtick. -/
theorem head?_of_array_entries (hchecked : r.options.validateIdentifiers = true)
    {entries : List (Value × Value)} (hshape : v.shape = .entries entries)
    (h : r.array v = .ok t) : backtick ∈ t.head? := by
  obtain ⟨ts, hts, rfl⟩ := (array_eq_ok_iff_of_entries hshape).mp h
  cases hts with
  | nil => exact absurd rfl (entries_ne_nil hshape)
  | @cons entry first entries others hfirst hothers =>
    obtain ⟨name, -, hrest⟩ := exists_of_bind_eq_ok hfirst
    obtain ⟨quoted, hquoted, hvalue⟩ := exists_of_bind_eq_ok hrest
    obtain ⟨s, -, hs⟩ := exists_of_bind_eq_ok hvalue
    obtain ⟨-, rfl⟩ := (quoteIdentifier_eq_ok_iff hchecked).mp hquoted
    rw [← Except.ok.inj hs]
    by_cases hlast : others = []
    · rw [hlast]
      rfl
    · rw [joined_cons_of_ne_nil _ _ hlast]
      rfl

end Renderer

/-- With the escaping by backslashes, an array placeholder renders what can be read back. Of a list
of nulls, integers and texts its text gives the elements, so that two such lists with the same text
have the same elements. Where names are checked, the text of a mapping from texts to such scalars
gives its pairs, so that two such mappings with the same text have the same pairs; and no list has
the text of a mapping. -/
theorem array_decodable {r : Renderer} (hescaper : r.escaper = backslashEscaper) {v : Value}
    {t : Text} (h : r.array v = .ok t) :
    (∀ xs, v.HoldsScalars xs →
      readList? Renderer.listSeparator readScalar? t = some xs ∧
      ∀ w ys, w.HoldsScalars ys → r.array w = .ok t → ys = xs) ∧
    (r.options.validateIdentifiers = true → ∀ columns, v.HoldsColumns columns →
      readList? Renderer.listSeparator readColumn? t = some columns ∧
      (∀ w columns', w.HoldsColumns columns' → r.array w = .ok t → columns' = columns) ∧
      ∀ w items, w.shape = .items items → r.array w ≠ .ok t) := by
  constructor
  · intro xs hxs
    have hread := Renderer.readList?_of_holdsScalars hescaper hxs h
    refine ⟨hread, ?_⟩
    intro w ys hys hw
    have hread' := Renderer.readList?_of_holdsScalars hescaper hys hw
    exact Option.some.inj (hread'.symm.trans hread)
  · intro hchecked columns hcolumns
    have hread := Renderer.readList?_of_holdsColumns hescaper hchecked hcolumns h
    refine ⟨hread, ?_, ?_⟩
    · intro w columns' hcolumns' hw
      have hread' := Renderer.readList?_of_holdsColumns hescaper hchecked hcolumns' hw
      exact Option.some.inj (hread'.symm.trans hread)
    · intro w items hshape hw
      obtain ⟨entries, hentries, -⟩ := hcolumns
      -- the one begins with a backtick, the other does not
      exact Renderer.head?_of_array_items hshape hw
        (Renderer.head?_of_array_entries hchecked hentries h)

/-- A list whose texts look like separators and literals, and a mapping whose keys look like pairs.
-/
theorem array_decodable_separators :
    (∃ t, (Renderer.mk .default backslashEscaper).array
        (.list [.text "', '".toList, .null, .int (-12), .text "\\".toList]) = .ok t ∧
      readList? Renderer.listSeparator readScalar? t =
        some [.text "', '".toList, .null, .int (-12), .text "\\".toList]) ∧
    ∃ t, (Renderer.mk .default backslashEscaper).array
        (.map [(.text "a = 1, b".toList, .null), (.text "NULL".toList, .text "' = ".toList)]) =
          .ok t ∧
      readList? Renderer.listSeparator readColumn? t =
        some [("a = 1, b".toList, .null), ("NULL".toList, .text "' = ".toList)] ∧
      (Renderer.mk .default backslashEscaper).array (.list [.text "a".toList]) ≠ .ok t := by
  have hint : (Renderer.mk .default backslashEscaper).scalar (.int (-12)) =
      .ok (integerText (-12)) := by
    rw [Renderer.scalar_int, intText_eq_ok_iff]
    exact ⟨by decide +kernel, rfl⟩
  -- what is rendered need not be written out to know that it is rendered
  have hs : (Renderer.mk .default backslashEscaper).array
      (.list [.text "', '".toList, .null, .int (-12), .text "\\".toList]) = .ok _ :=
    (Renderer.array_eq_ok_iff_of_items rfl).mpr
      ⟨_, .cons rfl (.cons rfl (.cons hint (.cons rfl .nil))), rfl⟩
  have ht : (Renderer.mk .default backslashEscaper).array
      (.map [(.text "a = 1, b".toList, .null), (.text "NULL".toList, .text "' = ".toList)]) =
        .ok _ := (Renderer.array_eq_ok_iff_of_entries rfl).mpr
    ⟨_, .cons rfl (.cons rfl .nil), rfl⟩
  obtain ⟨hscalars, -⟩ := array_decodable rfl hs
  obtain ⟨-, hcolumns⟩ := array_decodable rfl ht
  obtain ⟨hread, -⟩ := hscalars [.text "', '".toList, .null, .int (-12), .text "\\".toList]
    ⟨_, rfl, .cons rfl (.cons rfl (.cons rfl (.cons rfl .nil)))⟩
  obtain ⟨hread', -, hapart⟩ :=
    hcolumns rfl [("a = 1, b".toList, .null), ("NULL".toList, .text "' = ".toList)]
      ⟨_, rfl, .cons ⟨rfl, rfl⟩ (.cons ⟨rfl, rfl⟩ .nil)⟩
  exact ⟨⟨_, hs, hread⟩, _, ht, hread', hapart _ _ rfl⟩

end QueryTemplate
