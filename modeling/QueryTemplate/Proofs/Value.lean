import Mathlib.Data.List.Forall2
import QueryTemplate.Proofs.Binary64.Bits
import QueryTemplate.Value

/-!
# Values that are equal, shown and replaced

Which values equal a truth value, which of them cannot be shown, and which are lists by another
name.
-/

namespace QueryTemplate

/-!
## Values that are equal to a truth value

Values of different types may be equal. What is equal to the truth value true is true itself, and
the number one, whether it is an integer or has a point.
-/

/-- The number one of the format. -/
def Binary64.one : Binary64 := ⟨0x3FF0000000000000⟩

/-- One number of the format is the number one. -/
theorem Binary64.toRat?_eq_some_one_iff {x : Binary64} : x.toRat? = some 1 ↔ x = one := by
  have hone : one.toRat? = some 1 := by
    have hreading : one.reading = .finite false (2 ^ 52) (-52) := by decide
    rw [toRat?, hreading]
    simp only [signed, Bool.false_eq_true, if_false]
    norm_num
  constructor
  · intro h
    exact eq_of_toRat?_eq h hone one_ne_zero
  · rintro rfl
    exact hone

namespace Value

/-- A number in steps of a power of two, in smaller steps. -/
theorem mul_zpow_eq_iff (m n : ℤ) {e f : ℤ} (h : e ≤ f) :
    (m : ℚ) * 2 ^ e = n * 2 ^ f ↔ m = n * (1 <<< (f - e).toNat : ℕ) := by
  have hsteps : (2 : ℚ) ^ f = ((1 <<< (f - e).toNat : ℕ) : ℚ) * 2 ^ e := by
    have hsum : f = ((f - e).toNat : ℤ) + e := by omega
    conv_lhs => rw [hsum, zpow_add₀ two_ne_zero, zpow_natCast]
    rw [Nat.one_shiftLeft]
    push_cast
    rfl
  have hpower : (2 : ℚ) ^ e ≠ 0 := zpow_ne_zero e two_ne_zero
  rw [hsteps, ← mul_assoc, mul_left_inj' hpower]
  generalize 1 <<< (f - e).toNat = k
  exact_mod_cast Iff.rfl (a := m = n * k)

/-- Two numbers are equal if they are the same rational number. -/
theorem sameNumber_iff (a b : ℤ × ℤ) :
    sameNumber a b = true ↔ (a.1 : ℚ) * 2 ^ a.2 = b.1 * 2 ^ b.2 := by
  unfold sameNumber
  by_cases h : a.2 ≤ b.2
  · rw [if_pos h, decide_eq_true_eq, mul_zpow_eq_iff _ _ h]
  · rw [if_neg h, decide_eq_true_eq, eq_comm, eq_comm (a := (a.1 : ℚ) * 2 ^ a.2),
      mul_zpow_eq_iff _ _ (not_le.mp h).le]

/-- The exact number that a value counts as where values are compared. -/
def comparand? (v : Value) : Option ℚ := v.number?.map fun p => p.1 * 2 ^ p.2

theorem comparand?_float (x : Binary64) : (float x).comparand? = x.toRat? := by
  simp only [comparand?, number?, Binary64.toRat?]
  cases x.reading with
  | finite negative m e => cases negative <;> simp [signed]
  | _ => rfl

theorem comparand?_int (i : ℤ) : (int i).comparand? = some (i : ℚ) := by
  simp [comparand?, number?]

theorem comparand?_bool (b : Bool) : (bool b).comparand? = some (if b then 1 else 0) := by
  cases b <;> simp [comparand?, number?]

/-- Only a number is compared with a truth value, and the truth value then counts as a number. -/
theorem equals_true (v : Value) :
    v.equals (.bool true) = (v.number?.map fun p => sameNumber p (1, 0)).getD false := by
  cases v with
  | float x =>
    cases hreading : x.reading <;> simp [equals, sameScalar, asText?, number?, infinite?, hreading]
  | _ => rfl

/-- A value is equal to the truth value true if it is the number one: true itself, and the number
one with or without a point. -/
theorem equals_true_iff (v : Value) :
    v.equals (.bool true) = true ↔
      v = .bool true ∨ v = .int 1 ∨ v = .float Binary64.one := by
  have hnumber : v.equals (.bool true) = true ↔ v.comparand? = some 1 := by
    rw [equals_true, comparand?]
    cases v.number? with
    | none => simp
    | some p => simp [sameNumber_iff]
  rw [hnumber]
  cases v with
  | bool b =>
    rw [comparand?_bool]
    cases b <;> simp
  | int i =>
    rw [comparand?_int]
    simp
  | float x =>
    rw [comparand?_float, Binary64.toRat?_eq_some_one_iff]
    simp
  | _ => simp [comparand?, number?]

end Value

/-!
## Values that cannot be shown

A value cannot be shown if it is, or holds at any depth, an integer beyond the digit limit or an
object of another type that cannot be shown, and for no other reason. A key is written as it is
shown, unless it is a text or a member of a choice, which can always be written, or an object of
another type.
-/

namespace Value

/-- The value cannot be shown: it is an integer beyond the digit limit or an object that has nothing
to show, or it holds one. -/
inductive CannotBeShown : Value → Prop
  /-- An integer beyond the limit. -/
  | int {i : Int} : withinDigitLimit i = false → CannotBeShown (.int i)
  /-- An object of another type. -/
  | foreign {o : Foreign} : o.shown? = none → CannotBeShown (.foreign o)
  /-- A member of a choice that stands for such a value. -/
  | constant {choice name : Text} {v : Value} : CannotBeShown v →
      CannotBeShown (.constant choice name v)
  /-- A list with one among its items. -/
  | list {items : List Value} {v : Value} : v ∈ items → CannotBeShown v →
      CannotBeShown (.list items)
  /-- A tuple with one among its items. -/
  | tuple {items : List Value} {v : Value} : v ∈ items → CannotBeShown v →
      CannotBeShown (.tuple items)
  /-- A mapping with one in a key. -/
  | mapKey {entries : List (Value × Value)} {k v : Value} : (k, v) ∈ entries →
      CannotBeShown k → CannotBeShown (.map entries)
  /-- A mapping with one in a value. -/
  | mapValue {entries : List (Value × Value)} {k v : Value} : (k, v) ∈ entries →
      CannotBeShown v → CannotBeShown (.map entries)
  /-- An ordered mapping with one in a key. -/
  | orderedKey {entries : List (Value × Value)} {k v : Value} : (k, v) ∈ entries →
      CannotBeShown k → CannotBeShown (.orderedMap entries)
  /-- An ordered mapping with one in a value. -/
  | orderedValue {entries : List (Value × Value)} {k v : Value} : (k, v) ∈ entries →
      CannotBeShown v → CannotBeShown (.orderedMap entries)

/-- An integer within the limit can be shown, and no other. -/
theorem integerText?_eq_none_iff {i : Int} :
    integerText? i = none ↔ withinDigitLimit i = false := by
  unfold integerText?
  cases withinDigitLimit i <;> simp

/-- Items can be shown if each of them can. -/
theorem displayAll?_eq_none_iff {items : List Value} :
    displayAll? items = none ↔ ∃ v ∈ items, v.display? = none := by
  induction items with
  | nil => simp [displayAll?]
  | cons v rest ih =>
    simp only [displayAll?, List.mem_cons, exists_eq_or_imp, ← ih]
    cases display? v with
    | none => simp
    | some t => cases displayAll? rest <;> simp

/-- Entries can be shown if each key and each value can. -/
theorem displayEntries?_eq_none_iff {entries : List (Value × Value)} :
    displayEntries? entries = none ↔
      ∃ e ∈ entries, e.1.display? = none ∨ e.2.display? = none := by
  induction entries with
  | nil => simp [displayEntries?]
  | cons e rest ih =>
    obtain ⟨k, v⟩ := e
    simp only [displayEntries?, List.mem_cons, exists_eq_or_imp, ← ih]
    cases display? k with
    | none => simp
    | some t =>
      cases display? v with
      | none => simp
      | some u => cases displayEntries? rest <;> simp

/-- The key and the value of an entry are smaller than the entries. -/
theorem sizeOf_lt_of_mem_entries {entries : List (Value × Value)} {k v : Value}
    (h : (k, v) ∈ entries) : sizeOf k < sizeOf entries ∧ sizeOf v < sizeOf entries := by
  have hsize := List.sizeOf_lt_of_mem h
  rw [Prod.mk.sizeOf_spec] at hsize
  omega

/-- What has no text on one line cannot be shown. The recursion is on the value, into the item or
the entry that has none. -/
theorem cannotBeShown_of_display?_eq_none (v : Value) (h : v.display? = none) :
    v.CannotBeShown := by
  cases v with
  | int i =>
    rw [display?, integerText?_eq_none_iff] at h
    exact .int h
  | foreign o => exact .foreign h
  | constant choice name w =>
    rw [display?, Option.map_eq_none_iff] at h
    exact .constant (cannotBeShown_of_display?_eq_none w h)
  | list items =>
    rw [display?, Option.map_eq_none_iff, displayAll?_eq_none_iff] at h
    obtain ⟨x, hx, hnone⟩ := h
    have hsize := List.sizeOf_lt_of_mem hx
    exact .list hx (cannotBeShown_of_display?_eq_none x hnone)
  | tuple items =>
    rw [display?, Option.map_eq_none_iff, displayAll?_eq_none_iff] at h
    obtain ⟨x, hx, hnone⟩ := h
    have hsize := List.sizeOf_lt_of_mem hx
    exact .tuple hx (cannotBeShown_of_display?_eq_none x hnone)
  | map entries =>
    rw [display?, Option.map_eq_none_iff, displayEntries?_eq_none_iff] at h
    obtain ⟨⟨k, w⟩, he, hnone⟩ := h
    have hsize := sizeOf_lt_of_mem_entries he
    rcases hnone with hnone | hnone
    · exact .mapKey he (cannotBeShown_of_display?_eq_none k hnone)
    · exact .mapValue he (cannotBeShown_of_display?_eq_none w hnone)
  | orderedMap entries =>
    rw [display?, Option.map_eq_none_iff, displayEntries?_eq_none_iff] at h
    obtain ⟨⟨k, w⟩, he, hnone⟩ := h
    have hsize := sizeOf_lt_of_mem_entries he
    rcases hnone with hnone | hnone
    · exact .orderedKey he (cannotBeShown_of_display?_eq_none k hnone)
    · exact .orderedValue he (cannotBeShown_of_display?_eq_none w hnone)
  -- every other value can be shown
  | _ => simp [display?] at h
termination_by sizeOf v
decreasing_by
  all_goals
    subst_vars
    simp only [constant.sizeOf_spec, list.sizeOf_spec, tuple.sizeOf_spec, map.sizeOf_spec,
      orderedMap.sizeOf_spec]
    omega

/-- What cannot be shown has no text on one line. -/
theorem CannotBeShown.display?_eq_none {v : Value} (h : v.CannotBeShown) :
    v.display? = none := by
  induction h with
  | int hlimit =>
    rw [display?, integerText?_eq_none_iff]
    exact hlimit
  | foreign hshown => exact hshown
  | constant _ ih => rw [display?, ih, Option.map_none]
  | list hv _ ih =>
    rw [display?, Option.map_eq_none_iff, displayAll?_eq_none_iff]
    exact ⟨_, hv, ih⟩
  | tuple hv _ ih =>
    rw [display?, Option.map_eq_none_iff, displayAll?_eq_none_iff]
    exact ⟨_, hv, ih⟩
  | mapKey he _ ih =>
    rw [display?, Option.map_eq_none_iff, displayEntries?_eq_none_iff]
    exact ⟨_, he, .inl ih⟩
  | mapValue he _ ih =>
    rw [display?, Option.map_eq_none_iff, displayEntries?_eq_none_iff]
    exact ⟨_, he, .inr ih⟩
  | orderedKey he _ ih =>
    rw [display?, Option.map_eq_none_iff, displayEntries?_eq_none_iff]
    exact ⟨_, he, .inl ih⟩
  | orderedValue he _ ih =>
    rw [display?, Option.map_eq_none_iff, displayEntries?_eq_none_iff]
    exact ⟨_, he, .inr ih⟩

theorem display?_eq_none_iff {v : Value} : v.display? = none ↔ v.CannotBeShown :=
  ⟨cannotBeShown_of_display?_eq_none v, CannotBeShown.display?_eq_none⟩

/-- A key of a mapping cannot be written: it is an object of another type that cannot, or another
value that cannot be shown and is no member of a choice. -/
def CannotBeWritten : Value → Prop
  | constant _ _ _ => False
  | foreign o => o.written? = none
  | v => v.CannotBeShown

theorem keyText?_eq_none_iff {key : Value} : key.keyText? = none ↔ key.CannotBeWritten := by
  cases key with
  | constant choice name v => simp [keyText?, CannotBeWritten]
  | foreign o => exact Iff.rfl
  | text t => simp [keyText?, CannotBeWritten, ← display?_eq_none_iff, display?]
  | member m => simp [keyText?, CannotBeWritten, ← display?_eq_none_iff, display?]
  | _ => exact display?_eq_none_iff

end Value

/-!
## Tuples and mappings that are lists

A tuple is the list of its items, and a mapping whose keys are the positions of its entries is the
list of its values. Such a value may be replaced by that list, as an argument and inside of one, and
the argument keeps its shape: what the list holds is itself only replaced in this way.
-/

namespace Value

/-! ### Mappings that are lists -/

/-- The first `n` positions of a list, as keys. -/
def positions (n : Nat) : List Value := (List.range n).map fun i : Nat => .int i

theorem isPositionalFrom_iff {es : List (Value × Value)} {n : Int} :
    isPositionalFrom n es = true ↔
      es.map Prod.fst = (List.range es.length).map fun i : Nat => .int (n + i) := by
  induction es generalizing n with
  | nil => simp [isPositionalFrom]
  | cons e rest ih =>
    obtain ⟨key, value⟩ := e
    -- the positions behind the first one count from the next integer on
    have hnext : ∀ i : Nat, n + ((i + 1 : Nat) : Int) = n + 1 + i := by
      intro i
      omega
    rw [List.length_cons, List.range_succ_eq_map, List.map_cons, List.map_cons, List.map_map,
      List.cons.injEq]
    simp only [Function.comp_def, Nat.succ_eq_add_one, hnext, ← ih]
    cases key with
    | int i => simp [isPositionalFrom]
    | _ => simp [isPositionalFrom]

/-- A mapping is a list exactly if its keys in their order are the positions from zero on. No truth
value and no number with a point is one of them. -/
theorem isAssociative_eq_false_iff {es : List (Value × Value)} :
    isAssociative es = false ↔ es.map Prod.fst = positions es.length := by
  have hzero : ∀ i : Nat, (0 : Int) + i = i := fun i => Int.zero_add i
  rw [isAssociative, Bool.not_eq_false', isPositionalFrom_iff]
  simp only [hzero]
  exact Iff.rfl

/-- What a mapping is depends on its keys alone. -/
theorem isAssociative_congr {es fs : List (Value × Value)}
    (h : es.map Prod.fst = fs.map Prod.fst) : isAssociative es = isAssociative fs := by
  have hlength : es.length = fs.length := by
    have := congrArg List.length h
    rwa [List.length_map, List.length_map] at this
  rw [Bool.eq_iff_iff, ← not_iff_not, Bool.not_eq_true, Bool.not_eq_true,
    isAssociative_eq_false_iff, isAssociative_eq_false_iff, h, hlength]

/-- A mapping with other keys than positions is one of pairs. -/
theorem shape_of_keys_ne_positions {v : Value} {es : List (Value × Value)}
    (hes : v.entries? = some es) (hkeys : es.map Prod.fst ≠ positions es.length) :
    v.shape = .entries es := by
  have hassociative : isAssociative es = true := by
    rw [← Bool.not_eq_false, isAssociative_eq_false_iff]
    exact hkeys
  have hshape : shapeOfEntries es = .entries es := if_pos hassociative
  cases v with
  | map _ | orderedMap _ =>
    cases hes
    exact hshape
  | _ => cases hes

/-- A mapping with positions for keys is the list of its values. -/
theorem shape_of_keys_eq_positions {v : Value} {es : List (Value × Value)}
    (hes : v.entries? = some es) (hkeys : es.map Prod.fst = positions es.length) :
    v.shape = .items (es.map Prod.snd) := by
  have hassociative : ¬isAssociative es = true := by
    rw [Bool.not_eq_true, isAssociative_eq_false_iff]
    exact hkeys
  have hshape : shapeOfEntries es = .items (es.map Prod.snd) := if_neg hassociative
  cases v with
  | map _ | orderedMap _ =>
    cases hes
    exact hshape
  | _ => cases hes

/-! ### A list in the place of a value -/

/-- The same value, or the list that a tuple or a mapping is. -/
inductive ListedAs : Value → Value → Prop
  /-- The value itself. -/
  | same (v : Value) : ListedAs v v
  /-- The list of the items of a tuple. -/
  | tuple (xs : List Value) : ListedAs (.tuple xs) (.list xs)
  /-- The list of the values of a mapping whose keys are the positions of its entries. -/
  | mapping {v : Value} {es : List (Value × Value)} : v.entries? = some es →
      es.map Prod.fst = positions es.length → ListedAs v (.list (es.map Prod.snd))

/-- Two entries with the same key, the value of the first perhaps listed. -/
def ListedEntry (e f : Value × Value) : Prop := e.1 = f.1 ∧ ListedAs e.2 f.2

/-- The same value, or a list or mapping of its kind in which some values are listed. -/
inductive ListedWithin : Value → Value → Prop
  /-- The value itself. -/
  | same (v : Value) : ListedWithin v v
  /-- Values in a list. -/
  | list {xs ys : List Value} : List.Forall₂ ListedAs xs ys → ListedWithin (.list xs) (.list ys)
  /-- Values in a tuple. -/
  | tuple {xs ys : List Value} : List.Forall₂ ListedAs xs ys → ListedWithin (.tuple xs) (.tuple ys)
  /-- Values in a mapping. -/
  | map {es fs : List (Value × Value)} : List.Forall₂ ListedEntry es fs →
      ListedWithin (.map es) (.map fs)
  /-- Values in a mapping whose order is part of its meaning. -/
  | orderedMap {es fs : List (Value × Value)} : List.Forall₂ ListedEntry es fs →
      ListedWithin (.orderedMap es) (.orderedMap fs)

/-- An argument of which some values one level inside are listed, and perhaps the argument
itself. -/
def Relisted (v w : Value) : Prop := ∃ u, ListedWithin v u ∧ ListedAs u w

/-- A value that is listed has the same shape. -/
theorem ListedAs.shape_eq {v w : Value} (h : ListedAs v w) : w.shape = v.shape := by
  cases h with
  | same => rfl
  | tuple xs => rfl
  | mapping hes hkeys =>
    rw [shape_of_keys_eq_positions hes hkeys]
    rfl

/-- A value is the skip marker exactly if its shape is. -/
theorem isSkip_iff_shape {v : Value} : v.isSkip = true ↔ v.shape = .skip := by
  have hmapping : ∀ es, shapeOfEntries es ≠ .skip := by
    intro es
    unfold shapeOfEntries
    split <;> simp
  cases v <;> simp [isSkip, shape, hmapping]

end Value

namespace Shape

/-- The same shape, or one of as many items or entries of which some values are listed. -/
inductive Relisted : Shape → Shape → Prop
  /-- The shape itself. -/
  | same (s : Shape) : Relisted s s
  /-- The items of a list. -/
  | items {xs ys : List Value} : List.Forall₂ Value.ListedAs xs ys →
      Relisted (.items xs) (.items ys)
  /-- The entries of a mapping. -/
  | entries {es fs : List (Value × Value)} : List.Forall₂ Value.ListedEntry es fs →
      Relisted (.entries es) (.entries fs)

theorem Relisted.skip_iff {s s' : Shape} (h : Relisted s s') : s' = .skip ↔ s = .skip := by
  cases h <;> simp

end Shape

namespace Value

/-- A mapping of which values are listed is still a list, or still one of pairs. -/
theorem shapeOfEntries_relisted {es fs : List (Value × Value)}
    (h : List.Forall₂ ListedEntry es fs) :
    (shapeOfEntries es).Relisted (shapeOfEntries fs) := by
  have hkeys : es.map Prod.fst = fs.map Prod.fst := by
    rw [← List.forall₂_eq_eq_eq, List.forall₂_map_left_iff, List.forall₂_map_right_iff]
    exact h.imp fun e f hentry => hentry.1
  have hassociative := isAssociative_congr hkeys
  unfold shapeOfEntries
  rw [← hassociative]
  split
  · exact .entries h
  · refine .items ?_
    rw [List.forall₂_map_left_iff, List.forall₂_map_right_iff]
    exact h.imp fun e f hentry => hentry.2

/-- Whatever of an argument is listed, only values inside its shape are. -/
theorem Relisted.shape {v w : Value} (h : Relisted v w) : v.shape.Relisted w.shape := by
  obtain ⟨u, hwithin, hlisted⟩ := h
  rw [hlisted.shape_eq]
  cases hwithin with
  | same => exact .same _
  | list hitems => exact .items hitems
  | tuple hitems => exact .items hitems
  | map hentries => exact shapeOfEntries_relisted hentries
  | orderedMap hentries => exact shapeOfEntries_relisted hentries

end Value

end QueryTemplate
