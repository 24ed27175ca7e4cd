import Mathlib.Data.List.Basic
import Mathlib.Data.List.Forall2
import Mathlib.Data.List.Induction
import QueryTemplate.Text

/-!
# Items and endings of texts

What is put together from parts can be taken apart again: items at the separators between them, and
blanks from the end.
-/

namespace QueryTemplate

/-!
## Items read back from a text

Items are written one after another with a separator between neighbours. Where each item can be read
from the start of a text, whatever follows behind a separator, the items are found again in the text
of all of them: none is taken for another, and no separator in one for the one behind it.
-/

namespace Text

variable {α : Type}

/-- The items of a text, at least one, with a separator between neighbours. `read` takes the item at
the start of a text off it. -/
def readItems? (sep : Text) (read : Text → Option (α × Text)) (t : Text) : Option (List α) :=
  match read t with
  | none => none
  | some (a, rest) =>
    if rest.isEmpty then some [a]
    else
      match rest.dropPrefix? sep with
      | none => none
      | some others =>
        if _h : others.length < t.length then
          (readItems? sep read others).map (a :: ·)
        else none
termination_by t.length

/-- The items of a text with a separator between neighbours; the text without characters has
none. -/
def readList? (sep : Text) (read : Text → Option (α × Text)) (t : Text) : Option (List α) :=
  if t.isEmpty then some [] else readItems? sep read t

/-- The text ends here, or a separator follows. -/
def AtBoundary (sep rest : Text) : Prop := rest = [] ∨ sep <+: rest

/-- A text from which the item is read, whether the text ends behind it or a separator follows. -/
structure IsReadAs (sep : Text) (read : Text → Option (α × Text)) (t : Text) (a : α) : Prop where
  /-- There is a character. -/
  ne_nil : t ≠ []
  /-- The item is read, and what follows is left. -/
  read_append : ∀ rest, AtBoundary sep rest → read (t ++ rest) = some (a, rest)

variable {sep : Text} {read : Text → Option (α × Text)} {ts : List Text} {as : List α}

theorem joined_cons_of_ne_nil (sep t : Text) (h : ts ≠ []) :
    joined sep (t :: ts) = t ++ sep ++ joined sep ts := by
  obtain ⟨u, rest, rfl⟩ := List.exists_cons_of_ne_nil h
  rfl

/-- Items with characters have a text with characters. -/
theorem joined_ne_nil (h : List.Forall₂ (IsReadAs sep read) ts as) (hne : ts ≠ []) :
    joined sep ts ≠ [] := by
  cases h with
  | nil => exact absurd rfl hne
  | @cons t a ts as hfirst hrest =>
    intro hnil
    apply hfirst.ne_nil
    by_cases hlast : ts = []
    · rw [hlast] at hnil
      exact hnil
    · rw [joined_cons_of_ne_nil sep t hlast, List.append_assoc] at hnil
      exact (List.append_eq_nil_iff.mp hnil).1

/-- Items that are read one by one are read from the text of all of them. The induction is on the
items: the first is read up to its separator, and the others from what is left. -/
theorem readItems?_joined (h : List.Forall₂ (IsReadAs sep read) ts as) (hne : ts ≠ []) :
    readItems? sep read (joined sep ts) = some as := by
  induction h with
  | nil => exact absurd rfl hne
  | @cons t a ts as hfirst hrest ih =>
    -- behind the last item the text ends, behind any other the separator follows
    by_cases hlast : ts = []
    · subst hlast
      obtain rfl : as = [] := List.forall₂_nil_left_iff.mp hrest
      have hread := hfirst.read_append [] (.inl rfl)
      rw [List.append_nil] at hread
      show readItems? sep read t = _
      rw [readItems?, hread]
      rfl
    · have hothers : joined sep ts ≠ [] := joined_ne_nil hrest hlast
      have hread : read (t ++ (sep ++ joined sep ts)) = some (a, sep ++ joined sep ts) :=
        hfirst.read_append _ (.inr (List.prefix_append sep _))
      have hmore : ¬ (sep ++ joined sep ts).isEmpty = true := by
        rw [List.isEmpty_iff, List.append_eq_nil_iff]
        exact fun hboth => hothers hboth.2
      have hdrop : (sep ++ joined sep ts).dropPrefix? sep = some (joined sep ts) :=
        List.dropPrefix?_append_of_beq _ (beq_self_eq_true sep)
      have hlength : (joined sep ts).length < (t ++ (sep ++ joined sep ts)).length := by
        have hpos := List.length_pos_of_ne_nil hfirst.ne_nil
        rw [List.length_append, List.length_append]
        omega
      rw [joined_cons_of_ne_nil sep t hlast, List.append_assoc, readItems?, hread]
      simp only [if_neg hmore, hdrop, dif_pos hlength, ih hlast, Option.map_some]

/-- The items of a list are read from its text. -/
theorem readList?_joined (h : List.Forall₂ (IsReadAs sep read) ts as) :
    readList? sep read (joined sep ts) = some as := by
  by_cases hnil : ts = []
  · subst hnil
    obtain rfl : as = [] := List.forall₂_nil_left_iff.mp h
    rfl
  · have hsome : ¬ (joined sep ts).isEmpty = true := by
      rw [List.isEmpty_iff]
      exact joined_ne_nil h hnil
    rw [readList?, if_neg hsome]
    exact readItems?_joined h hnil

end Text

/-!
## Blanks cut off the end of a text

A text is what is left of it when its ending is cut off, and the ending. Of two texts put together
the ending of the second is cut off, and that of the first only if nothing is left of the second.

Of a text that is put together from pieces whole pieces are cut off, if all of them are spaces or
end in another character than a blank.
-/

namespace Text

variable {p : Char → Bool}

/-- A character that is dropped at the end. -/
theorem dropEndWhile_concat_of_pos {c : Char} (h : p c = true) (t : Text) :
    dropEndWhile p (t ++ [c]) = dropEndWhile p t := by
  induction t with
  | nil => simp [dropEndWhile, h]
  | cons d rest ih => rw [List.cons_append, dropEndWhile, ih, dropEndWhile]

/-- Behind a character that is not dropped nothing is. -/
theorem dropEndWhile_concat_of_neg {c : Char} (h : p c ≠ true) (t : Text) :
    dropEndWhile p (t ++ [c]) = t ++ [c] := by
  induction t with
  | nil => simp [dropEndWhile, h]
  | cons d rest ih =>
    rw [List.cons_append, dropEndWhile, ih]
    cases rest <;> rfl

/-- What is left of a text does not end in a character that is dropped. -/
theorem dropEndWhile_ne_concat {c : Char} (h : p c = true) (s t : Text) :
    dropEndWhile p t ≠ s ++ [c] := by
  induction t using List.reverseRec with
  | nil => simp [dropEndWhile]
  | append_singleton t d ih =>
    by_cases hd : p d = true
    · rw [dropEndWhile_concat_of_pos hd]
      exact ih
    · rw [dropEndWhile_concat_of_neg hd]
      intro heq
      have hlast := (List.append_inj' heq rfl).2
      rw [List.singleton_inj.mp hlast] at hd
      exact hd h

/-- Of two texts put together the ending of the second is dropped, and that of the first only if
nothing is left of the second. -/
theorem dropEndWhile_append (p : Char → Bool) (s t : Text) :
    dropEndWhile p (s ++ t) =
      if dropEndWhile p t = [] then dropEndWhile p s else s ++ dropEndWhile p t := by
  induction t using List.reverseRec with
  | nil => rw [List.append_nil, dropEndWhile, if_pos rfl]
  | append_singleton t c ih =>
    rw [← List.append_assoc]
    by_cases hc : p c = true
    · rw [dropEndWhile_concat_of_pos hc, dropEndWhile_concat_of_pos hc, ih]
    · rw [dropEndWhile_concat_of_neg hc, dropEndWhile_concat_of_neg hc, if_neg (by simp),
        List.append_assoc]

/-- A text is what is left of it, and an ending that is dropped. -/
theorem exists_dropEndWhile_append (p : Char → Bool) (t : Text) :
    ∃ w, (∀ c ∈ w, p c = true) ∧ t = dropEndWhile p t ++ w := by
  induction t using List.reverseRec with
  | nil => exact ⟨[], by simp, rfl⟩
  | append_singleton t c ih =>
    by_cases hc : p c = true
    · obtain ⟨w, hw, ht⟩ := ih
      refine ⟨w ++ [c], ?_, ?_⟩
      · intro d hd
        rcases List.mem_append.mp hd with hd | hd
        · exact hw d hd
        · rw [List.mem_singleton.mp hd]
          exact hc
      · rw [dropEndWhile_concat_of_pos hc, ← List.append_assoc, ← ht]
    · refine ⟨[], by simp, ?_⟩
      rw [dropEndWhile_concat_of_neg hc, List.append_nil]

/-- Of two texts put together the blanks at the end of the second are cut off, and those at the end
of the first only if nothing is left of the second. -/
theorem trimEnd_append (s t : Text) :
    (s ++ t).trimEnd = if t.trimEnd = [] then s.trimEnd else s ++ t.trimEnd :=
  dropEndWhile_append isBlank s t

/-! ### Solid endings -/

/-- The text ends in a character that is no blank. -/
def EndsSolid (t : Text) : Prop := ∃ s c, t = s ++ [c] ∧ isBlank c = false

variable {s t : Text}

theorem EndsSolid.concat {c : Char} (hc : isBlank c = false) (t : Text) : EndsSolid (t ++ [c]) :=
  ⟨t, c, rfl, hc⟩

/-- A text without blanks. -/
theorem eq_nil_or_endsSolid (h : ∀ c ∈ t, isBlank c = false) : t = [] ∨ EndsSolid t := by
  rcases List.eq_nil_or_concat' t with rfl | ⟨s, c, rfl⟩
  · exact .inl rfl
  · exact .inr (.concat (h c (List.mem_append_right s List.mem_cons_self)) s)

/-- Such a text is not empty. -/
theorem EndsSolid.ne_nil (h : EndsSolid t) : t ≠ [] := by
  obtain ⟨s, c, rfl, -⟩ := h
  exact List.append_ne_nil_of_right_ne_nil s (List.cons_ne_nil c [])

/-- What stands in front does not matter. -/
theorem EndsSolid.append_left (h : EndsSolid t) (s : Text) : EndsSolid (s ++ t) := by
  obtain ⟨before, c, rfl, hc⟩ := h
  rw [← List.append_assoc]
  exact .concat hc _

/-- Nothing is cut off behind such a character. -/
theorem EndsSolid.trimEnd_eq (h : EndsSolid t) : t.trimEnd = t := by
  obtain ⟨before, c, rfl, hc⟩ := h
  exact dropEndWhile_concat_of_neg (Bool.eq_false_iff.mp hc) before

/-- Of pieces that are empty, end solid or are a single space, one after another, whole pieces are
cut off: spaces, and empty ones among them. -/
theorem exists_trimEnd_flatMap_eq {α : Type} {f : α → Text} {p : α → Bool}
    (hp : ∀ x, p x = true → f x = [' ']) {xs : List α}
    (h : ∀ x ∈ xs, f x = [] ∨ EndsSolid (f x) ∨ p x = true) :
    ∃ kept cut, xs = kept ++ cut ∧ trimEnd (xs.flatMap f) = kept.flatMap f ∧
      xs.flatMap f = kept.flatMap f ++ filled (cut.countP p) ' ' ∧
      ∀ x ∈ cut, f x = [] ∨ p x = true := by
  induction xs using List.reverseRec with
  | nil => exact ⟨[], [], rfl, rfl, rfl, List.forall_mem_nil _⟩
  | append_singleton xs x ih =>
    obtain ⟨kept, cut, hxs, htrim, hflat, hcut⟩ :=
      ih fun y hy => h y (List.mem_append_left [x] hy)
    have hlast : (xs ++ [x]).flatMap f = xs.flatMap f ++ f x := by
      rw [List.flatMap_append, List.flatMap_singleton]
    have hmore (hx : f x = [] ∨ p x = true) : ∀ y ∈ cut ++ [x], f y = [] ∨ p y = true :=
      List.forall_mem_append.mpr ⟨hcut, List.forall_mem_singleton.mpr hx⟩
    -- the last piece decides: a solid end keeps all pieces, any other is cut off with the rest
    by_cases hspace : p x = true
    · have hx := hp x hspace
      refine ⟨kept, cut ++ [x], ?_, ?_, ?_, hmore (.inr hspace)⟩
      · rw [hxs, List.append_assoc]
      · rw [hlast, hx, ← htrim]
        exact dropEndWhile_concat_of_pos (by decide) _
      · rw [hlast, hx, hflat, List.append_assoc, List.countP_append, List.countP_singleton,
          if_pos hspace]
        exact congrArg _ List.replicate_succ'.symm
    rcases h x (List.mem_append_right xs List.mem_cons_self) with hx | hx | hx
    · refine ⟨kept, cut ++ [x], ?_, ?_, ?_, hmore (.inl hx)⟩
      · rw [hxs, List.append_assoc]
      · rw [hlast, hx, List.append_nil, htrim]
      · rw [hlast, hx, List.append_nil, hflat, List.countP_append, List.countP_singleton,
          if_neg hspace, Nat.add_zero]
    · refine ⟨xs ++ [x], [], ?_, ?_, ?_, List.forall_mem_nil _⟩
      · rw [List.append_nil]
      · rw [hlast]
        exact (hx.append_left _).trimEnd_eq
      · exact (List.append_nil _).symm
    · exact absurd hx hspace

end Text

end QueryTemplate
