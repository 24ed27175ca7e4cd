import Mathlib.Data.List.Basic
import Mathlib.Data.List.Forall2
import Mathlib.Tactic.Common

/-!
# Computations that may fail

A computation in several parts succeeds with the results of all of them, and fails like the first of
them that fails. The same holds of a computation for each item of a list.
-/

namespace QueryTemplate

variable {ε α β : Type}

/-! ## A result that is changed -/

theorem map_eq_error_iff {f : α → β} {x : Except ε α} {error : ε} :
    x.map f = .error error ↔ x = .error error := by
  cases x <;> simp [Except.map]

/-! ## Two parts -/

/-- What a computation in two parts succeeds with, its second part does with the result of the
first. -/
theorem exists_of_bind_eq_ok {x : Except ε α} {f : α → Except ε β} {b : β}
    (h : x >>= f = .ok b) : ∃ a, x = .ok a ∧ f a = .ok b := by
  cases x with
  | error fault => cases h
  | ok a => exact ⟨a, rfl, h⟩

/-- Of two steps that fail, the first has failed or the second. -/
theorem error_of_bind_eq_error {x : Except ε α} {f : α → Except ε β} {error : ε}
    (h : x >>= f = .error error) : x = .error error ∨ ∃ a, x = .ok a ∧ f a = .error error := by
  cases x with
  | error error' =>
    cases h
    exact .inl rfl
  | ok a => exact .inr ⟨a, rfl, h⟩

/-! ## The items of a list -/

section MapM

variable {f : α → Except ε β} {fault : ε}

/-- A computation for each item of a list succeeds if it does for every item, with the results one
by one. -/
theorem mapM_eq_ok_iff {items : List α} {bs : List β} :
    items.mapM f = .ok bs ↔ List.Forall₂ (fun x b => f x = .ok b) items bs := by
  induction items generalizing bs with
  | nil =>
    rw [List.mapM_nil, List.forall₂_nil_left_iff]
    constructor
    · intro h
      exact (Except.ok.inj h).symm
    · rintro rfl
      rfl
  | cons x rest ih =>
    rw [List.forall₂_cons_left_iff, List.mapM_cons]
    constructor
    · intro h
      obtain ⟨b, hb, h⟩ := exists_of_bind_eq_ok h
      obtain ⟨others, hothers, h⟩ := exists_of_bind_eq_ok h
      exact ⟨b, others, hb, ih.mp hothers, (Except.ok.inj h).symm⟩
    · rintro ⟨b, others, hb, hothers, rfl⟩
      rw [hb, ih.mpr hothers]
      rfl

/-- A computation for each item of a list succeeds if it does for every item. -/
theorem exists_mapM_eq_ok_iff {items : List α} :
    (∃ bs, items.mapM f = .ok bs) ↔ ∀ x ∈ items, ∃ b, f x = .ok b := by
  simp only [mapM_eq_ok_iff]
  induction items with
  | nil => simp
  | cons x rest ih =>
    rw [List.forall_mem_cons, ← ih]
    simp only [List.forall₂_cons_left_iff]
    constructor
    · rintro ⟨_, b, others, hb, hothers, rfl⟩
      exact ⟨⟨b, hb⟩, others, hothers⟩
    · rintro ⟨⟨b, hb⟩, others, hothers⟩
      exact ⟨_, b, others, hb, hothers, rfl⟩

/-- A list of which the first item fails, fails with it. -/
theorem mapM_cons_of_error {x : α} (hx : f x = .error fault) (rest : List α) :
    (x :: rest).mapM f = .error fault := by
  rw [List.mapM_cons, hx]
  rfl

/-- A list of which the first item does not fail, fails as the others do. -/
theorem mapM_cons_eq_error_iff {x : α} {b : β} (hx : f x = .ok b) {rest : List α} :
    (x :: rest).mapM f = .error fault ↔ rest.mapM f = .error fault := by
  rw [List.mapM_cons, hx]
  cases rest.mapM f with
  | error found => exact Iff.rfl
  | ok bs =>
    constructor
    · intro h
      cases h
    · intro h
      cases h

/-- A computation for each item of a list fails with the fault of the first item that has one. -/
theorem mapM_eq_error_iff {items : List α} :
    items.mapM f = .error fault ↔
      ∃ before x after, items = before ++ x :: after ∧ (∀ y ∈ before, ∃ b, f y = .ok b) ∧
        f x = .error fault := by
  constructor
  · intro h
    induction items with
    | nil => cases h
    | cons item rest ih =>
      cases hitem : f item with
      | error found =>
        have hfound : found = fault :=
          Except.error.inj ((mapM_cons_of_error hitem rest).symm.trans h)
        rw [hfound] at hitem
        exact ⟨[], item, rest, rfl, List.forall_mem_nil _, hitem⟩
      | ok b =>
        -- the first item succeeds, and the fault is that of the others
        obtain ⟨before, x, after, rfl, hbefore, hx⟩ := ih ((mapM_cons_eq_error_iff hitem).mp h)
        exact ⟨item :: before, x, after, rfl, List.forall_mem_cons.mpr ⟨⟨b, hitem⟩, hbefore⟩, hx⟩
  · rintro ⟨before, x, after, rfl, hbefore, hx⟩
    induction before with
    | nil => exact mapM_cons_of_error hx after
    | cons y others ih =>
      obtain ⟨⟨b, hy⟩, hothers⟩ := List.forall_mem_cons.mp hbefore
      exact (mapM_cons_eq_error_iff hy).mpr (ih hothers)

end MapM

end QueryTemplate
