import QueryTemplate.Proofs.Text
import QueryTemplate.Render

/-!
# What stands outside of quotes

A reader of a query tells three places apart: outside of quotes, in a literal between single quotes,
where a backslash takes the meaning of the next character away, and in an identifier between
backticks. The skeleton of a text is what is read outside, with the quotes but without what stands
between them. Two texts of the same skeleton, read to their ends, differ in quoted contents only.
-/

namespace QueryTemplate

/-- Where a reader of a query stands. -/
inductive ScanMode where
  /-- Outside of quotes. -/
  | outside
  /-- In a literal, and whether a backslash has taken the meaning of the next character away. -/
  | literal (consumed : Bool)
  /-- In an identifier. -/
  | identifier
  deriving DecidableEq

namespace ScanMode

/-- Where a reader stands behind a character. -/
def next : ScanMode → Char → ScanMode
  | outside, c =>
    if c = singleQuote then literal false else if c = backtick then identifier else outside
  | literal true, _ => literal false
  | literal false, c =>
    if c = '\\' then literal true else if c = singleQuote then outside else literal false
  | identifier, c => if c = backtick then outside else identifier

/-- Whether a character belongs to the skeleton: it stands outside, or is the quote behind which the
reader is outside again. -/
def sees (m : ScanMode) (c : Char) : Bool := m = outside || m.next c = outside

/-- Where a reader stands behind a text. -/
def scanFrom (m : ScanMode) (t : Text) : ScanMode := t.foldl next m

/-- What of a text belongs to the skeleton. -/
def skeletonFrom : ScanMode → Text → Text
  | _, [] => []
  | m, c :: rest =>
    if m.sees c then c :: skeletonFrom (m.next c) rest else skeletonFrom (m.next c) rest

/-- A reader goes on behind the first text as it does at the beginning of the second. -/
theorem scanFrom_append (m : ScanMode) (s t : Text) :
    m.scanFrom (s ++ t) = (m.scanFrom s).scanFrom t := by
  rw [scanFrom, List.foldl_append]
  rfl

/-- Two texts one after another. -/
theorem skeletonFrom_append (m : ScanMode) (s t : Text) :
    m.skeletonFrom (s ++ t) = m.skeletonFrom s ++ (m.scanFrom s).skeletonFrom t := by
  induction s generalizing m with
  | nil => rfl
  | cons c rest ih =>
    rw [List.cons_append, skeletonFrom, skeletonFrom, ih]
    by_cases hsees : m.sees c = true
    · rw [if_pos hsees, if_pos hsees, List.cons_append]
      rfl
    · rw [if_neg hsees, if_neg hsees]
      rfl

end ScanMode

/-- Where a reader of a text stands at its end. -/
def scan (t : Text) : ScanMode := ScanMode.outside.scanFrom t

/-- What is read outside of quotes, and the quotes. -/
def skeleton (t : Text) : Text := ScanMode.outside.skeletonFrom t

/-- Behind a text of which every quote is closed, a reader begins anew. -/
theorem scan_append {s : Text} (h : scan s = .outside) (t : Text) : scan (s ++ t) = scan t := by
  rw [scan] at h
  rw [scan, ScanMode.scanFrom_append, h]
  rfl

/-- The skeleton of a text is read on behind a text of which every quote is closed. -/
theorem skeleton_append {s : Text} (h : scan s = .outside) (t : Text) :
    skeleton (s ++ t) = skeleton s ++ skeleton t := by
  rw [scan] at h
  rw [skeleton, ScanMode.skeletonFrom_append, h]
  rfl

namespace Text

/-- Neither a single quote nor a backtick occurs. -/
def IsPlain (t : Text) : Prop := ∀ c ∈ t, c ≠ singleQuote ∧ c ≠ backtick

instance (t : Text) : Decidable t.IsPlain :=
  List.decidableBAll (fun c => c ≠ singleQuote ∧ c ≠ backtick) t

variable {s t : Text}

theorem IsPlain.nil : IsPlain [] := by
  intro c hc
  cases hc

/-- A text of characters of a plain text is plain. -/
theorem IsPlain.subset (h : t.IsPlain) (hsub : s ⊆ t) : s.IsPlain :=
  fun c hc => h c (hsub hc)

/-- A reader stays outside throughout a plain text. -/
theorem IsPlain.scan (h : t.IsPlain) : scan t = .outside := by
  induction t with
  | nil => rfl
  | cons c rest ih =>
    obtain ⟨hquote, hbacktick⟩ := h c List.mem_cons_self
    have hnext : ScanMode.outside.next c = .outside := by
      rw [ScanMode.next, if_neg hquote, if_neg hbacktick]
    rw [QueryTemplate.scan, ScanMode.scanFrom, List.foldl_cons, hnext]
    exact ih (h.subset (List.subset_cons_self c rest))

end Text

/-- Two texts that differ in quoted contents only: in both every quote is closed, and what is read
outside is the same. -/
structure SameSkeleton (s t : Text) : Prop where
  left : scan s = .outside
  right : scan t = .outside
  eq : skeleton s = skeleton t

namespace SameSkeleton

variable {s t s' t' : Text}

/-- A text of which every quote is closed does not differ from itself. -/
theorem refl (h : scan t = .outside) : SameSkeleton t t := ⟨h, h, rfl⟩

/-- A plain text does not differ from itself. -/
theorem of_isPlain (h : t.IsPlain) : SameSkeleton t t := refl h.scan

/-- Texts put together differ where their parts do. -/
theorem append (h : SameSkeleton s t) (h' : SameSkeleton s' t') :
    SameSkeleton (s ++ s') (t ++ t') := by
  refine ⟨(scan_append h.left s').trans h'.left, (scan_append h.right t').trans h'.right, ?_⟩
  rw [skeleton_append h.left, skeleton_append h.right, h.eq, h'.eq]

/-- A plain separator between texts is seen in both. -/
theorem joined {ss ts : List Text} {sep : Text} (hsep : sep.IsPlain)
    (h : List.Forall₂ SameSkeleton ss ts) :
    SameSkeleton (Text.joined sep ss) (Text.joined sep ts) := by
  induction h with
  | nil => exact of_isPlain Text.IsPlain.nil
  | @cons s t ss ts hfirst hrest ih =>
    cases hrest with
    | nil => exact hfirst
    | cons hsecond hrest => exact (hfirst.append (of_isPlain hsep)).append ih

/-- Texts of many parts. -/
theorem flatMap {α β : Type} {R : α → β → Prop} {f : α → Text} {g : β → Text} {xs : List α}
    {ys : List β} (hfg : ∀ x y, R x y → SameSkeleton (f x) (g y)) (h : List.Forall₂ R xs ys) :
    SameSkeleton (xs.flatMap f) (ys.flatMap g) := by
  induction h with
  | nil => exact of_isPlain Text.IsPlain.nil
  | cons hfirst hrest ih =>
    rw [List.flatMap_cons, List.flatMap_cons]
    exact (hfg _ _ hfirst).append ih

end SameSkeleton

namespace ScanMode

/-- What leads outside is seen. -/
theorem skeletonFrom_concat {m : ScanMode} {t : Text} {c : Char}
    (h : m.scanFrom (t ++ [c]) = .outside) :
    m.skeletonFrom (t ++ [c]) = m.skeletonFrom t ++ [c] := by
  rw [scanFrom_append] at h
  have hsees : (m.scanFrom t).sees c = true := by
    rw [sees, Bool.or_eq_true]
    exact .inr (decide_eq_true h)
  rw [skeletonFrom_append, skeletonFrom, if_pos hsees]
  rfl

/-- A blank is no quote, so it leads outside only from outside. -/
theorem eq_outside_of_next {m : ScanMode} {c : Char} (hblank : isBlank c = true)
    (h : m.next c = .outside) : m = .outside := by
  have hquote : c ≠ singleQuote := by
    rintro rfl
    exact absurd hblank (by decide)
  have hbacktick : c ≠ backtick := by
    rintro rfl
    exact absurd hblank (by decide)
  cases m with
  | outside => rfl
  | literal consumed =>
    cases consumed with
    | true => cases h
    | false =>
      rw [next, if_neg hquote] at h
      split at h <;> cases h
  | identifier =>
    rw [next, if_neg hbacktick] at h
    cases h

end ScanMode

/-- Of a text of which every quote is closed, the blanks at the end are those of its skeleton. -/
theorem skeleton_trimEnd {t : Text} (h : scan t = .outside) :
    scan t.trimEnd = .outside ∧ skeleton t.trimEnd = (skeleton t).trimEnd := by
  induction t using List.reverseRec with
  | nil => exact ⟨rfl, rfl⟩
  | append_singleton t c ih =>
    have hskeleton : skeleton (t ++ [c]) = skeleton t ++ [c] := ScanMode.skeletonFrom_concat h
    by_cases hblank : isBlank c = true
    -- a blank is cut off, and as it is no quote it stands outside
    · have hscan : scan t = .outside := by
        rw [scan, ScanMode.scanFrom_append] at h
        exact ScanMode.eq_outside_of_next hblank h
      rw [hskeleton, Text.trimEnd, Text.dropEndWhile_concat_of_pos hblank, Text.trimEnd,
        Text.dropEndWhile_concat_of_pos hblank]
      exact ih hscan
    -- nothing is cut off, and the last character is seen
    · rw [hskeleton, Text.trimEnd, Text.dropEndWhile_concat_of_neg hblank, Text.trimEnd,
        Text.dropEndWhile_concat_of_neg hblank]
      exact ⟨h, hskeleton⟩

/-- Texts of the same skeleton have the same one without the blanks at their ends. -/
theorem SameSkeleton.trimEnd {s t : Text} (h : SameSkeleton s t) :
    SameSkeleton s.trimEnd t.trimEnd := by
  obtain ⟨hleft, hs⟩ := skeleton_trimEnd h.left
  obtain ⟨hright, ht⟩ := skeleton_trimEnd h.right
  exact ⟨hleft, hright, by rw [hs, ht, h.eq]⟩

namespace ScanMode

/-- A text of which nothing is seen, and behind which a reader stands where it stood before. -/
def Hides (m : ScanMode) (t : Text) : Prop := m.scanFrom t = m ∧ m.skeletonFrom t = []

variable {m : ScanMode}

theorem Hides.append {s t : Text} (hs : m.Hides s) (ht : m.Hides t) : m.Hides (s ++ t) := by
  refine ⟨?_, ?_⟩
  · rw [scanFrom_append, hs.1, ht.1]
  · rw [skeletonFrom_append, hs.1, hs.2, ht.2, List.append_nil]

/-- Nothing is seen of many parts where nothing is seen of any. -/
theorem Hides.flatMap {α : Type} {f : α → Text} {xs : List α} (h : ∀ x ∈ xs, m.Hides (f x)) :
    m.Hides (xs.flatMap f) := by
  induction xs with
  | nil => exact ⟨rfl, rfl⟩
  | cons x xs ih =>
    rw [List.flatMap_cons]
    exact (h x List.mem_cons_self).append (ih fun y hy => h y (List.mem_cons_of_mem x hy))

/-- An escaped character does not end a literal: its backslash takes the meaning of a quote away,
and the meaning of a backslash as well. -/
theorem hides_escapeChar (c : Char) : (literal false).Hides (escapeChar c) := by
  unfold escapeChar
  by_cases hspecial : (c = '\\' || c = singleQuote) = true
  · rw [if_pos hspecial]
    -- behind the backslash any character leads back into the literal
    exact ⟨rfl, rfl⟩
  · rw [if_neg hspecial]
    rw [Bool.or_eq_true, decide_eq_true_eq, decide_eq_true_eq, not_or] at hspecial
    have hnext : (literal false).next c = literal false := by
      rw [next, if_neg hspecial.1, if_neg hspecial.2]
    have hsees : (literal false).sees c = false := by
      rw [sees, hnext]
      rfl
    refine ⟨hnext, ?_⟩
    rw [skeletonFrom, hsees]
    rfl

/-- An escaped text does not end a literal. -/
theorem hides_escapeText (t : Text) : (literal false).Hides (escapeText t) :=
  Hides.flatMap fun c _ => hides_escapeChar c

/-- A name without a backtick does not end an identifier. -/
theorem hides_name {name : Text} (h : backtick ∉ name) : identifier.Hides name := by
  rw [← List.flatMap_singleton' name]
  refine Hides.flatMap fun c hc => ?_
  have hne : c ≠ backtick := by
    rintro rfl
    exact h hc
  have hnext : identifier.next c = identifier := by
    rw [next, if_neg hne]
  have hsees : identifier.sees c = false := by
    rw [sees, hnext]
    rfl
  refine ⟨hnext, ?_⟩
  rw [skeletonFrom, hsees]
  rfl

end ScanMode

/-- Of a text between quotes the quotes are seen. -/
theorem scan_quoted {q : Char} {m : ScanMode} {inside : Text}
    (hopen : ScanMode.outside.next q = m) (hinside : m.Hides inside)
    (hclose : m.next q = .outside) :
    scan (q :: inside ++ [q]) = .outside ∧ skeleton (q :: inside ++ [q]) = [q, q] := by
  have hend : m.scanFrom (inside ++ [q]) = .outside := by
    rw [ScanMode.scanFrom_append, hinside.1]
    exact hclose
  refine ⟨?_, ?_⟩
  · show (ScanMode.outside.next q).scanFrom (inside ++ [q]) = .outside
    rw [hopen, hend]
  · have hsees : ScanMode.outside.sees q = true := rfl
    rw [List.cons_append, skeleton, ScanMode.skeletonFrom, if_pos hsees, hopen,
      ScanMode.skeletonFrom_concat hend, hinside.2]
    rfl

/-- Two texts between quotes, neither of which ends before its last quote, have the same skeleton.
-/
theorem SameSkeleton.quoted {q : Char} {m : ScanMode} {s t : Text}
    (hopen : ScanMode.outside.next q = m) (hclose : m.next q = .outside) (hs : m.Hides s)
    (ht : m.Hides t) : SameSkeleton (q :: s ++ [q]) (q :: t ++ [q]) := by
  obtain ⟨hleft, hseen⟩ := scan_quoted hopen hs hclose
  obtain ⟨hright, hseen'⟩ := scan_quoted hopen ht hclose
  exact ⟨hleft, hright, hseen.trans hseen'.symm⟩

end QueryTemplate
