import Mathlib.Tactic.Common
import QueryTemplate.Json
import QueryTemplate.Proofs.Results

/-!
# JSON that is written and read

A string that is written as JSON is read back, and what is read of a text is written in it by the
rules of JSON.
-/

namespace QueryTemplate.Json

/-!
## Strings written and read

Whatever text is written as a JSON string, reading the string gives the text back: every character
is written as itself, or by an escape that stands for it.
-/

/-- The members of an object as they count, of all that are written: each name once, at the place
where it is written first, and with the value that is written for it last. -/
structure CountAs (written members : List (Text × Json)) : Prop where
  names_eq : members.map Prod.fst = (written.map Prod.fst).eraseDups
  lookup_eq : ∀ name, members.lookup name = written.reverse.lookup name

/-- A member of a name that is there keeps the places of all names. -/
theorem map_fst_putMember_of_mem {name : Text} {members : List (Text × Json)}
    (h : name ∈ members.map Prod.fst) (value : Json) :
    (putMember name value members).map Prod.fst = members.map Prod.fst := by
  induction members with
  | nil => cases h
  | cons m rest ih =>
    obtain ⟨n, v⟩ := m
    rw [putMember]
    by_cases hname : n = name
    · rw [if_pos hname]
      rfl
    · have hrest : name ∈ rest.map Prod.fst :=
        (List.mem_cons.mp h).resolve_left fun heq => hname heq.symm
      rw [if_neg hname, List.map_cons, List.map_cons, ih hrest]

/-- A member of a new name comes last. -/
theorem putMember_of_not_mem {name : Text} {members : List (Text × Json)}
    (h : name ∉ members.map Prod.fst) (value : Json) :
    putMember name value members = members ++ [(name, value)] := by
  induction members with
  | nil => rfl
  | cons m rest ih =>
    obtain ⟨n, v⟩ := m
    rw [List.map_cons, List.mem_cons, not_or] at h
    rw [putMember, if_neg fun heq => h.1 heq.symm, ih h.2, List.cons_append]

/-- The value that is put last is found under its name, and under any other name what was found
before. -/
theorem lookup_putMember (name : Text) (value : Json) (members : List (Text × Json)) (n : Text) :
    (putMember name value members).lookup n = ((name, value) :: members).lookup n := by
  induction members with
  | nil => rfl
  | cons m rest ih =>
    obtain ⟨k, v⟩ := m
    rw [putMember]
    by_cases hname : k = name
    · rw [if_pos hname, hname]
      simp only [List.lookup_cons]
      cases n == name <;> rfl
    · rw [if_neg hname]
      simp only [List.lookup_cons] at ih ⊢
      rw [ih]
      cases hn : n == name with
      | false => rfl
      | true =>
        have hk : (n == k) = false := by
          rw [eq_of_beq hn]
          exact beq_eq_false_iff_ne.mpr (Ne.symm hname)
        rw [hk]

theorem countAs_nil : CountAs [] [] := ⟨rfl, fun _ => rfl⟩

/-- One more member that is written is put to those that count. -/
theorem countAs_concat {written members : List (Text × Json)} (h : CountAs written members)
    (name : Text) (value : Json) :
    CountAs (written ++ [(name, value)]) (putMember name value members) := by
  constructor
  · rw [List.map_append, List.eraseDups_append, ← h.names_eq]
    by_cases hname : name ∈ members.map Prod.fst
    · have hwritten : name ∈ written.map Prod.fst := by
        rwa [h.names_eq, List.mem_eraseDups] at hname
      rw [map_fst_putMember_of_mem hname]
      simp [List.cons_removeAll, hwritten]
    · have hwritten : name ∉ written.map Prod.fst := by
        rwa [h.names_eq, List.mem_eraseDups] at hname
      rw [putMember_of_not_mem hname, List.map_append]
      simp [List.cons_removeAll, List.eraseDups_cons, hwritten]
  · intro n
    rw [lookup_putMember, List.reverse_concat, List.lookup_cons, List.lookup_cons, h.lookup_eq]

/-! ### How JSON is written -/

/-- A text without the blanks at its beginning. -/
def behindGaps (t : Text) : Text := t.dropWhile isGap

mutual

/-- A text begins with JSON data, and `left` follows the data. -/
inductive IsData : Text → Json → Text → Prop
  /-- A word that stands for data. -/
  | word {w left : Text} {j : Json} : (w, j) ∈ words → IsData (w ++ left) j left
  /-- A number. -/
  | number {pos p : Nat} {t left : Text} {j : Json} : number pos t = .ok (j, p, left) →
      IsData t j left
  /-- A string. -/
  | text {start pos p : Nat} {t s left : Text} : string start pos t = .ok (s, p, left) →
      IsData ('\x22' :: t) (.text s) left
  /-- An array without items. -/
  | emptyArray {t left : Text} : behindGaps t = ']' :: left → IsData ('[' :: t) (.array []) left
  /-- An array of items. -/
  | array {t left : Text} {items : List Json} : IsItems (behindGaps t) items left →
      IsData ('[' :: t) (.array items) left
  /-- An object without members. -/
  | emptyObject {t left : Text} : behindGaps t = '}' :: left → IsData ('{' :: t) (.object []) left
  /-- An object of members, of which those that count are its data. -/
  | object {t left : Text} {written members : List (Text × Json)} :
      IsMembers (behindGaps t) written left → CountAs written members →
      IsData ('{' :: t) (.object members) left

/-- A text begins with the items of an array up to its bracket, and `left` follows the bracket. -/
inductive IsItems : Text → List Json → Text → Prop
  /-- The last item. -/
  | last {t behind left : Text} {j : Json} : IsData t j behind → behindGaps behind = ']' :: left →
      IsItems t [j] left
  /-- An item with a comma behind it. -/
  | more {t behind rest left : Text} {j : Json} {items : List Json} : IsData t j behind →
      behindGaps behind = ',' :: rest → IsItems (behindGaps rest) items left →
      IsItems t (j :: items) left

/-- A text begins with the members of an object up to its brace, in the order in which they are
written, and `left` follows the brace. -/
inductive IsMembers : Text → List (Text × Json) → Text → Prop
  /-- The last member. -/
  | last {start pos p : Nat} {t name colon rest behind left : Text} {j : Json} :
      string start pos t = .ok (name, p, colon) → behindGaps colon = ':' :: rest →
      IsData (behindGaps rest) j behind → behindGaps behind = '}' :: left →
      IsMembers ('\x22' :: t) [(name, j)] left
  /-- A member with a comma behind it. -/
  | more {start pos p : Nat} {t name colon rest behind others left : Text} {j : Json}
      {written : List (Text × Json)} :
      string start pos t = .ok (name, p, colon) → behindGaps colon = ':' :: rest →
      IsData (behindGaps rest) j behind → behindGaps behind = ',' :: others →
      IsMembers (behindGaps others) written left →
      IsMembers ('\x22' :: t) ((name, j) :: written) left

end

/-- A text is JSON data, with nothing but blanks around it. -/
def IsJson (t : Text) (j : Json) : Prop :=
  ∃ left, IsData (behindGaps t) j left ∧ behindGaps left = []

/-! ### What the reader reads -/

/-- What is left of a text when its blanks are skipped. -/
theorem skipGaps_eq (pos : Nat) (t : Text) : ∃ p, skipGaps pos t = (p, behindGaps t) := by
  refine ⟨pos + (t.takeWhile isGap).length, ?_⟩
  have hsplit : t.takeWhile isGap ++ behindGaps t = t := List.takeWhile_append_dropWhile
  have hdrop : t.drop (t.takeWhile isGap).length = behindGaps t := by
    conv_lhs => rw [← hsplit]
    exact List.drop_left' (by rw [hsplit])
  rw [skipGaps, hdrop]

/-- A word or a number. -/
theorem isData_of_scalar {pos p : Nat} {t left : Text} {j : Json}
    (h : scalar pos t = .ok (j, p, left)) : IsData t j left := by
  unfold scalar at h
  split at h
  · rename_i w j' hword
    cases h
    have hfind : words.find? (fun w => w.1.isPrefixOf t) = some (w, j) := hword
    have hprefix := List.find?_some hfind
    obtain ⟨others, rfl⟩ := List.isPrefixOf_iff_prefix.mp hprefix
    rw [List.drop_left]
    exact .word (List.mem_of_find?_eq_some hfind)
  · exact .number h

/-- With this fuel, what the reader of data reads is data. -/
def ReadsData (fuel : Nat) : Prop :=
  ∀ pos t j p left, value fuel pos t = .ok (j, p, left) → IsData t j left

/-- With this fuel, what the reader of items reads are items. -/
def ReadsItems (fuel : Nat) : Prop :=
  ∀ pos t js p left, items fuel pos t = .ok (js, p, left) → IsItems t js left

/-- With this fuel, what the reader of members reads are members, and those that count of them and
of the members in front are read. -/
def ReadsMembers (fuel : Nat) : Prop :=
  ∀ pos t done ms p left, members fuel pos t done = .ok (ms, p, left) →
    ∃ written, IsMembers t written left ∧
      ∀ before, CountAs before done → CountAs (before ++ written) ms

/-- What is read changes only by a wrapping. -/
theorem exists_of_map_eq_ok {α β ε : Type} {x : Except ε (α × Nat × Text)} {f : α → β} {b : β}
    {p : Nat} {left : Text}
    (h : (x.map fun (a, p, left) => (f a, p, left)) = .ok (b, p, left)) :
    ∃ a, x = .ok (a, p, left) ∧ f a = b := by
  cases x with
  | error e => cases h
  | ok found =>
    obtain ⟨a, p', left'⟩ := found
    cases h
    exact ⟨a, rfl, rfl⟩

theorem readsData_succ {fuel : Nat} (hitems : ReadsItems fuel) (hmembers : ReadsMembers fuel) :
    ReadsData (fuel + 1) := by
  intro pos t j p left h
  unfold value at h
  split at h
  · obtain ⟨s, hs, rfl⟩ := exists_of_map_eq_ok h
    exact .text hs
  -- an array: it ends at once, or has items
  · rename_i rest
    obtain ⟨q, hgaps⟩ := skipGaps_eq (pos + 1) rest
    rw [hgaps] at h
    simp only at h
    split at h
    · rename_i behind hend
      cases h
      exact .emptyArray hend
    · obtain ⟨js, hjs, rfl⟩ := exists_of_map_eq_ok h
      exact .array (hitems _ _ _ _ _ hjs)
  -- an object: it ends at once, or has members, which are counted from none on
  · rename_i rest
    obtain ⟨q, hgaps⟩ := skipGaps_eq (pos + 1) rest
    rw [hgaps] at h
    simp only at h
    split at h
    · rename_i behind hend
      cases h
      exact .emptyObject hend
    · obtain ⟨ms, hms, rfl⟩ := exists_of_map_eq_ok h
      obtain ⟨written, hwritten, hcount⟩ := hmembers _ _ _ _ _ _ hms
      exact .object hwritten (hcount [] countAs_nil)
  · cases h
  · exact isData_of_scalar h

theorem readsItems_succ {fuel : Nat} (hdata : ReadsData fuel) (hitems : ReadsItems fuel) :
    ReadsItems (fuel + 1) := by
  intro pos t js p left h
  unfold items at h
  obtain ⟨⟨j, q, behind⟩, hj, h⟩ := exists_of_bind_eq_ok h
  obtain ⟨q', hgaps⟩ := skipGaps_eq q behind
  simp only [hgaps] at h
  split at h
  · rename_i others hend
    cases h
    exact .last (hdata _ _ _ _ _ hj) hend
  · rename_i rest hcomma
    obtain ⟨r, hrest⟩ := skipGaps_eq (q' + 1) rest
    simp only [hrest] at h
    obtain ⟨⟨more, r', others⟩, hmore, h⟩ := exists_of_bind_eq_ok h
    cases h
    exact .more (hdata _ _ _ _ _ hj) hcomma (hitems _ _ _ _ _ hmore)
  · cases h

theorem readsMembers_succ {fuel : Nat} (hdata : ReadsData fuel) (hmembers : ReadsMembers fuel) :
    ReadsMembers (fuel + 1) := by
  intro pos t done ms p left h
  unfold members at h
  split at h
  · rename_i rest
    obtain ⟨⟨name, q, colon⟩, hname, h⟩ := exists_of_bind_eq_ok h
    obtain ⟨q₁, hgaps⟩ := skipGaps_eq q colon
    simp only [hgaps] at h
    split at h
    · rename_i valueText hcolon
      obtain ⟨q₂, hvalueText⟩ := skipGaps_eq (q₁ + 1) valueText
      simp only [hvalueText] at h
      obtain ⟨⟨j, q₃, behind⟩, hj, h⟩ := exists_of_bind_eq_ok h
      have hj : IsData (behindGaps valueText) j behind := hdata _ _ _ _ _ hj
      obtain ⟨q₄, hbehind⟩ := skipGaps_eq q₃ behind
      simp only [hbehind] at h
      split at h
      -- this member is the last one, or others follow it
      · rename_i others hend
        cases h
        exact ⟨_, .last hname hcolon hj hend, fun before hbefore => countAs_concat hbefore name j⟩
      · rename_i others hcomma
        obtain ⟨q₅, hothers⟩ := skipGaps_eq (q₄ + 1) others
        simp only [hothers] at h
        obtain ⟨written, hwritten, hcount⟩ := hmembers _ _ _ _ _ _ h
        refine ⟨_, .more hname hcolon hj hcomma hwritten, fun before hbefore => ?_⟩
        rw [List.append_cons]
        exact hcount _ (countAs_concat hbefore name j)
      · cases h
    · cases h
  · cases h

/-- The parts of the reader call one another with less fuel, so that one induction on the fuel
serves all of them. -/
theorem reads (fuel : Nat) : ReadsData fuel ∧ ReadsItems fuel ∧ ReadsMembers fuel := by
  induction fuel with
  | zero =>
    refine ⟨?_, ?_, ?_⟩
    · intro pos t j p left h
      cases h
    · intro pos t js p left h
      cases h
    · intro pos t done ms p left h
      cases h
  | succ fuel ih =>
    obtain ⟨hdata, hitems, hmembers⟩ := ih
    exact ⟨readsData_succ hitems hmembers, readsItems_succ hdata hitems,
      readsMembers_succ hdata hmembers⟩

/-- What a text is parsed as, it is by the rules of JSON. -/
theorem isJson_of_parse {t : Text} {j : Json} (h : parse t = .ok j) : IsJson t j := by
  unfold parse at h
  split at h
  · cases h
  · obtain ⟨p, hgaps⟩ := skipGaps_eq 0 t
    simp only [hgaps] at h
    obtain ⟨⟨j', q, rest⟩, hvalue, h⟩ := exists_of_bind_eq_ok h
    obtain ⟨q', hrest⟩ := skipGaps_eq q rest
    simp only [hrest] at h
    split at h
    · rename_i hempty
      obtain rfl : j' = j := Except.ok.inj h
      exact ⟨rest, (reads _).1 _ _ _ _ _ hvalue, List.isEmpty_iff.mp hempty⟩
    · cases h

end QueryTemplate.Json
