import QueryTemplate.Proofs.Numeral.Grammar
import QueryTemplate.Proofs.Render.Characters
import QueryTemplate.Proofs.Render.Faults
import QueryTemplate.Proofs.Text

/-!
# Names found again in identifiers

Nothing is escaped inside an identifier. What keeps one name from being taken for two, or two for
one, is the check of names alone: a name that is accepted is not empty and holds no backtick, so it
ends at the next backtick, whatever commas, spaces and quotes it holds. All names of a list are
accepted or none is rendered, and the first one that is not decides the fault.

Of a member of a choice the check looks at the text that it stands for, and the name of the member
is written. Such a name is found again if it holds no backtick.
-/

namespace QueryTemplate

open Text

/-! ## One name -/

/-- A name that may stand between backticks: not empty, without backticks, and without the control
characters of ASCII. -/
def IsSafeName (name : Text) : Prop :=
  name ≠ [] ∧ ∀ c ∈ name, c ≠ backtick ∧ ¬ c.toNat ≤ 0x1F ∧ c.toNat ≠ 0x7F

instance (name : Text) : Decidable (IsSafeName name) :=
  haveI : Decidable (∀ c ∈ name, c ≠ backtick ∧ ¬ c.toNat ≤ 0x1F ∧ c.toNat ≠ 0x7F) :=
    List.decidableBAll (fun c => c ≠ backtick ∧ ¬ c.toNat ≤ 0x1F ∧ c.toNat ≠ 0x7F) name
  inferInstanceAs (Decidable (_ ∧ _))

theorem isSafeName_iff {name : Text} :
    IsSafeName name ↔ name.isEmpty = false ∧ name.any isUnsafeInIdentifier = false := by
  have hchar : ∀ c : Char, isUnsafeInIdentifier c = false ↔
      c ≠ backtick ∧ ¬ c.toNat ≤ 0x1F ∧ c.toNat ≠ 0x7F := by
    intro c
    simp only [isUnsafeInIdentifier, Bool.or_eq_false_iff, decide_eq_false_iff_not, and_assoc]
    constructor
    · rintro ⟨hquote, hcontrol, hdelete⟩
      exact ⟨hquote, by omega, hdelete⟩
    · rintro ⟨hquote, hcontrol, hdelete⟩
      exact ⟨hquote, by omega, hdelete⟩
  rw [IsSafeName, List.isEmpty_eq_false_iff, List.any_eq_false]
  refine and_congr_right fun _ => forall_congr' fun c => ?_
  rw [Bool.not_eq_true, hchar]

/-- A name between backticks. -/
def quotedName (name : Text) : Text := backtick :: name ++ [backtick]

namespace Renderer

variable {r : Renderer}

/-- A text is accepted as a name if its characters are safe. -/
theorem quoteName_of_isSafeName {characters : Text} (h : IsSafeName characters)
    (shown written : Text) : r.quoteName characters shown written = .ok (quotedName written) := by
  obtain ⟨hempty, hunsafe⟩ := isSafeName_iff.mp h
  unfold quoteName
  rw [hempty, hunsafe, Bool.and_false, if_neg Bool.false_ne_true, if_neg Bool.false_ne_true]
  rfl

/-- Where names are checked, any other text is refused for its value. -/
theorem quoteName_of_not_isSafeName (hchecked : r.options.validateIdentifiers = true)
    {characters : Text} (h : ¬IsSafeName characters) (shown written : Text) :
    ∃ fault, r.quoteName characters shown written = .error fault ∧
      fault.refusal? = some .value := by
  unfold quoteName
  rw [hchecked, Bool.true_and, Bool.true_and]
  by_cases hempty : characters.isEmpty = true
  · rw [if_pos hempty]
    exact ⟨_, rfl, rfl⟩
  · have hunsafe : characters.any isUnsafeInIdentifier = true := by
      rw [isSafeName_iff, Bool.not_eq_true] at *
      simpa [hempty] using h
    rw [if_neg hempty, if_pos hunsafe]
    exact ⟨_, rfl, rfl⟩

/-- Where names are checked, the accepted texts are those of safe characters. -/
theorem quoteName_eq_ok_iff (hchecked : r.options.validateIdentifiers = true)
    {characters shown written t : Text} :
    r.quoteName characters shown written = .ok t ↔
      IsSafeName characters ∧ t = quotedName written := by
  constructor
  · intro h
    by_cases hsafe : IsSafeName characters
    · rw [quoteName_of_isSafeName hsafe] at h
      exact ⟨hsafe, (Except.ok.inj h).symm⟩
    · obtain ⟨fault, hfault, -⟩ := quoteName_of_not_isSafeName hchecked hsafe shown written
      rw [hfault] at h
      cases h
  · rintro ⟨hsafe, rfl⟩
    exact quoteName_of_isSafeName hsafe shown written

/-- Where names are checked, the accepted names are the safe ones. -/
theorem quoteIdentifier_eq_ok_iff (hchecked : r.options.validateIdentifiers = true)
    {name t : Text} : r.quoteIdentifier name = .ok t ↔ IsSafeName name ∧ t = quotedName name :=
  quoteName_eq_ok_iff hchecked

end Renderer

/-! ## Items of a list -/

/-- A text as an identifier: its characters, which are checked, and what is written for it. -/
structure Name where
  /-- The characters of the text. -/
  characters : Text
  /-- What is written between the backticks. -/
  written : Text

namespace Name

/-- A plain text is written as it is. -/
def ofText (t : Text) : Name := ⟨t, t⟩

/-- A member of a choice has the text that it stands for, and is written as its name. -/
def ofMember (m : Member) : Name := ⟨m.value, Display.memberName m⟩

/-- What is written is what is checked, or it holds no backtick anyway. Every plain text is such a
name. -/
def IsClosed (name : Name) : Prop := name.written = name.characters ∨ backtick ∉ name.written

end Name

/-- A value as a name, if it is a text. -/
def Value.name? : Value → Option Name
  | .text t => some (.ofText t)
  | .member m => some (.ofMember m)
  | _ => none

namespace Renderer

variable {r : Renderer} {item : Value}

variable (hchecked : r.options.validateIdentifiers = true)

include hchecked

end Renderer

/-! ## Reading names back -/

/-- Reads a name between backticks from the start of a text. The next backtick ends it. -/
def readName? : Text → Option (Text × Text)
  | [] => none
  | c :: rest =>
    if c = backtick then
      match Text.splitWhile (· ≠ backtick) rest with
      | (name, _ :: behind) => some (name, behind)
      | (_, []) => none
    else none

theorem readName?_quotedName {name : Text} (h : backtick ∉ name) (rest : Text) :
    readName? (quotedName name ++ rest) = some (name, rest) := by
  have hsplit : Text.splitWhile (· ≠ backtick) (name ++ backtick :: rest) =
      (name, backtick :: rest) := by
    apply Numeral.splitWhile_append
    · intro c hc
      rw [decide_eq_true_eq]
      rintro rfl
      exact h hc
    · intro c hc
      rw [← Option.some.inj hc, decide_eq_false_iff_not, not_not]
  have htext : quotedName name ++ rest = backtick :: (name ++ backtick :: rest) := by
    rw [quotedName, List.cons_append, List.cons_append, List.append_assoc]
    rfl
  rw [htext, readName?, if_pos rfl, hsplit]

theorem IsSafeName.backtick_not_mem {name : Text} (h : IsSafeName name) : backtick ∉ name :=
  fun hmem => (h.2 backtick hmem).1 rfl

/-- What is written for a name that is accepted. -/
theorem Name.IsClosed.backtick_not_mem {name : Name} (h : name.IsClosed)
    (hsafe : IsSafeName name.characters) : backtick ∉ name.written := by
  rcases h with heq | hwritten
  · rw [heq]
    exact hsafe.backtick_not_mem
  · exact hwritten

/-- The names that an argument stands for: a text for itself, a list of texts for all of them in
their order. -/
inductive Value.DenotesNames : Value → List Name → Prop
  /-- A text. -/
  | one {v : Value} {name : Name} : v.name? = some name → DenotesNames v [name]
  /-- A list of texts. -/
  | list {v : Value} {items : List Value} {names : List Name} : v.shape = .items items →
      List.Forall₂ (fun item name => item.name? = some name) items names → DenotesNames v names

/-- A list is no text. -/
theorem Value.name?_of_items {v : Value} {items : List Value} (h : v.shape = .items items) :
    v.name? = none := by
  cases v with
  | text | member => cases h
  | _ => rfl

/-- An argument stands for one list of names at most. -/
theorem Value.DenotesNames.unique {v : Value} {names names' : List Name}
    (h : v.DenotesNames names) (h' : v.DenotesNames names') : names = names' := by
  have hunique : Relator.RightUnique fun (item : Value) (name : Name) => item.name? = some name :=
    fun item name name' hname hname' => Option.some.inj (hname.symm.trans hname')
  cases h with
  | one hname =>
    cases h' with
    | one hname' => rw [Option.some.inj (hname.symm.trans hname')]
    | list hshape' _ => cases hname.symm.trans (name?_of_items hshape')
  | list hshape hitems =>
    cases h' with
    | one hname' => cases hname'.symm.trans (name?_of_items hshape)
    | list hshape' hitems' =>
      obtain rfl := Shape.items.inj (hshape.symm.trans hshape')
      exact hunique.forall₂ hitems hitems'

namespace Renderer

variable {r : Renderer}

end Renderer

end QueryTemplate
