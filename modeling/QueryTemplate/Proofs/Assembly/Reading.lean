import Mathlib.Tactic.Common
import QueryTemplate.Proofs.Assembly.Offence
import QueryTemplate.Proofs.Assembly.Step
import QueryTemplate.Proofs.Template.Spelling

/-!
# Assemblies token by token

An assembly goes through its tokens by steps, and keeps a block open from one brace to the next.
Whether one is left open is told by the template alone.
-/

namespace QueryTemplate

/-!
## Blocks that a template leaves open

Whether a block is open behind the tokens of a template can be told from the characters of the
template alone: its last brace says so. No placeholder holds a brace.
-/

/-- Whether a block is open behind a character, given whether one is open before it. -/
def Text.blockAfter (inside : Bool) (c : Char) : Bool :=
  if c = '{' then true else if c = '}' then false else inside

/-- Whether a block is open at the end of a text: its last brace opens one. -/
def Text.endsInBlock (t : Text) : Bool := t.foldl Text.blockAfter false

/-- Whether a block is open behind a token, given whether one is open before it. -/
def Lexeme.blockAfter (inside : Bool) (l : Lexeme) : Bool := Token.blockAfter inside ⟨l, 0⟩

/-- A character stands for a brace if it is one. -/
theorem Lexeme.blockAfter_ofChar (inside : Bool) (c : Char) :
    Lexeme.blockAfter inside (.ofChar c) = Text.blockAfter inside c := by
  unfold Lexeme.ofChar Text.blockAfter
  split
  · rfl
  · split
    · rfl
    · split <;> rfl

/-- The letter that declares a kind is no brace. -/
theorem Text.blockAfter_of_ofSuffix? {c : Char} {k : Placeholder}
    (h : Placeholder.ofSuffix? c = some k) (inside : Bool) : blockAfter inside c = inside := by
  have hsuffix := Placeholder.ofSuffix?_eq_some_iff.mp h
  cases k <;> cases hsuffix <;> rfl

/-- Letter by letter, a template opens and closes blocks as its characters do. -/
theorem foldl_blockAfter_spelled (inside : Bool) (t : Text) :
    (spelled t).foldl Lexeme.blockAfter inside = t.foldl Text.blockAfter inside := by
  fun_induction spelled t generalizing inside with
  | case1 => rfl
  | case2 => rfl
  | case3 c rest k hk ih =>
    rw [List.foldl_cons, ih, List.foldl_cons, List.foldl_cons, Text.blockAfter_of_ofSuffix? hk]
    rfl
  | case4 c rest hk ih =>
    rw [List.foldl_cons, ih, List.foldl_cons]
    split <;> rfl
  | case5 c rest hlast hmark ih =>
    rw [List.foldl_cons, ih, List.foldl_cons, Lexeme.blockAfter_ofChar]

/-- A token that is spelled out opens and closes blocks as it does itself. -/
theorem foldl_blockAfter_letters (inside : Bool) (l : Lexeme) :
    l.letters.foldl Lexeme.blockAfter inside = Lexeme.blockAfter inside l := by
  cases l with
  | literal t =>
    induction t with
    | nil => rfl
    | cons c rest ih => exact ih
  | _ => rfl

/-- Spelling out tokens leaves their braces. -/
theorem Spells.foldl_blockAfter_eq {tokens letters : List Lexeme} (h : Spells tokens letters)
    (inside : Bool) :
    tokens.foldl Lexeme.blockAfter inside = letters.foldl Lexeme.blockAfter inside := by
  induction h generalizing inside with
  | nil => rfl
  | token l _ ih => rw [List.foldl_cons, ih, List.foldl_append, foldl_blockAfter_letters]
  | gap _ ih => exact ih inside

/-- A block is open behind the tokens of a template if the last brace of the template opens one. -/
theorem inBlock_tokenize (template : Text) :
    Token.inBlock (tokenize template) = template.endsInBlock := by
  have hspells := (tokenize_spells template).foldl_blockAfter_eq false
  rw [List.foldl_cons, List.foldl_cons, List.foldl_append, foldl_blockAfter_spelled,
    List.foldl_map] at hspells
  exact hspells

/-!
## Tokens one after another

An assembly that goes through its tokens takes a step for each of them. Where the tokens stand in
their template does not matter then, as positions are only looked at by an error, and neither do the
arguments beyond those that the tokens take.
-/

namespace Assembly

/-- What an assembly is behind tokens that it goes through. -/
inductive Reads (r : Renderer) : Assembly → List Lexeme → Assembly → Prop
  /-- No token changes nothing. -/
  | nil (s : Assembly) : Reads r s [] s
  /-- A token, and then the others. -/
  | cons {s mid s' : Assembly} {l : Lexeme} {rest : List Lexeme} {position : Nat} :
      Stepped r s ⟨l, position⟩ mid → Reads r mid rest s' → Reads r s (l :: rest) s'

variable {r : Renderer} {s mid s' : Assembly}

/-- A token does the same wherever it stands. -/
theorem Stepped.moved {l : Lexeme} {p : Nat} (h : Stepped r s ⟨l, p⟩ s') (q : Nat) :
    Stepped r s ⟨l, q⟩ s' := by
  cases h with
  | literal text position => exact .literal text q
  | opened position outside => exact .opened q outside
  | closed position inside => exact .closed q inside
  | marked position due inside => exact .marked q due inside
  | leftOut position due outside policy => exact .leftOut q due outside policy
  | filled position due noSkip rendered => exact .filled q due noSkip rendered

/-- A first token and others behind it. -/
theorem foldlM_cons_eq_ok_iff {t : Token} {rest : List Token} :
    (t :: rest).foldlM (step r) s = .ok s' ↔
      ∃ mid, s.step r t = .ok mid ∧ rest.foldlM (step r) mid = .ok s' := by
  rw [List.foldlM_cons]
  cases s.step r t with
  | error stopped =>
    constructor
    · intro h
      cases h
    · rintro ⟨mid, h, -⟩
      cases h
  | ok mid =>
    constructor
    · intro h
      exact ⟨mid, rfl, h⟩
    · rintro ⟨found, hfound, h⟩
      rw [Except.ok.inj hfound]
      exact h

/-- An assembly goes through tokens by a step for each of them. -/
theorem foldlM_eq_ok_iff_reads {tokens : List Token} :
    tokens.foldlM (step r) s = .ok s' ↔ Reads r s (tokens.map Token.lexeme) s' := by
  induction tokens generalizing s with
  | nil =>
    constructor
    · intro h
      rw [List.foldlM_nil] at h
      rw [← Except.ok.inj h]
      exact .nil s
    · intro h
      cases h
      rfl
  | cons t rest ih =>
    rw [foldlM_cons_eq_ok_iff, List.map_cons]
    constructor
    · rintro ⟨mid, hstep, hrest⟩
      exact .cons (step_eq_ok_iff.mp hstep) (ih.mp hrest)
    · intro h
      cases h with
      | @cons _ mid _ _ _ position hstep hrest =>
        exact ⟨mid, step_eq_ok_iff.mpr (hstep.moved t.position), ih.mpr hrest⟩

/-- Some tokens, and then others. -/
theorem Reads.append {before after : List Lexeme} (h : Reads r s before mid)
    (h' : Reads r mid after s') : Reads r s (before ++ after) s' := by
  induction h with
  | nil s => exact h'
  | cons hstep _ ih => exact .cons hstep (ih h')

/-- Between tokens there is an assembly that the first lead to and the others go on from. -/
theorem Reads.exists_of_append {before after : List Lexeme} (h : Reads r s (before ++ after) s') :
    ∃ mid, Reads r s before mid ∧ Reads r mid after s' := by
  induction before generalizing s with
  | nil => exact ⟨s, .nil s, h⟩
  | cons l rest ih =>
    cases h with
    | cons hstep hrest =>
      obtain ⟨mid, hbefore, hafter⟩ := ih hrest
      exact ⟨mid, .cons hstep hbefore, hafter⟩

/-! ### Arguments that are not taken -/

/-- The assembly with other arguments to come. -/
def withArguments (s : Assembly) (args : List Value) : Assembly := { s with remaining := args }

@[simp] theorem withArguments_remaining (s : Assembly) (args : List Value) :
    (s.withArguments args).remaining = args := rfl

@[simp] theorem withArguments_region (s : Assembly) (args : List Value) :
    (s.withArguments args).region = s.region := rfl

theorem withArguments_self (s : Assembly) : s.withArguments s.remaining = s := rfl

theorem put_withArguments (s : Assembly) (piece : Text) (args : List Value) :
    (s.withArguments args).put piece = (s.put piece).withArguments args := by
  unfold put
  cases h : s.region <;> simp [withArguments, h]

theorem closeBlock_withArguments (s : Assembly) (args : List Value) :
    (s.withArguments args).closeBlock = s.closeBlock.withArguments args := by
  unfold closeBlock
  cases h : s.region <;> simp [withArguments, h]

/-- A token takes the arguments of its placeholders, and those behind them do not matter to it. -/
theorem Stepped.withArguments {l : Lexeme} {p : Nat} (h : Stepped r s ⟨l, p⟩ s')
    {taken more : List Value} (hremaining : s.remaining = taken ++ more)
    (htaken : taken.length = (Lexeme.kinds [l]).length) :
    s'.remaining = more ∧
      ∀ other, Stepped r (s.withArguments (taken ++ other)) ⟨l, p⟩ (s'.withArguments other) := by
  -- without a placeholder none is taken, and with one the argument that is due
  have hnone : (Lexeme.kinds [l]).length = 0 → taken = [] :=
    fun hzero => List.eq_nil_of_length_eq_zero (htaken.trans hzero)
  have hone : ∀ {v : Value} {rest : List Value}, (Lexeme.kinds [l]).length = 1 →
      s.remaining = v :: rest → taken = [v] ∧ rest = more := by
    intro v rest hlength hdue
    obtain ⟨w, rfl⟩ := List.length_eq_one_iff.mp (htaken.trans hlength)
    obtain ⟨rfl, rfl⟩ := List.cons.inj (hdue.symm.trans hremaining)
    exact ⟨rfl, rfl⟩
  cases h with
  | literal text position =>
    obtain rfl := hnone rfl
    refine ⟨by simpa using hremaining, fun other => ?_⟩
    rw [← put_withArguments]
    exact .literal text p
  | opened position outside =>
    obtain rfl := hnone rfl
    exact ⟨hremaining, fun other => .opened p outside⟩
  | closed position inside =>
    obtain rfl := hnone rfl
    refine ⟨by simpa using hremaining, fun other => ?_⟩
    rw [← closeBlock_withArguments]
    exact .closed p inside
  | marked position due inside =>
    obtain ⟨rfl, rfl⟩ := hone rfl due
    exact ⟨rfl, fun other => .marked p rfl inside⟩
  | leftOut position due outside policy =>
    obtain ⟨rfl, rfl⟩ := hone rfl due
    exact ⟨rfl, fun other => .leftOut p rfl outside policy⟩
  | @filled kind position v rest piece due noSkip rendered =>
    obtain ⟨rfl, rfl⟩ := hone rfl due
    refine ⟨by simp, fun other => ?_⟩
    rw [← put_withArguments]
    exact .filled p rfl noSkip rendered

/-- Of the arguments that tokens take, the first token takes the first ones. -/
theorem exists_taken_append {l : Lexeme} {rest : List Lexeme} {taken : List Value}
    (h : taken.length = (Lexeme.kinds (l :: rest)).length) :
    ∃ first others, taken = first ++ others ∧ first.length = (Lexeme.kinds [l]).length ∧
      others.length = (Lexeme.kinds rest).length := by
  rw [← List.singleton_append, Lexeme.kinds_append, List.length_append] at h
  refine ⟨taken.take (Lexeme.kinds [l]).length, taken.drop (Lexeme.kinds [l]).length,
    (List.take_append_drop _ _).symm, ?_, ?_⟩
  · rw [List.length_take]
    omega
  · rw [List.length_drop]
    omega

/-- Tokens take the arguments of their placeholders, and those behind them do not matter. -/
theorem Reads.withArguments {tokens : List Lexeme} (h : Reads r s tokens s')
    {taken more : List Value} (hremaining : s.remaining = taken ++ more)
    (htaken : taken.length = (Lexeme.kinds tokens).length) :
    s'.remaining = more ∧
      ∀ other, Reads r (s.withArguments (taken ++ other)) tokens (s'.withArguments other) := by
  induction h generalizing taken with
  | nil s =>
    obtain rfl : taken = [] := List.eq_nil_of_length_eq_zero htaken
    exact ⟨hremaining, fun other => .nil _⟩
  | @cons s mid s' l rest position hstep _ ih =>
    obtain ⟨first, others, rfl, hfirst, hothers⟩ := exists_taken_append htaken
    rw [List.append_assoc] at hremaining
    obtain ⟨hmid, hstepped⟩ := hstep.withArguments hremaining hfirst
    obtain ⟨hlast, hreads⟩ := ih hmid hothers
    refine ⟨hlast, fun other => ?_⟩
    rw [List.append_assoc]
    exact .cons (hstepped _) (hreads other)

end Assembly

end QueryTemplate
