import QueryTemplate.Proofs.Assembly.Continuation
import QueryTemplate.Proofs.Compile.FirstOffence

/-!
# Errors and their classes

Errors are told apart by what they are reported as. Those that are not reported as errors of a
template come from conversions that nothing checks.
-/

namespace QueryTemplate

/-!
## Classes of errors

An error is reported in one of five ways: as a wrong number of arguments, as a brace out of place
with its position, as an argument refused for its type or for its value with its index, or as
whatever it is, without any of these.
-/

/-- How an error is reported. -/
inductive ErrorClass where
  /-- As a wrong number of arguments. -/
  | count
  /-- As a brace out of place. -/
  | brace
  /-- As an argument refused for its type or for its value. -/
  | argument (what : Refusal)
  /-- As it comes from a step that did not expect it. -/
  | unforeseen
  deriving DecidableEq

namespace CompileError

/-- How the error is reported. -/
def errorClass : CompileError → ErrorClass
  | countMismatch _ _ => .count
  | assembly (.nestedBlock _) | assembly (.unmatchedClose _) => .brace
  | assembly (.argument _ fault) =>
    match fault.refusal? with
    | some what => .argument what
    | none => .unforeseen
  | assembly .missingArgument | assembly (.kindlessPlaceholder _) => .unforeseen

/-- The index of an argument that the error is reported with. -/
def index? : CompileError → Option Nat
  | assembly (.argument index fault) => fault.index? (some index)
  | _ => none

/-- The position of a brace that the error is reported with. -/
def position? : CompileError → Option Nat
  | assembly (.nestedBlock position) | assembly (.unmatchedClose position) => some position
  | _ => none

/-- The error behind some arguments and some characters more. -/
def shifted (args chars : Nat) : CompileError → CompileError
  | countMismatch expected actual => countMismatch expected actual
  | assembly error => assembly (error.shifted args chars)

theorem errorClass_shifted (args chars : Nat) (e : CompileError) :
    (e.shifted args chars).errorClass = e.errorClass := by
  cases e with
  | countMismatch expected actual => rfl
  | assembly error => cases error <;> rfl

theorem position?_shifted (args chars : Nat) (e : CompileError) :
    (e.shifted args chars).position? = e.position?.map (· + chars) := by
  cases e with
  | countMismatch expected actual => rfl
  | assembly error => cases error <;> rfl

/-- The index moves with the arguments in front, unless a fault brings its own. -/
theorem index?_shifted (args chars : Nat) {e : CompileError}
    (h : ∀ i fault, e = .assembly (.argument i fault) → fault.ownIndex? = none) :
    (e.shifted args chars).index? = e.index?.map (· + args) := by
  cases e with
  | countMismatch expected actual => rfl
  | assembly error =>
    cases error with
    | argument i fault =>
      have hown := h i fault rfl
      show fault.index? (some (i + args)) = (fault.index? (some i)).map (· + args)
      rw [Fault.index?, Fault.index?, hown]
      split <;> rfl
    | _ => rfl

end CompileError

/-- With the escaping of this library, a fault of an argument is one of rendering itself. -/
theorem fault_isOwn_of_compile {options : Options} {template : Text} {args : List Value} {i : Nat}
    {fault : Fault}
    (h : compile ⟨options, backslashEscaper⟩ template args =
      .error (.assembly (.argument i fault))) :
    fault.IsOwn := by
  rcases compile_eq_error_iff_after.mp h with ⟨-, hcount⟩ | ⟨hcount, stats, error, hafter, herror⟩
  · cases hcount
  · obtain rfl := CompileError.assembly.inj herror
    obtain ⟨j, hj⟩ := Assembly.exists_offenceAt hafter
    obtain ⟨t, -, -, k, v, -, -, hcases⟩ := offenceAt_tells hcount hj
    -- a skip marker out of place is a fault of its own, as is whatever rendering ends in
    rcases hcases with ⟨-, -, -, rfl⟩ | ⟨-, hrender⟩
    · trivial
    · exact Renderer.render_isOwn backslashEscaper_isOwn k v fault hrender

/-!
## Errors that are not reported as errors of a template

An error is reported as a wrong number of arguments, as a brace out of place or as an argument that
is refused. All others come from two conversions of an argument that nothing checks or catches: a
text is read as a number with a point although an information separator stands next to the numeral,
and the key of a mapping is written although it is or holds an integer beyond the digit limit, or an
object of another type that cannot be written.
-/

/-- An argument that is refused is reported as such, or was not foreseen. -/
theorem unforeseen_of_render {options : Options} {k : Placeholder} {v : Value} {fault : Fault}
    {i : Nat} (h : (Renderer.mk options backslashEscaper).render k v = .error fault)
    (hclass : (CompileError.assembly (.argument i fault)).errorClass = .unforeseen) :
    Unforeseen ⟨options, backslashEscaper⟩ k v fault := by
  refine render_unforeseen_iff.mp ⟨h, ?_⟩
  cases hrefusal : fault.refusal? with
  | none => rfl
  | some what =>
    simp only [CompileError.errorClass, hrefusal] at hclass
    cases hclass

/-- With the escaping of this library, an error is reported in none of the three ways exactly if it
is the fault of an argument that was not foreseen, at the placeholder of its index. -/
theorem compile_unforeseen_iff {options : Options} {template : Text} {args : List Value}
    {e : CompileError} (h : compile ⟨options, backslashEscaper⟩ template args = .error e) :
    e.errorClass = .unforeseen ↔
      ∃ i k v fault, e = .assembly (.argument i fault) ∧ (placeholders template)[i]? = some k ∧
        args[i]? = some v ∧ Unforeseen ⟨options, backslashEscaper⟩ k v fault := by
  constructor
  · intro hclass
    rcases compile_eq_error_iff_after.mp h with ⟨-, rfl⟩ | ⟨hcount, stats, error, hafter, rfl⟩
    · cases hclass
    obtain ⟨j, hj⟩ := Assembly.exists_offenceAt hafter
    obtain ⟨⟨lexeme, position⟩, ht, htells⟩ := offenceAt_tells hcount hj
    cases error with
    | nestedBlock position => cases hclass
    | unmatchedClose position => cases hclass
    -- an argument is never missing, and no placeholder is without a kind
    | missingArgument => exact htells.elim
    | kindlessPlaceholder position => exact htells.elim
    | argument i fault =>
      obtain ⟨hindex, k, v, hlexeme, hv, hcases⟩ := htells
      obtain rfl : lexeme = .placeholder (some k) := hlexeme
      have hk := placeholders_getElem? (Token.eq_take_append_cons ht)
      rw [Token.length_kinds, ← hindex] at hk
      rcases hcases with ⟨-, -, -, rfl⟩ | ⟨-, hrender⟩
      · -- a skip marker out of place is reported as an argument of a wrong type
        cases hclass
      · exact ⟨i, k, v, fault, rfl, hk, hv, unforeseen_of_render hrender hclass⟩
  · rintro ⟨i, k, v, fault, rfl, -, -, hunforeseen⟩
    simp only [CompileError.errorClass, hunforeseen.refusal?_eq_none]

/-- A mapping with a key of one digit beyond the limit is rendered up to the key. -/
theorem compile_unforeseen_long_key :
    ∃ e, compile ⟨.default, backslashEscaper⟩ "?a".toList
        [.map [(.text "k".toList, .null), (.int (Nat.pow 10 digitLimit : Nat), .null)]] =
          .error e ∧ e.errorClass = .unforeseen := by
  generalize hv : Value.map
    [(.text "k".toList, .null), (.int (Nat.pow 10 digitLimit : Nat), .null)] = v
  -- the key cannot be written, and the entry before it has a text
  have hlong : Value.CannotBeWritten (.int (Nat.pow 10 digitLimit : Nat)) := by
    refine Value.CannotBeShown.int ?_
    rw [withinDigitLimit, Int.natAbs_natCast]
    exact decide_eq_false (Nat.lt_irrefl _)
  have hshape : v.shape = .entries ([(.text "k".toList, .null)] ++
      (.int (Nat.pow 10 digitLimit : Nat), .null) :: []) := by
    rw [← hv]
    rfl
  have hfirst : ∀ entry ∈ [(Value.text "k".toList, Value.null)],
      ∃ t, (Renderer.mk .default backslashEscaper).pair entry = .ok t := by
    intro entry hentry
    rw [List.mem_singleton.mp hentry]
    exact ⟨"`k` = NULL".toList, by decide +kernel⟩
  have hunforeseen : Unforeseen ⟨.default, backslashEscaper⟩ .array v .keyTooLong :=
    .key hshape hfirst hlong
  have hkinds : placeholders "?a".toList = [.array] := by
    decide +kernel
  have htokens : tokenize "?a".toList =
      [⟨.placeholder (some .array), 0⟩, ⟨.literal Token.separator, 2⟩] := by
    decide +kernel
  -- the number is not computed with, so that the offence is found by unfolding and not by
  -- evaluation
  have hoffence : Assembly.offenceAt ⟨.default, backslashEscaper⟩ [v] (tokenize "?a".toList) 0 =
      some (.argument 0 .keyTooLong) := by
    have hskip : v.isSkip = false := by
      rw [← hv]
      rfl
    rw [htokens]
    show Assembly.argumentOffence? _ false 0 0 (some .array) v = _
    rw [Assembly.argumentOffence?, hskip]
    simp only [Renderer.render_of_unforeseen hunforeseen, Bool.false_eq_true, if_false]
  have herror : compile ⟨.default, backslashEscaper⟩ "?a".toList [v] =
      .error (.assembly (.argument 0 .keyTooLong)) :=
    compile_of_offence (by rw [countPlaceholders, hkinds]; rfl) hoffence fun i hi =>
      absurd hi (Nat.not_lt_zero i)
  have hat : (placeholders "?a".toList)[0]? = some .array := by
    rw [hkinds]
    rfl
  exact ⟨_, herror, (compile_unforeseen_iff herror).mpr
    ⟨0, .array, v, .keyTooLong, rfl, hat, rfl, hunforeseen⟩⟩

/-- A text of an information separator and a digit is neither rendered nor refused. -/
theorem compile_unforeseen_separator :
    ∃ e, compile ⟨.default, backslashEscaper⟩ "?f".toList [.text ['\x1c', '5']] = .error e ∧
      e.errorClass = .unforeseen :=
  ⟨.assembly (.argument 0 (.unreadableNumber ['\x1c', '5'])), by decide +kernel, rfl⟩

end QueryTemplate
