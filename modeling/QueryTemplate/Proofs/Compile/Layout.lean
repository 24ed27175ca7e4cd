import QueryTemplate.Proofs.Assembly.Offence
import QueryTemplate.Proofs.Compile.ErrorClass
import QueryTemplate.Proofs.Template.Lossless

/-!
# Positions and layout

Where a token stands in its template is said by errors and by nothing else.
-/

namespace QueryTemplate

/-!
## Assemblies and positions

The position of a token is only ever read to say where an error is. Tokens that are the same but for
their positions lead to the same assembly, or to the same error but for its position. What positions
are related to each other does not matter, as long as those of the tokens are; separators need no
position at all, as no literal is ever the place of an error.
-/

/-- Two errors that are the same but for their positions, which are related. -/
inductive AssemblyError.SameUpTo (R : Nat → Nat → Prop) : AssemblyError → AssemblyError → Prop
  /-- A block opens inside a block. -/
  | nestedBlock {p q : Nat} : R p q → SameUpTo R (.nestedBlock p) (.nestedBlock q)
  /-- A block closes where none is open. -/
  | unmatchedClose {p q : Nat} : R p q → SameUpTo R (.unmatchedClose p) (.unmatchedClose q)
  /-- There is no argument left. -/
  | missingArgument : SameUpTo R .missingArgument .missingArgument
  /-- A placeholder declares no kind. -/
  | kindlessPlaceholder {p q : Nat} :
      R p q → SameUpTo R (.kindlessPlaceholder p) (.kindlessPlaceholder q)
  /-- An argument has no text. -/
  | argument (index : Nat) (fault : Fault) :
      SameUpTo R (.argument index fault) (.argument index fault)

namespace Assembly

/-- Two outcomes of steps that are the same but for the position in an error. -/
inductive SameOutcome (R : Nat → Nat → Prop) :
    Except Stopped Assembly → Except Stopped Assembly → Prop
  /-- The assembly goes on. -/
  | goesOn (s : Assembly) : SameOutcome R (.ok s) (.ok s)
  /-- The assembly stops, with the same counts behind it. -/
  | stops (stats : Stats) {e e' : AssemblyError} :
      e.SameUpTo R e' → SameOutcome R (.error (stats, e)) (.error (stats, e'))

variable {R : Nat → Nat → Prop} {r : Renderer}

/-- A placeholder with its argument. -/
theorem substitute_sameOutcome (s : Assembly) (kind : Option Placeholder) {p q : Nat} (h : R p q)
    (v : Value) (rest : List Value) :
    SameOutcome R (s.substitute r kind p v rest) (s.substitute r kind q v rest) := by
  unfold substitute
  by_cases hskip : v.isSkip = true
  · simp only [if_pos hskip]
    cases (s.take rest).skip r with
    | ok skipped => exact .goesOn skipped
    | error fault => exact .stops _ (.argument s.index fault)
  · simp only [if_neg hskip]
    cases kind with
    | none => exact .stops _ (.kindlessPlaceholder h)
    | some k =>
      cases hrender : r.render k v with
      | ok piece =>
        simp only [hrender]
        exact .goesOn _
      | error fault =>
        simp only [hrender]
        exact .stops _ (.argument s.index fault)

/-- Of a token that is no separator, only the position in an error is another one. -/
theorem step_sameOutcome_of_position (s : Assembly) (l : Lexeme) {p q : Nat} (h : R p q) :
    SameOutcome R (s.step r ⟨l, p⟩) (s.step r ⟨l, q⟩) := by
  cases l with
  | literal text => exact .goesOn (s.put text)
  | blockOpen =>
    cases hregion : s.region with
    | outside =>
      simp only [step, hregion]
      exact .goesOn _
    | inside pieces suppressed =>
      simp only [step, hregion]
      exact .stops _ (.nestedBlock h)
  | blockClose =>
    cases hregion : s.region with
    | outside =>
      simp only [step, hregion]
      exact .stops _ (.unmatchedClose h)
    | inside pieces suppressed =>
      simp only [step, hregion]
      exact .goesOn _
  | placeholder kind =>
    cases hremaining : s.remaining with
    | nil =>
      simp only [step, hremaining]
      exact .stops _ .missingArgument
    | cons v rest =>
      simp only [step, hremaining]
      exact substitute_sameOutcome s kind h v rest

/-- One token in the place of another. -/
theorem step_sameOutcome (s : Assembly) {t u : Token} (h : t.SameUpTo R u) :
    SameOutcome R (s.step r t) (s.step r u) := by
  obtain ⟨l, p⟩ := t
  obtain ⟨l', q⟩ := u
  obtain ⟨rfl, rfl | hplace⟩ := h
  · exact .goesOn (s.put Token.separator)
  · exact step_sameOutcome_of_position s l hplace

/-- Up to the first error, both go through the same states. -/
theorem SameOutcome.bind {x y : Except Stopped Assembly} (h : SameOutcome R x y)
    {f g : Assembly → Except Stopped Assembly} (hnext : ∀ s, SameOutcome R (f s) (g s)) :
    SameOutcome R (x >>= f) (y >>= g) := by
  cases h with
  | goesOn s => exact hnext s
  | stops stats herror => exact .stops stats herror

/-- Tokens in the place of others, one by one. -/
theorem foldlM_sameOutcome (s : Assembly) {tokens others : List Token}
    (h : List.Forall₂ (Token.SameUpTo R) tokens others) :
    SameOutcome R (tokens.foldlM (step r) s) (others.foldlM (step r) s) := by
  induction h generalizing s with
  | nil => exact .goesOn s
  | cons htoken _ ih =>
    rw [List.foldlM_cons, List.foldlM_cons]
    exact (step_sameOutcome s htoken).bind ih

/-- Tokens in the place of others, from the beginning. -/
theorem after_sameOutcome (args : List Value) {tokens others : List Token}
    (h : List.Forall₂ (Token.SameUpTo R) tokens others) :
    SameOutcome R (after r args tokens) (after r args others) :=
  foldlM_sameOutcome (start args) h

end Assembly

/-!
## Compiling a template in another layout

A compilation has nothing of its template but the words: of two templates with the same words, both
compile to the same query with the same counts, or neither compiles, for the same reason and, where
a brace is out of place, because of the same character of the same word.
-/

section

namespace CompileError

/-- Two errors that are the same but for their positions, which are related. -/
inductive SameUpTo (R : Nat → Nat → Prop) : CompileError → CompileError → Prop
  /-- A wrong number of arguments. -/
  | countMismatch (expected actual : Nat) :
      SameUpTo R (.countMismatch expected actual) (.countMismatch expected actual)
  /-- The assembly stops. -/
  | assembly {e e' : AssemblyError} : e.SameUpTo R e' → SameUpTo R (.assembly e) (.assembly e')

/-- The counts of placeholders and of arguments that the error is reported with. -/
def counts? : CompileError → Option (Nat × Nat)
  | countMismatch expected actual => some (expected, actual)
  | assembly _ => none

variable {R : Nat → Nat → Prop} {e e' : CompileError}

theorem SameUpTo.errorClass_eq (h : e.SameUpTo R e') : e.errorClass = e'.errorClass := by
  cases h with
  | countMismatch expected actual => rfl
  | assembly herror => cases herror <;> rfl

theorem SameUpTo.index?_eq (h : e.SameUpTo R e') : e.index? = e'.index? := by
  cases h with
  | countMismatch expected actual => rfl
  | assembly herror => cases herror <;> rfl

theorem SameUpTo.counts?_eq (h : e.SameUpTo R e') : e.counts? = e'.counts? := by
  cases h <;> rfl

/-- Either both have a position or neither has, and the positions are related. -/
theorem SameUpTo.position?_rel (h : e.SameUpTo R e') : Option.Rel R e.position? e'.position? := by
  cases h with
  | countMismatch expected actual => exact .none
  | assembly herror =>
    cases herror with
    | nestedBlock hplace => exact .some hplace
    | unmatchedClose hplace => exact .some hplace
    | missingArgument => exact .none
    | kindlessPlaceholder => exact .none
    | argument index fault => exact .none

end CompileError

variable {template other : Text}

/-- Two layouts of a template have the same report but for the template in it, or the same error but
for its position. -/
theorem compileWithReport_of_words_eq (r : Renderer) (args : List Value)
    (h : words template = words other) :
    (∃ report, compileWithReport r template args = .ok report ∧
        compileWithReport r other args = .ok { report with template := other }) ∨
      ∃ e e', compileWithReport r template args = .error e ∧
        compileWithReport r other args = .error e' ∧
        e.SameUpTo (SamePlace template other) e' := by
  have hsame := countPlaceholders_of_words_eq h
  by_cases hcount : countPlaceholders template = args.length
  · have hcount' : countPlaceholders other = args.length := hsame ▸ hcount
    have houtcome := Assembly.after_sameOutcome (r := r) args (tokenize_sameUpTo h)
    -- both outcomes are named, so that they can be taken apart together
    generalize hfirst : Assembly.after r args (tokenize template) = x at houtcome
    generalize hsecond : Assembly.after r args (tokenize other) = y at houtcome
    cases houtcome with
    | goesOn s =>
      exact .inl ⟨_, compileWithReport_of_after hcount hfirst,
        compileWithReport_of_after hcount' hsecond⟩
    | stops stats herror =>
      exact .inr ⟨_, _, compileWithReport_of_stopped hcount hfirst,
        compileWithReport_of_stopped hcount' hsecond, .assembly herror⟩
  · have hcount' : countPlaceholders other ≠ args.length := hsame ▸ hcount
    refine .inr ⟨_, _, compileWithReport_of_mismatch hcount,
      compileWithReport_of_mismatch hcount', ?_⟩
    rw [← hsame]
    exact .countMismatch _ _

/-- Two templates with the same chunks in the same order, whatever blanks stand before, between and
behind them. Either both compile, to the same query, and their reports differ in the template only,
or neither compiles. Then the two errors are the same but for their positions: they are of one
class, with the same index of an argument and the same counts, and where one has a position, the
other has that of the same character of the same chunk. -/
theorem compile_of_words_eq (r : Renderer) (args : List Value)
    (h : (chunks template).map Chunk.text = (chunks other).map Chunk.text) :
    (∃ report, compileWithReport r template args = .ok report ∧
        compileWithReport r other args = .ok { report with template := other } ∧
        compile r template args = .ok report.sql ∧ compile r other args = .ok report.sql) ∨
      ∃ e e', compile r template args = .error e ∧ compile r other args = .error e' ∧
        e.SameUpTo (SamePlace template other) e' ∧
        e.errorClass = e'.errorClass ∧ e.index? = e'.index? ∧ e.counts? = e'.counts? ∧
        Option.Rel (SamePlace template other) e.position? e'.position? := by
  rcases compileWithReport_of_words_eq r args h with
    ⟨report, hfirst, hsecond⟩ | ⟨e, e', hfirst, hsecond, hsame⟩
  · refine .inl ⟨report, hfirst, hsecond, ?_, ?_⟩
    · exact compile_eq_ok_iff_report.mpr ⟨report, hfirst, rfl⟩
    · exact compile_eq_ok_iff_report.mpr ⟨_, hsecond, rfl⟩
  · refine .inr ⟨e, e', ?_, ?_, hsame, hsame.errorClass_eq, hsame.index?_eq, hsame.counts?_eq,
      hsame.position?_rel⟩
    · exact compile_eq_error_iff_report.mpr hfirst
    · exact compile_eq_error_iff_report.mpr hsecond

/-- The brace that closes nothing is the first character of the second chunk of both templates; in
the second, an em space, a line separator, a tab and a no-break space stand around the chunks. -/
theorem compile_of_words_eq_brace :
    compile ⟨.default, backslashEscaper⟩ "?d \x7d".toList [.int 5] =
        .error (.assembly (.unmatchedClose 3)) ∧
      compile ⟨.default, backslashEscaper⟩ "\u2003?d\u2028\t\x7d\u00a0".toList [.int 5] =
        .error (.assembly (.unmatchedClose 5)) ∧
      SamePlace "?d \x7d".toList "\u2003?d\u2028\t\x7d\u00a0".toList 3 5 := by
  have hwords : (chunks "?d \x7d".toList).map Chunk.text =
      (chunks "\u2003?d\u2028\t\x7d\u00a0".toList).map Chunk.text := by
    decide +kernel
  have hfirst : compile ⟨.default, backslashEscaper⟩ "?d \x7d".toList [.int 5] =
      .error (.assembly (.unmatchedClose 3)) := by
    decide +kernel
  have hsecond : compile ⟨.default, backslashEscaper⟩
      "\u2003?d\u2028\t\x7d\u00a0".toList [.int 5] =
        .error (.assembly (.unmatchedClose 5)) := by
    decide +kernel
  refine ⟨hfirst, hsecond, ?_⟩
  rcases compile_of_words_eq ⟨.default, backslashEscaper⟩ [.int 5] hwords with
    ⟨report, -, -, hsql, -⟩ | ⟨e, e', he, he', -, -, -, -, hplace⟩
  · rw [hfirst] at hsql
    cases hsql
  · rw [hfirst] at he
    rw [hsecond] at he'
    cases he
    cases he'
    cases hplace with
    | some hsame => exact hsame

end

end QueryTemplate
