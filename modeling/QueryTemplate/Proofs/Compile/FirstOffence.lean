import QueryTemplate.Proofs.Assembly.Arguments
import QueryTemplate.Proofs.Render.Faults

/-!
# How a compilation ends

A compilation ends in a query or in the error of the first offence against the template or for an
argument.
-/

namespace QueryTemplate

/-!
## The first offence decides

A wrong number of arguments is reported before anything else. With the right number, the tokens are
gone through from left to right, and the first one that offends decides the error: a brace that is
out of place is reported with its position, an argument with its index. Where no token offends there
is a query.
-/

/-- A wrong number of arguments is all that is reported. -/
theorem compile_of_mismatch {r : Renderer} {template : Text} {args : List Value}
    (h : countPlaceholders template ≠ args.length) :
    compile r template args = .error (.countMismatch (countPlaceholders template) args.length) := by
  rw [compile, compileWithReport, checkArguments_of_mismatch h]
  rfl

/-- With the right number of arguments, compilation is the assembly of the tokens. -/
theorem compile_of_match {r : Renderer} {template : Text} {args : List Value}
    (h : countPlaceholders template = args.length) :
    compile r template args =
      (assemble r (tokenize template) args).2.mapError CompileError.assembly := by
  rw [compile, compileWithReport, checkArguments_of_match h]
  obtain ⟨stats, outcome⟩ := assemble r (tokenize template) args
  cases outcome <;> rfl

/-- The error `e` is worded as a fault of the argument `i`: a fault that blames the argument has its
index in front, and any other is worded as rendering words it. -/
def CompileError.WordsFault (template : Text) (i : Nat) (fault : Fault) (e : CompileError) : Prop :=
  (fault.refusal?.isSome = true → fault.index? (some i) = some i ∧
    e.message template =
      "argument #".toList ++ integerText i ++ ": ".toList ++ fault.message none) ∧
  (fault.refusal? = none → fault.index? (some i) = none ∧ e.message template = fault.message none)

/-- A fault of rendering itself is worded as a fault of the argument it was found at. -/
theorem wordsFault_of_isOwn {template : Text} {i : Nat} {fault : Fault} (h : fault.IsOwn) :
    (CompileError.assembly (.argument i fault)).WordsFault template i fault :=
  ⟨fun hrefusal => h.message_of_refusal hrefusal i,
    fun hrefusal => Fault.message_of_no_refusal hrefusal i⟩

/-- With the right number of arguments there is a query unless a token offends. -/
theorem compile_eq_ok_iff {r : Renderer} {template : Text} {args : List Value}
    (h : countPlaceholders template = args.length) :
    (∃ sql, compile r template args = .ok sql) ↔
      ∀ j, Assembly.offenceAt r args (tokenize template) j = none := by
  rw [compile_of_match h, ← Assembly.after_eq_ok_iff]
  constructor
  · rintro ⟨sql, hsql⟩
    cases hafter : Assembly.after r args (tokenize template) with
    | ok s => exact ⟨s, rfl⟩
    | error stopped =>
      rw [assemble_of_stopped hafter] at hsql
      cases hsql
  · rintro ⟨s, hs⟩
    rw [assemble_of_after hs]
    exact ⟨_, rfl⟩

/-- With the right number of arguments the first offence is the error. -/
theorem compile_of_offence {r : Renderer} {template : Text} {args : List Value}
    (h : countPlaceholders template = args.length) {j : Nat} {e : AssemblyError}
    (he : Assembly.offenceAt r args (tokenize template) j = some e)
    (hfirst : ∀ i < j, Assembly.offenceAt r args (tokenize template) i = none) :
    compile r template args = .error (.assembly e) := by
  obtain ⟨stats, hstop⟩ := Assembly.after_of_offence he hfirst
  rw [compile_of_match h, assemble_of_stopped hstop]
  rfl

/-- The outcome of a compilation with the escaping of this library. A wrong number of arguments is
reported whatever else is wrong. Otherwise there is a query unless a token offends, and the first
token that does decides the error: it tells the truth about that token, and a fault that blames the
argument is worded with the argument's index in front. -/
theorem compile_stops_at_first_offence (options : Options) (template : Text) (args : List Value) :
    let r : Renderer := ⟨options, backslashEscaper⟩
    let tokens := tokenize template
    (countPlaceholders template ≠ args.length →
      compile r template args =
        .error (.countMismatch (countPlaceholders template) args.length)) ∧
    (countPlaceholders template = args.length →
      ((∃ sql, compile r template args = .ok sql) ↔
        ∀ j, Assembly.offenceAt r args tokens j = none) ∧
      ∀ j e, Assembly.offenceAt r args tokens j = some e →
        (∀ i < j, Assembly.offenceAt r args tokens i = none) →
          compile r template args = .error (.assembly e) ∧
          (∃ t, tokens[j]? = some t ∧ e.Tells r template args (tokens.take j) t) ∧
          ∀ i fault, e = .argument i fault →
            (CompileError.assembly e).WordsFault template i fault) := by
  intro r tokens
  refine ⟨compile_of_mismatch, fun hcount => ⟨compile_eq_ok_iff hcount, ?_⟩⟩
  intro j e he hfirst
  obtain ⟨t, ht, htells⟩ := offenceAt_tells hcount he
  refine ⟨compile_of_offence hcount he hfirst, ⟨t, ht, htells⟩, ?_⟩
  rintro i fault rfl
  obtain ⟨-, k, v, -, -, hcases⟩ := htells
  -- a skip marker out of place is a fault of its own, as is whatever rendering ends in
  have hown : fault.IsOwn := by
    rcases hcases with ⟨-, -, -, rfl⟩ | ⟨-, hrender⟩
    · trivial
    · exact Renderer.render_isOwn backslashEscaper_isOwn k v fault hrender
  exact wordsFault_of_isOwn hown

/-- A brace out of place is reported where it stands before a text that is no number and before a
skip marker outside of every block. -/
theorem compile_stops_at_first_offence_brace :
    compile ⟨⟨.strict, .refuse, true⟩, backslashEscaper⟩ "a \x7bb ?d \x7bc ?f \x7d ?".toList
        [.int 5, .text "x".toList, .skip] = .error (.assembly (.nestedBlock 8)) := by
  have hcount : countPlaceholders "a \x7bb ?d \x7bc ?f \x7d ?".toList =
      [Value.int 5, .text "x".toList, .skip].length := by
    decide +kernel
  have hfirst : ∀ i < 7, Assembly.offenceAt ⟨⟨.strict, .refuse, true⟩, backslashEscaper⟩
      [.int 5, .text "x".toList, .skip] (tokenize "a \x7bb ?d \x7bc ?f \x7d ?".toList) i =
        none := by
    decide +kernel
  have hbrace : Assembly.offenceAt ⟨⟨.strict, .refuse, true⟩, backslashEscaper⟩
      [.int 5, .text "x".toList, .skip] (tokenize "a \x7bb ?d \x7bc ?f \x7d ?".toList) 7 =
        some (.nestedBlock 8) := by
    decide +kernel
  exact (((compile_stops_at_first_offence _ _ _).2 hcount).2 7 _ hbrace hfirst).1

/-- An information separator in front of a numeral is reported as rendering words it, without the
index of the argument. -/
example :
    compile ⟨.default, backslashEscaper⟩ "?f".toList [.text ['\x1c', '5']] =
        .error (.assembly (.argument 0 (.unreadableNumber ['\x1c', '5']))) ∧
      (Fault.unreadableNumber ['\x1c', '5']).index? (some 0) = none :=
  ⟨by decide +kernel, rfl⟩

/-!
## The outcome of a compilation

With the right number of arguments, a compilation ends as its assembly does: in the query of the
assembly behind all tokens, or in what stopped it.
-/

section

variable {r : Renderer} {template : Text} {args : List Value}

/-- With a wrong number of arguments there is no report. -/
theorem compileWithReport_of_mismatch (hcount : countPlaceholders template ≠ args.length) :
    compileWithReport r template args =
      .error (.countMismatch (countPlaceholders template) args.length) := by
  rw [compileWithReport, checkArguments_of_mismatch hcount]
  rfl

/-- With the right number, the report has the query and the counts of the assembly, -/
theorem compileWithReport_of_after (hcount : countPlaceholders template = args.length)
    {s : Assembly} (h : Assembly.after r args (tokenize template) = .ok s) :
    compileWithReport r template args =
      .ok ⟨s.closeBlock.query, template, args.length, s.closeBlock.stats, r.options⟩ := by
  rw [compileWithReport, checkArguments_of_match hcount, assemble_of_after h]
  rfl

/-- and where the assembly is stopped, there is none either. -/
theorem compileWithReport_of_stopped (hcount : countPlaceholders template = args.length)
    {stats : Stats} {error : AssemblyError}
    (h : Assembly.after r args (tokenize template) = .error (stats, error)) :
    compileWithReport r template args = .error (.assembly error) := by
  rw [compileWithReport, checkArguments_of_match hcount, assemble_of_stopped h]
  rfl

/-- A report has the query and the counts of the assembly behind all tokens. -/
theorem compileWithReport_eq_ok_iff_after {report : Report} :
    compileWithReport r template args = .ok report ↔
      countPlaceholders template = args.length ∧
        ∃ s, Assembly.after r args (tokenize template) = .ok s ∧
          report = ⟨s.closeBlock.query, template, args.length, s.closeBlock.stats, r.options⟩ := by
  constructor
  · intro h
    by_cases hcount : countPlaceholders template = args.length
    · cases hafter : Assembly.after r args (tokenize template) with
      | ok s =>
        rw [compileWithReport_of_after hcount hafter] at h
        exact ⟨hcount, s, rfl, (Except.ok.inj h).symm⟩
      | error stopped =>
        rw [compileWithReport_of_stopped hcount hafter] at h
        cases h
    · rw [compileWithReport_of_mismatch hcount] at h
      cases h
  · rintro ⟨hcount, s, hafter, rfl⟩
    exact compileWithReport_of_after hcount hafter

/-- A query is that of its report. -/
theorem compile_eq_ok_iff_report {sql : Text} :
    compile r template args = .ok sql ↔
      ∃ report, compileWithReport r template args = .ok report ∧ report.sql = sql := by
  rw [compile]
  cases compileWithReport r template args with
  | ok report => simp [Except.map]
  | error e => simp [Except.map]

/-- Where there is no query, there is no report either, for the same reason. -/
theorem compile_eq_error_iff_report {e : CompileError} :
    compile r template args = .error e ↔ compileWithReport r template args = .error e := by
  rw [compile]
  cases compileWithReport r template args with
  | ok report => simp [Except.map]
  | error e => simp [Except.map]

/-- A query is what is left of the assembly behind all tokens. -/
theorem compile_eq_ok_iff_after {sql : Text} :
    compile r template args = .ok sql ↔
      countPlaceholders template = args.length ∧
        ∃ s, Assembly.after r args (tokenize template) = .ok s ∧ sql = s.closeBlock.query := by
  rw [compile_eq_ok_iff_report]
  constructor
  · rintro ⟨report, hreport, rfl⟩
    obtain ⟨hcount, s, hafter, rfl⟩ := compileWithReport_eq_ok_iff_after.mp hreport
    exact ⟨hcount, s, hafter, rfl⟩
  · rintro ⟨hcount, s, hafter, rfl⟩
    exact ⟨_, compileWithReport_eq_ok_iff_after.mpr ⟨hcount, s, hafter, rfl⟩, rfl⟩

/-- An error is a wrong number of arguments, or what stopped the assembly. -/
theorem compile_eq_error_iff_after {e : CompileError} :
    compile r template args = .error e ↔
      (countPlaceholders template ≠ args.length ∧
          e = .countMismatch (countPlaceholders template) args.length) ∨
        (countPlaceholders template = args.length ∧
          ∃ stats error, Assembly.after r args (tokenize template) = .error (stats, error) ∧
            e = .assembly error) := by
  constructor
  · intro h
    by_cases hcount : countPlaceholders template = args.length
    · cases hafter : Assembly.after r args (tokenize template) with
      | ok s =>
        -- an assembly that goes through gives a query
        rw [compile, compileWithReport_of_after hcount hafter] at h
        cases h
      | error stopped =>
        rw [compile, compileWithReport_of_stopped hcount hafter] at h
        exact .inr ⟨hcount, stopped.1, stopped.2, rfl, (Except.error.inj h).symm⟩
    · rw [compile_of_mismatch hcount] at h
      exact .inl ⟨hcount, (Except.error.inj h).symm⟩
  · rintro (⟨hcount, rfl⟩ | ⟨hcount, stats, error, hafter, rfl⟩)
    · exact compile_of_mismatch hcount
    · rw [compile, compileWithReport_of_stopped hcount hafter]
      rfl

end

end QueryTemplate
