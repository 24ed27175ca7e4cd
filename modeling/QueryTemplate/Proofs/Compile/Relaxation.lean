import QueryTemplate.Proofs.Assembly.Reading
import QueryTemplate.Proofs.Compile.FirstOffence
import QueryTemplate.Proofs.Numeral.Grammar
import QueryTemplate.Render

/-!
# Relaxed settings

The three settings of a compilation can be relaxed one by one. What was rendered and compiled before
is rendered and compiled still, and to the same text.
-/

namespace QueryTemplate

/-!
## Settings that accept more

Three settings can be relaxed: texts are read loosely instead of strictly, a skip marker outside of
every block is left out instead of refused, and names are not checked. What was accepted before is
accepted still, and rendered into the same text. For texts in the place of numbers there is
something to show: the strict reading wants a text that is a numeral as a whole, the loose one takes
the longest numeral at its start, and where the first is content both find the same.
-/

section

/-- The second coercion is the first one, or the loose one in the place of the strict one. -/
def Coercion.Relaxes (c c' : Coercion) : Prop := c' = c ∨ (c = .strict ∧ c' = .loose)

/-- The second settings are the first ones with any of the three relaxed. -/
structure Options.Relaxes (o o' : Options) : Prop where
  /-- Texts are read as before, or loosely instead of strictly. -/
  coercion : o.coercion.Relaxes o'.coercion
  /-- A skip marker outside of blocks means what it meant, or is left out instead of refused. -/
  skip : o'.skipOutsideBlock = o.skipOutsideBlock ∨
    (o.skipOutsideBlock = .refuse ∧ o'.skipOutsideBlock = .leaveOut)
  /-- Names are checked as before, or no longer. -/
  names : o'.validateIdentifiers = o.validateIdentifiers ∨
    (o.validateIdentifiers = true ∧ o'.validateIdentifiers = false)

/-- Whatever the first computation succeeds with, the second one does. -/
def Keeps {ε α : Type} (x y : Except ε α) : Prop := ∀ a, x = .ok a → y = .ok a

namespace Keeps

variable {ε α β : Type} {x y : Except ε α}

theorem refl (x : Except ε α) : Keeps x x := fun _ h => h

/-- A computation that fails succeeds with nothing. -/
theorem error (e : ε) (y : Except ε α) : Keeps (.error e) y := by
  intro a h
  cases h

/-- One computation after another. -/
theorem bind {f g : α → Except ε β} (h : Keeps x y) (hfg : ∀ a, Keeps (f a) (g a)) :
    Keeps (x >>= f) (y >>= g) := by
  cases x with
  | error e => exact .error e _
  | ok a =>
    rw [h a rfl]
    exact hfg a

/-- A computation for each item of a list. -/
theorem mapM {f g : α → Except ε β} (hfg : ∀ a, Keeps (f a) (g a)) (items : List α) :
    Keeps (items.mapM f) (items.mapM g) := by
  induction items with
  | nil => exact .refl _
  | cons item rest ih =>
    rw [List.mapM_cons, List.mapM_cons]
    exact (hfg item).bind fun _ => ih.bind fun _ => .refl _

end Keeps

/-! ### Numbers -/

variable {c c' : Coercion}

/-- An integer that fits is not clamped. -/
theorem fitInteger_keeps (h : c.Relaxes c') (i : Int) :
    Keeps (fitInteger c i) (fitInteger c' i) := by
  rcases h with rfl | ⟨rfl, rfl⟩
  · exact .refl _
  · unfold fitInteger
    split
    · exact .refl _
    · exact .error _ _

/-- A text that is a numeral as a whole begins with that numeral, and with no longer one. -/
theorem Numeral.read?_of_readAll? {t : Text} {found : Numeral × Text}
    (h : readAll? t = some found) : read? t = some found := by
  obtain ⟨n, rest⟩ := found
  obtain ⟨hformed, hblank, rfl⟩ := readAll?_eq_some_iff.mp h
  exact read?_text_append hformed fun c hc => hblank c (List.mem_of_mem_head? hc)

/-- A text that is an integer as a whole begins with that integer, and not with a longer numeral. -/
theorem integerOfText_keeps (h : c.Relaxes c') (t shown : Text) :
    Keeps (integerOfText c t shown) (integerOfText c' t shown) := by
  rcases h with rfl | ⟨rfl, rfl⟩
  · exact .refl _
  · unfold integerOfText
    cases hall : Numeral.readAll? t with
    | none => exact .error _ _
    | some found =>
      rw [Numeral.read?_of_readAll? hall]
      simp only
      by_cases hinteger : found.1.isInteger = true
      · rw [if_pos hinteger, if_pos hinteger]
        exact .refl _
      · rw [if_neg hinteger]
        exact .error _ _

/-- A text that is a number as a whole begins with that number. What may not stand around it may not
stand in front of it either. -/
theorem floatOfText_keeps (h : c.Relaxes c') (t shown : Text) :
    Keeps (floatOfText c t shown) (floatOfText c' t shown) := by
  rcases h with rfl | ⟨rfl, rfl⟩
  · exact .refl _
  · unfold floatOfText
    cases hall : Numeral.readAll? t with
    | none => exact .error _ _
    | some found =>
      rw [Numeral.read?_of_readAll? hall]
      simp only
      cases hlead : spoilsNumber found.1.lead with
      | true =>
        rw [Bool.true_or, if_pos rfl]
        exact .error _ _
      | false =>
        rw [Bool.false_or, if_neg Bool.false_ne_true]
        split
        · exact .error _ _
        · exact .refl _

/-! ### Arguments -/

namespace Renderer

variable {o o' : Options} (h : o.Relaxes o') (esc : Escaper)

include h

/-- A name that passes the check is not changed by it. -/
theorem quoteName_keeps (characters shown written : Text) :
    Keeps (quoteName ⟨o, esc⟩ characters shown written)
      (quoteName ⟨o', esc⟩ characters shown written) := by
  unfold quoteName
  rcases h.names with heq | ⟨hchecked, hunchecked⟩
  · simp only [heq]
    exact .refl _
  · simp only [hchecked, hunchecked, Bool.true_and, Bool.false_and, Bool.false_eq_true, if_false]
    split
    · exact .error _ _
    · split
      · exact .error _ _
      · exact .refl _

theorem fittedText_keeps (i : Int) :
    Keeps (fittedText ⟨o, esc⟩ i) (fittedText ⟨o', esc⟩ i) :=
  (fitInteger_keeps h.coercion i).bind fun _ => .refl _

theorem integer_keeps (v : Value) : Keeps (integer ⟨o, esc⟩ v) (integer ⟨o', esc⟩ v) := by
  unfold integer
  split
  · exact .refl _
  · exact .refl _
  · exact fittedText_keeps h esc _
  · split
    · exact fittedText_keeps h esc _
    · exact .refl _
  · exact (integerOfText_keeps h.coercion _ _).bind fun i => fittedText_keeps h esc i
  · exact (integerOfText_keeps h.coercion _ _).bind fun i => fittedText_keeps h esc i
  · exact .refl _

theorem float_keeps (v : Value) : Keeps (float ⟨o, esc⟩ v) (float ⟨o', esc⟩ v) := by
  unfold float
  split
  · exact .refl _
  · exact .refl _
  · exact .refl _
  · exact .refl _
  · exact (floatOfText_keeps h.coercion _ _).bind fun _ => .refl _
  · exact (floatOfText_keeps h.coercion _ _).bind fun _ => .refl _
  · exact .refl _

theorem listedIdentifier_keeps (item : Value) :
    Keeps (listedIdentifier ⟨o, esc⟩ item) (listedIdentifier ⟨o', esc⟩ item) := by
  unfold listedIdentifier
  split
  · exact quoteName_keeps h esc _ _ _
  · exact quoteName_keeps h esc _ _ _
  · exact .refl _

theorem identifier_keeps (v : Value) :
    Keeps (identifier ⟨o, esc⟩ v) (identifier ⟨o', esc⟩ v) := by
  unfold identifier
  split
  · exact quoteName_keeps h esc _ _ _
  · exact quoteName_keeps h esc _ _ _
  · exact (Keeps.mapM (listedIdentifier_keeps h esc) _).bind fun _ => .refl _
  · exact .refl _

/-- No setting has a part in a scalar, and in a pair only the check of names has. -/
theorem pair_keeps (entry : Value × Value) :
    Keeps (pair ⟨o, esc⟩ entry) (pair ⟨o', esc⟩ entry) :=
  (Keeps.refl (keyName entry.1)).bind fun _ =>
    (quoteName_keeps h esc _ _ _).bind fun _ =>
      (Keeps.refl (scalar ⟨o, esc⟩ entry.2)).bind fun _ => .refl _

theorem array_keeps (v : Value) : Keeps (array ⟨o, esc⟩ v) (array ⟨o', esc⟩ v) := by
  unfold array
  split
  · exact .refl _
  · exact (Keeps.mapM (pair_keeps h esc) _).bind fun _ => .refl _
  · exact .refl _

/-- An argument that has a text under settings has the same text under settings that accept more. -/
theorem render_keeps (k : Placeholder) (v : Value) :
    Keeps (render ⟨o, esc⟩ k v) (render ⟨o', esc⟩ k v) := by
  cases k with
  | generic => exact .refl _
  | integer => exact integer_keeps h esc v
  | float => exact float_keeps h esc v
  | identifier => exact identifier_keeps h esc v
  | array => exact array_keeps h esc v

end Renderer

end

/-!
## Relaxed settings change no query

What compiles under some settings compiles under settings that accept more, into the same query with
the same counts: every step of the assembly under the first settings is a step under the second.
-/

section

variable {o o' : Options} {esc : Escaper}

namespace Assembly

variable {s s' : Assembly}

/-- A step under some settings is a step under settings that accept more. -/
theorem Stepped.relaxed (h : o.Relaxes o') {t : Token} (hstep : Stepped ⟨o, esc⟩ s t s') :
    Stepped ⟨o', esc⟩ s t s' := by
  cases hstep with
  | literal text position => exact .literal text position
  | opened position outside => exact .opened position outside
  | closed position inside => exact .closed position inside
  | marked position due inside => exact .marked position due inside
  | leftOut position due outside policy =>
    -- a skip marker that was left out is not refused by settings that accept more
    have hpolicy : o'.skipOutsideBlock = .leaveOut := by
      rcases h.skip with heq | ⟨-, hrelaxed⟩
      · rw [heq]
        exact policy
      · exact hrelaxed
    exact .leftOut position due outside hpolicy
  | filled position due noSkip rendered =>
    exact .filled position due noSkip (Renderer.render_keeps h esc _ _ _ rendered)

/-- Tokens that are gone through under some settings are gone through in the same way under settings
that accept more. -/
theorem Reads.relaxed (h : o.Relaxes o') {tokens : List Lexeme}
    (hreads : Reads ⟨o, esc⟩ s tokens s') : Reads ⟨o', esc⟩ s tokens s' := by
  induction hreads with
  | nil s => exact .nil s
  | cons hstep _ ih => exact .cons (hstep.relaxed h) ih

end Assembly

variable {template : Text} {args : List Value}

/-- A report under some settings is the report under settings that accept more, but for the settings
in it. -/
theorem compileWithReport_of_relaxes (h : o.Relaxes o') {report : Report}
    (hreport : compileWithReport ⟨o, esc⟩ template args = .ok report) :
    compileWithReport ⟨o', esc⟩ template args = .ok { report with options := o' } := by
  obtain ⟨hcount, s, hafter, rfl⟩ := compileWithReport_eq_ok_iff_after.mp hreport
  have hreads := Assembly.foldlM_eq_ok_iff_reads.mp hafter
  have hafter' := Assembly.foldlM_eq_ok_iff_reads.mpr (hreads.relaxed h)
  exact compileWithReport_eq_ok_iff_after.mpr ⟨hcount, s, hafter', rfl⟩

/-- Whatever compiles under some settings compiles under settings that accept more, into the same
query, and the two reports differ in the settings only. -/
theorem compile_of_relaxes (h : o.Relaxes o') {sql : Text}
    (hsql : compile ⟨o, esc⟩ template args = .ok sql) :
    compile ⟨o', esc⟩ template args = .ok sql ∧
      ∃ report, compileWithReport ⟨o, esc⟩ template args = .ok report ∧
        compileWithReport ⟨o', esc⟩ template args = .ok { report with options := o' } := by
  obtain ⟨report, hreport, rfl⟩ := compile_eq_ok_iff_report.mp hsql
  have hreport' := compileWithReport_of_relaxes h hreport
  exact ⟨compile_eq_ok_iff_report.mpr ⟨_, hreport', rfl⟩, report, hreport, hreport'⟩

/-- All three settings relaxed, on a checked name, a dropped block, and a numeral with a sign, a
zero in front and blanks around it. -/
theorem compile_of_relaxes_all :
    compile ⟨⟨.loose, .leaveOut, false⟩, backslashEscaper⟩ "?# \x7b?d\x7d ?d".toList
        [.text "n".toList, .skip, .text " +07 ".toList] =
      .ok "`n`  7".toList := by
  have hrelaxes : Options.Relaxes ⟨.strict, .refuse, true⟩ ⟨.loose, .leaveOut, false⟩ :=
    ⟨.inr ⟨rfl, rfl⟩, .inr ⟨rfl, rfl⟩, .inr ⟨rfl, rfl⟩⟩
  have hstrict : compile ⟨⟨.strict, .refuse, true⟩, backslashEscaper⟩ "?# \x7b?d\x7d ?d".toList
      [.text "n".toList, .skip, .text " +07 ".toList] =
        .ok "`n`  7".toList := by
    decide +kernel
  exact (compile_of_relaxes hrelaxes hstrict).1

end

end QueryTemplate
