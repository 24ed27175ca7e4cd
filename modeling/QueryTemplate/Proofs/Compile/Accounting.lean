import QueryTemplate.Proofs.Assembly.Counts
import QueryTemplate.Proofs.Assembly.Reading
import QueryTemplate.Proofs.Compile.FirstOffence
import QueryTemplate.Proofs.Template.Grammar

/-!
# What a report counts

The counts of a report are foreseen twice: from the tokens of a template, and from its characters.
-/

namespace QueryTemplate

/-!
## The blocks that an assembly drops

Which blocks are dropped can be told from the tokens and the arguments before anything is assembled:
a block is dropped if a placeholder gets the skip marker behind its opening brace and before the
next closing one. At each token, the blocks already dropped, the one that is open, if it will be
dropped, and those that the tokens to come will drop make up the same number: what is foreseen comes
true.
-/

namespace Lexeme

/-- Whether the skip marker comes up among tokens before the first closing brace, or at all if there
is none. The arguments are those that the tokens take. -/
def skipsAhead : List Lexeme → List Value → Bool
  | [], _ => false
  | .blockClose :: _, _ => false
  | .placeholder _ :: rest, args => args.head?.any Value.isSkip || skipsAhead rest args.tail
  | .blockOpen :: rest, args => skipsAhead rest args
  | .literal _ :: rest, args => skipsAhead rest args

/-- The count of blocks that are opened among tokens and in which the skip marker comes up. -/
def droppedBlocks : List Lexeme → List Value → Nat
  | [], _ => 0
  | .blockOpen :: rest, args => (skipsAhead rest args).toNat + droppedBlocks rest args
  | .placeholder _ :: rest, args => droppedBlocks rest args.tail
  | .blockClose :: rest, args => droppedBlocks rest args
  | .literal _ :: rest, args => droppedBlocks rest args

end Lexeme

namespace Assembly

/-- Whether a block is open that will be dropped: the skip marker has come up in it, or will. -/
def dropsOpen (s : Assembly) (tokens : List Lexeme) : Bool :=
  match s.region with
  | .outside => false
  | .inside _ suppressed => suppressed || Lexeme.skipsAhead tokens s.remaining

/-- The count of blocks that will be dropped in the end, where `tokens` are to come. -/
def foreseen (s : Assembly) (tokens : List Lexeme) : Nat :=
  s.stats.blocksSuppressed + (s.dropsOpen tokens).toNat +
    Lexeme.droppedBlocks tokens s.remaining

variable {r : Renderer} {s s' : Assembly} {l : Lexeme} {p : Nat} {rest : List Lexeme}

theorem dropsOpen_of_outside (h : s.region = .outside) (tokens : List Lexeme) :
    s.dropsOpen tokens = false := by
  simp only [dropsOpen, h]

theorem dropsOpen_of_inside {pieces : List Text} {suppressed : Bool}
    (h : s.region = .inside pieces suppressed) (tokens : List Lexeme) :
    s.dropsOpen tokens = (suppressed || Lexeme.skipsAhead tokens s.remaining) := by
  simp only [dropsOpen, h]

@[simp] theorem put_dropsOpen (s : Assembly) (piece : Text) (tokens : List Lexeme) :
    (s.put piece).dropsOpen tokens = s.dropsOpen tokens := by
  unfold put dropsOpen
  cases s.region <;> rfl

/-- A piece changes nothing of what is foreseen. -/
@[simp] theorem put_foreseen (s : Assembly) (piece : Text) (tokens : List Lexeme) :
    (s.put piece).foreseen tokens = s.foreseen tokens := by
  simp [foreseen]

/-- The end of a block counts it as dropped if it was foreseen to be. -/
theorem closeBlock_blocksSuppressed (s : Assembly) :
    s.closeBlock.stats.blocksSuppressed =
      s.stats.blocksSuppressed + (s.dropsOpen []).toNat := by
  unfold closeBlock dropsOpen
  cases s.region with
  | outside => rfl
  | inside pieces suppressed => cases suppressed <;> rfl

/-- Outside of every block, an argument that is taken changes nothing of what is foreseen, -/
theorem take_foreseen_of_outside (h : s.region = .outside) {kind : Option Placeholder} {v : Value}
    {args : List Value} (hdue : s.remaining = v :: args) :
    (s.take args).foreseen rest = s.foreseen (.placeholder kind :: rest) := by
  rw [foreseen, foreseen, dropsOpen_of_outside h, dropsOpen_of_outside (s := s.take args) h, hdue]
  rfl

/-- and neither does one that is no skip marker. -/
theorem take_foreseen_of_noSkip {kind : Option Placeholder} {v : Value} {args : List Value}
    (hdue : s.remaining = v :: args) (hskip : v.isSkip = false) :
    (s.take args).foreseen rest = s.foreseen (.placeholder kind :: rest) := by
  cases hregion : s.region with
  | outside => exact take_foreseen_of_outside hregion hdue
  | inside pieces suppressed =>
    rw [foreseen, foreseen, dropsOpen_of_inside hregion,
      dropsOpen_of_inside (s := s.take args) hregion, hdue]
    simp [Lexeme.skipsAhead, Lexeme.droppedBlocks, hskip, Stats.countPlaceholder]

/-- A step changes nothing of what is foreseen. -/
theorem Stepped.foreseen_eq (h : Stepped r s ⟨l, p⟩ s') :
    s'.foreseen rest = s.foreseen (l :: rest) := by
  cases h with
  | literal text position =>
    rw [put_foreseen]
    rfl
  | opened position outside =>
    rw [foreseen, foreseen, dropsOpen_of_outside outside]
    exact Nat.add_assoc _ _ _
  | closed position inside =>
    -- the block is counted as dropped if it was marked, which is what was foreseen of it
    obtain ⟨pieces, suppressed, hregion⟩ := isInside_eq_true_iff.mp inside
    rw [foreseen, foreseen, closeBlock_blocksSuppressed, closeBlock_remaining,
      dropsOpen_of_outside (closeBlock_region s), dropsOpen_of_inside hregion,
      dropsOpen_of_inside hregion]
    rfl
  | marked position due inside =>
    -- the block will be dropped, before the marker and behind it
    rw [foreseen, foreseen, dropsOpen_of_inside inside, dropsOpen_of_inside rfl, due]
    simp [Lexeme.skipsAhead, Lexeme.droppedBlocks, Value.isSkip, Stats.countPlaceholder]
  | leftOut position due outside policy => exact take_foreseen_of_outside outside due
  | filled position due noSkip rendered =>
    rw [put_foreseen]
    exact take_foreseen_of_noSkip due noSkip

/-- What is foreseen comes true. -/
theorem Reads.foreseen_eq {tokens : List Lexeme} (h : Reads r s tokens s') :
    s'.foreseen [] = s.foreseen tokens := by
  induction h with
  | nil s => rfl
  | cons hstep _ ih => rw [ih, hstep.foreseen_eq]

/-- An assembly that goes through drops the blocks in which the skip marker comes up. -/
theorem blocksSuppressed_of_after {args : List Value} {tokens : List Token}
    (h : after r args tokens = .ok s) :
    s.closeBlock.stats.blocksSuppressed =
      Lexeme.droppedBlocks (tokens.map Token.lexeme) args := by
  have hforeseen := (foldlM_eq_ok_iff_reads.mp h).foreseen_eq
  rw [closeBlock_blocksSuppressed]
  -- at the beginning nothing is counted and no block is open, and at the end no token is to come
  show s.foreseen [] = _
  rw [hforeseen]
  exact Nat.zero_add _

end Assembly

/-!
## What a report counts, told from the template

The counts of a report can be told from the characters of the template and from the arguments: every
opening brace is a block, every placeholder has an argument, and a block is dropped if one of the
placeholders behind its opening brace and before the next closing one got the skip marker. None of
this asks how the template was read or assembled.
-/

namespace Text

/-- The count of placeholders before offset `p`. -/
def placeholdersBefore (t : Text) (p : Nat) : Nat :=
  (List.range p).countP fun q => (t.placeholderAt? q).isSome

/-- Whether a placeholder stands at offset `p` whose argument is the skip marker. Placeholders take
the arguments in order. -/
def skipAt (t : Text) (args : List Value) (p : Nat) : Bool :=
  (t.placeholderAt? p).isSome && args[t.placeholdersBefore p]?.any Value.isSkip

/-- The skip marker comes up at offset `p` or behind it, before the next closing brace, or anywhere
up to the end if there is none. -/
def SkipsFrom (t : Text) (args : List Value) (p : Nat) : Prop :=
  ∃ q < t.length, p ≤ q ∧ t.skipAt args q = true ∧ ∀ i < q, p ≤ i → t[i]? ≠ some '}'

instance (t : Text) (args : List Value) (p : Nat) : Decidable (t.SkipsFrom args p) :=
  inferInstanceAs (Decidable
    (∃ q < t.length, p ≤ q ∧ t.skipAt args q = true ∧ ∀ i < q, p ≤ i → t[i]? ≠ some '}'))

/-- A block opens at offset `p` in which the skip marker comes up. -/
def DropsBlock (t : Text) (args : List Value) (p : Nat) : Prop :=
  t[p]? = some '{' ∧ t.SkipsFrom args (p + 1)

instance (t : Text) (args : List Value) (p : Nat) : Decidable (t.DropsBlock args p) :=
  inferInstanceAs (Decidable (t[p]? = some '{' ∧ t.SkipsFrom args (p + 1)))

/-- The count of blocks in which the skip marker comes up. -/
def droppedBlocks (t : Text) (args : List Value) : Nat :=
  (List.range t.length).countP fun p => t.DropsBlock args p

variable {t : Text} {args : List Value} {p : Nat}

theorem placeholdersBefore_succ (t : Text) (p : Nat) :
    t.placeholdersBefore (p + 1) = t.placeholdersBefore p + (t.placeholderAt? p).isSome.toNat := by
  rw [placeholdersBefore, List.range_succ, List.countP_append, List.countP_singleton]
  cases (t.placeholderAt? p).isSome <;> rfl

/-- At the end of a text no skip marker is to come. -/
theorem not_skipsFrom_length : ¬t.SkipsFrom args t.length := by
  rintro ⟨q, hq, hle, -⟩
  omega

/-- The skip marker comes up at a character, or behind it if it is no closing brace. -/
theorem skipsFrom_iff (hp : p < t.length) :
    t.SkipsFrom args p ↔
      t.skipAt args p = true ∨ (t[p]? ≠ some '}' ∧ t.SkipsFrom args (p + 1)) := by
  constructor
  · rintro ⟨q, hq, hle, hskip, hclose⟩
    by_cases heq : q = p
    · exact .inl (heq ▸ hskip)
    · have hlt : p < q := by omega
      exact .inr ⟨hclose p hlt (Nat.le_refl p), q, hq, hlt, hskip,
        fun i hi hpi => hclose i hi (Nat.le_of_succ_le hpi)⟩
  · rintro (hskip | ⟨hhere, q, hq, hle, hskip, hclose⟩)
    · exact ⟨p, hp, Nat.le_refl p, hskip, fun i hi hpi => absurd hi (by omega)⟩
    · refine ⟨q, hq, by omega, hskip, fun i hi hpi => ?_⟩
      by_cases heq : i = p
      · rwa [heq]
      · exact hclose i hi (by omega)

end Text

/-! ### Literals have no part in it -/

namespace Lexeme

/-- Literals do not bring up the skip marker. -/
theorem skipsAhead_filter_isMark (tokens : List Token) (args : List Value) :
    skipsAhead ((tokens.filter Token.isMark).map Token.lexeme) args =
      skipsAhead (tokens.map Token.lexeme) args := by
  induction tokens generalizing args with
  | nil => rfl
  | cons t rest ih =>
    obtain ⟨lexeme, position⟩ := t
    cases lexeme with
    | literal text => exact ih args
    | placeholder kind => exact congrArg _ (ih args.tail)
    | blockOpen => exact ih args
    | blockClose => rfl

/-- Literals do not open blocks. -/
theorem droppedBlocks_filter_isMark (tokens : List Token) (args : List Value) :
    droppedBlocks ((tokens.filter Token.isMark).map Token.lexeme) args =
      droppedBlocks (tokens.map Token.lexeme) args := by
  induction tokens generalizing args with
  | nil => rfl
  | cons t rest ih =>
    obtain ⟨lexeme, position⟩ := t
    cases lexeme with
    | literal text => exact ih args
    | placeholder kind => exact ih args.tail
    | blockOpen =>
      show (skipsAhead ((rest.filter Token.isMark).map Token.lexeme) args).toNat +
        droppedBlocks ((rest.filter Token.isMark).map Token.lexeme) args = _
      rw [skipsAhead_filter_isMark, ih]
      rfl
    | blockClose => exact ih args

end Lexeme

/-! ### What the characters say -/

namespace Text

/-- The braces and placeholders among `n` characters from offset `p` on, without their positions. -/
def marksBehind (t : Text) (p n : Nat) : List Lexeme := (List.range' p n).filterMap t.markAt?

/-- All of them are what the rule finds in the text. -/
theorem map_lexeme_marksFrom (t : Text) :
    (marksFrom 0 t).map Token.lexeme = t.marksBehind 0 t.length := by
  rw [marksFrom, List.map_filterMap, marksBehind, ← List.range_eq_range']
  refine List.filterMap_congr fun p _ => ?_
  cases t.markAt? p <;> rfl

variable {t : Text} {args : List Value}

/-- What is found at a character, and then what is found behind it. -/
theorem marksBehind_succ (t : Text) (p n : Nat) :
    t.marksBehind p (n + 1) = (t.markAt? p).toList ++ t.marksBehind (p + 1) n := by
  rw [marksBehind, List.range'_succ, List.filterMap_cons]
  cases t.markAt? p <;> rfl

/-- A placeholder stands at an offset if the rule finds one there. -/
theorem isSome_placeholderAt? (t : Text) (p : Nat) :
    (t.placeholderAt? p).isSome = (t.markAt? p).any Lexeme.isPlaceholder := by
  cases hplaceholder : t.placeholderAt? p with
  | some k =>
    rw [markAt?_eq_placeholder_iff.mpr ⟨k, rfl, hplaceholder⟩]
    rfl
  | none =>
    cases hmark : t.markAt? p with
    | none => rfl
    | some l =>
      cases l with
      | placeholder kind =>
        obtain ⟨k, -, hk⟩ := markAt?_eq_placeholder_iff.mp hmark
        rw [hplaceholder] at hk
        cases hk
      | _ => rfl

/-- The arguments to come behind a character: a placeholder takes the first one. -/
theorem drop_placeholdersBefore_succ (t : Text) (args : List Value) (p : Nat) :
    args.drop (t.placeholdersBefore (p + 1)) =
      if (t.placeholderAt? p).isSome then (args.drop (t.placeholdersBefore p)).tail
      else args.drop (t.placeholdersBefore p) := by
  rw [placeholdersBefore_succ]
  cases (t.placeholderAt? p).isSome with
  | true => exact List.tail_drop.symm
  | false => rfl

/-- Among the braces and placeholders from an offset on, the skip marker comes up as it does among
the characters. -/
theorem skipsAhead_marksBehind {p n : Nat} (h : p + n = t.length) :
    Lexeme.skipsAhead (t.marksBehind p n) (args.drop (t.placeholdersBefore p)) = true ↔
      t.SkipsFrom args p := by
  induction n generalizing p with
  | zero =>
    obtain rfl : p = t.length := h
    simp [marksBehind, Lexeme.skipsAhead, not_skipsFrom_length]
  | succ n ih =>
    have hrest := ih (p := p + 1) (by omega)
    rw [drop_placeholdersBefore_succ, isSome_placeholderAt?] at hrest
    rw [marksBehind_succ, skipsFrom_iff (by omega), skipAt, isSome_placeholderAt?,
      ← List.head?_drop, ne_eq, ← markAt?_eq_blockClose_iff, ← hrest]
    cases t.markAt? p with
    | none => simp
    | some l => cases l <;> simp [Lexeme.skipsAhead, Lexeme.isPlaceholder]

/-- Among the braces and placeholders from an offset on, as many blocks are dropped as among the
characters. -/
theorem droppedBlocks_marksBehind {p n : Nat} (h : p + n = t.length) :
    Lexeme.droppedBlocks (t.marksBehind p n) (args.drop (t.placeholdersBefore p)) =
      (List.range' p n).countP fun q => t.DropsBlock args q := by
  induction n generalizing p with
  | zero => rfl
  | succ n ih =>
    have hrest := ih (p := p + 1) (by omega)
    have hahead : Lexeme.skipsAhead (t.marksBehind (p + 1) n)
        (args.drop (t.placeholdersBefore (p + 1))) = true ↔ t.SkipsFrom args (p + 1) :=
      skipsAhead_marksBehind (by omega)
    rw [drop_placeholdersBefore_succ, isSome_placeholderAt?] at hrest hahead
    rw [marksBehind_succ, List.range'_succ, List.countP_cons, ← hrest]
    simp only [DropsBlock, ← markAt?_eq_blockOpen_iff, ← hahead]
    -- only a block that opens at `p` can add to the count
    cases t.markAt? p with
    | none => simp
    | some l =>
      cases l with
      | blockOpen =>
        cases hskip : Lexeme.skipsAhead (t.marksBehind (p + 1) n)
          (args.drop (t.placeholdersBefore p)) <;>
            simp [Lexeme.droppedBlocks, Lexeme.isPlaceholder, hskip, Nat.add_comm]
      | _ => simp [Lexeme.droppedBlocks, Lexeme.isPlaceholder]

end Text

/-! ### The blocks of a template -/

/-- The tokens of a template drop as many blocks as its characters say. -/
theorem droppedBlocks_tokenize (template : Text) (args : List Value) :
    Lexeme.droppedBlocks ((tokenize template).map Token.lexeme) args =
      template.droppedBlocks args := by
  rw [← Lexeme.droppedBlocks_filter_isMark, filter_isMark_tokenize, Text.map_lexeme_marksFrom,
    Text.droppedBlocks, List.range_eq_range']
  exact Text.droppedBlocks_marksBehind (Nat.zero_add _)

/-- A character is found as often as there are offsets at which it stands. -/
theorem Text.countP_range_eq_count (t : Text) (c : Char) :
    (List.range t.length).countP (fun p => t[p]? = some c) = t.count c := by
  induction t with
  | nil => rfl
  | cons d rest ih =>
    rw [List.length_cons, List.range_succ_eq_map, List.countP_cons, List.countP_map,
      List.count_cons, ← ih]
    simp [Function.comp_def]

/-- Of the tokens of a template that are no literals, as many have a property as of what the rule
finds at its characters. -/
theorem countP_tokenize {P : Lexeme → Bool} (hliteral : ∀ text, P (.literal text) = false)
    (template : Text) :
    (tokenize template).countP (fun t => P t.lexeme) =
      (List.range template.length).countP fun p => (template.markAt? p).any P := by
  have hmarks : (tokenize template).countP (fun t => P t.lexeme) =
      ((tokenize template).filter Token.isMark).countP fun t => P t.lexeme := by
    rw [List.countP_filter]
    refine List.countP_congr fun t _ => ?_
    obtain ⟨lexeme, position⟩ := t
    cases lexeme with
    | literal text => simp [hliteral text]
    | _ => simp [Token.isMark]
  rw [hmarks, filter_isMark_tokenize, marksFrom, List.countP_filterMap]
  refine List.countP_congr fun p _ => ?_
  cases template.markAt? p <;> simp

/-- The tokens of a template open as many blocks as there are opening braces. -/
theorem openCount_tokenize (template : Text) :
    Token.openCount (tokenize template) = template.count '{' := by
  rw [Token.openCount, countP_tokenize (P := (· = .blockOpen)) (fun _ => rfl),
    ← Text.countP_range_eq_count]
  refine List.countP_congr fun p _ => ?_
  rw [decide_eq_true_iff, ← Text.markAt?_eq_blockOpen_iff]
  cases template.markAt? p <;> simp

/-- The placeholders that are counted against the arguments are those among the tokens. -/
theorem placeholderCount_tokenize (template : Text) :
    Token.placeholderCount (tokenize template) = countPlaceholders template := by
  rw [← length_kinds_tokenize, Token.length_kinds]
  rfl

/-- The counts of a report. The placeholders are the arguments, as many as are counted in the
template; the blocks are the opening braces of the template; the dropped ones are those in which the
skip marker comes up; and the query is the one that is compiled without a report. -/
theorem compileWithReport_accounts {r : Renderer} {template : Text} {args : List Value}
    {report : Report} (h : compileWithReport r template args = .ok report) :
    report.stats.placeholders = report.arguments ∧
      report.arguments = args.length ∧
      args.length = countPlaceholders template ∧
      report.stats.blocksEmitted + report.stats.blocksSuppressed = template.count '{' ∧
      report.stats.blocksSuppressed = template.droppedBlocks args ∧
      compile r template args = .ok report.sql := by
  have hsql := compile_eq_ok_iff_report.mpr ⟨report, h, rfl⟩
  obtain ⟨hcount, s, hafter, rfl⟩ := compileWithReport_eq_ok_iff_after.mp h
  obtain ⟨hplaceholders, hblocks⟩ := (Assembly.counted_of_after hafter).closeBlock
  refine ⟨?_, rfl, hcount.symm, ?_, ?_, hsql⟩
  · rw [hplaceholders, placeholderCount_tokenize, hcount]
  · rw [← openCount_tokenize, ← hblocks]
    rfl
  · rw [← droppedBlocks_tokenize]
    exact Assembly.blocksSuppressed_of_after hafter

/-- A block that is dropped for the second of its placeholders, an empty one, and one that is
dropped without ever being closed. -/
theorem compileWithReport_accounts_open_block :
    ∃ report, compileWithReport ⟨.default, backslashEscaper⟩ "a\x7b?d ? \x7d\x7b\x7d\x7bb ?".toList
        [.int 1, .skip, .skip] = .ok report ∧
      report.stats.placeholders = 3 ∧ report.stats.blocksSuppressed = 2 ∧
      report.stats.blocksEmitted + report.stats.blocksSuppressed = 3 := by
  have hreport : compileWithReport ⟨.default, backslashEscaper⟩
      "a\x7b?d ? \x7d\x7b\x7d\x7bb ?".toList [.int 1, .skip, .skip] =
        .ok ⟨['a'], "a\x7b?d ? \x7d\x7b\x7d\x7bb ?".toList, 3, ⟨3, 1, 2⟩, .default⟩ := by
    decide +kernel
  obtain ⟨hplaceholders, harguments, -, hblocks, hdropped, -⟩ := compileWithReport_accounts hreport
  exact ⟨_, hreport, hplaceholders.trans harguments, hdropped.trans (by decide +kernel),
    hblocks.trans (by decide +kernel)⟩

end QueryTemplate
