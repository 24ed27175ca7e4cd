import QueryTemplate.Proofs.Assembly.Offence

/-!
# What an assembly counts

The counts of an assembly follow from the tokens behind it: every placeholder is counted as it gets
its argument, and every block at its end, as emitted or as dropped. A block that is still open at
the end of the tokens is counted there, so that an assembly that goes through has counted every
block that was opened. One that is stopped has counted what is behind, and the placeholder that
stopped it as well, if an argument was left for it.
-/

namespace QueryTemplate

/-- The blocks that were counted, emitted or dropped. -/
def Stats.blocks (s : Stats) : Nat := s.blocksEmitted + s.blocksSuppressed

@[simp] theorem Stats.blocks_countPlaceholder (s : Stats) :
    s.countPlaceholder.blocks = s.blocks := rfl

@[simp] theorem Stats.placeholders_countPlaceholder (s : Stats) :
    s.countPlaceholder.placeholders = s.placeholders + 1 := rfl

/-- A block is counted once, whether it is emitted or dropped. -/
@[simp] theorem Stats.blocks_countBlock (s : Stats) (suppressed : Bool) :
    (s.countBlock suppressed).blocks = s.blocks + 1 := by
  cases suppressed
  · exact Nat.add_right_comm _ _ _
  · rfl

@[simp] theorem Stats.placeholders_countBlock (s : Stats) (suppressed : Bool) :
    (s.countBlock suppressed).placeholders = s.placeholders := by
  cases suppressed <;> rfl

namespace Token

/-- The count of placeholders among tokens. -/
def placeholderCount (tokens : List Token) : Nat := tokens.countP (·.lexeme.isPlaceholder)

/-- The count of blocks that tokens open. -/
def openCount (tokens : List Token) : Nat := tokens.countP (·.lexeme = .blockOpen)

/-- The count of blocks that tokens close. -/
def closeCount (tokens : List Token) : Nat := tokens.countP (·.lexeme = .blockClose)

/-- A token is a placeholder or not. -/
@[simp] theorem placeholderCount_concat (before : List Token) (l : Lexeme) (position : Nat) :
    placeholderCount (before ++ [⟨l, position⟩]) =
      placeholderCount before + l.isPlaceholder.toNat := by
  rw [placeholderCount, List.countP_append, List.countP_singleton]
  cases l <;> rfl

/-- A token opens a block or not. -/
@[simp] theorem openCount_concat (before : List Token) (l : Lexeme) (position : Nat) :
    openCount (before ++ [⟨l, position⟩]) =
      openCount before + (decide (l = .blockOpen)).toNat := by
  rw [openCount, List.countP_append, List.countP_singleton]
  cases l <;> rfl

/-- A token closes a block or not. -/
@[simp] theorem closeCount_concat (before : List Token) (l : Lexeme) (position : Nat) :
    closeCount (before ++ [⟨l, position⟩]) =
      closeCount before + (decide (l = .blockClose)).toNat := by
  rw [closeCount, List.countP_append, List.countP_singleton]
  cases l <;> rfl

end Token

namespace Assembly

@[simp] theorem put_stats (s : Assembly) (piece : Text) : (s.put piece).stats = s.stats := by
  unfold put
  split <;> rfl

@[simp] theorem take_stats (s : Assembly) (rest : List Value) :
    (s.take rest).stats = s.stats.countPlaceholder := rfl

/-- The end of a block counts it, and touches no other count. -/
theorem closeBlock_stats (s : Assembly) :
    s.closeBlock.stats.blocks = s.stats.blocks + s.isInside.toNat ∧
      s.closeBlock.stats.placeholders = s.stats.placeholders := by
  unfold closeBlock isInside
  cases s.region with
  | outside => exact ⟨rfl, rfl⟩
  | inside pieces suppressed => simp

/-- What is counted behind tokens: their placeholders, and the blocks they have closed. The blocks
they have opened are these and the one that is open, if one is. -/
structure Counted (before : List Token) (s : Assembly) : Prop where
  placeholders_eq : s.stats.placeholders = Token.placeholderCount before
  blocks_eq : s.stats.blocks = Token.closeCount before
  opened_eq : Token.openCount before = Token.closeCount before + s.isInside.toNat

/-- At the beginning nothing is counted. -/
theorem Counted.start (args : List Value) : Counted [] (start args) := ⟨rfl, rfl, rfl⟩

variable {r : Renderer} {args : List Value} {before : List Token} {s s' : Assembly} {t : Token}

/-- A step counts its token. -/
theorem Counted.step (h : Counted before s) (hstep : s.step r t = .ok s') :
    Counted (before ++ [t]) s' := by
  obtain ⟨hplaceholders, hblocks, hopened⟩ := h
  cases step_eq_ok_iff.mp hstep with
  | literal text position =>
    exact ⟨by simpa [Lexeme.isPlaceholder] using hplaceholders, by simpa using hblocks,
      by simpa using hopened⟩
  | opened position outside =>
    refine ⟨by simpa [Lexeme.isPlaceholder] using hplaceholders, by simpa using hblocks, ?_⟩
    -- no block was open, and one is open now
    rw [isInside_eq_false_iff.mpr outside] at hopened
    simp [hopened, isInside]
  | closed position inside =>
    obtain ⟨hclosed, hkept⟩ := closeBlock_stats s
    refine ⟨by simpa [hkept, Lexeme.isPlaceholder] using hplaceholders, ?_, ?_⟩
    · simp [hclosed, hblocks, inside]
    · simp [hopened, inside, isInside_eq_false_iff.mpr (closeBlock_region s)]
  | marked position due inside =>
    -- the block that is marked stays open
    refine ⟨by simp [hplaceholders, Lexeme.isPlaceholder], by simpa using hblocks, ?_⟩
    rw [isInside_eq_true_iff.mpr ⟨_, _, inside⟩] at hopened
    simpa [isInside] using hopened
  | leftOut position due outside policy =>
    exact ⟨by simp [hplaceholders, Lexeme.isPlaceholder], by simpa using hblocks,
      by simpa using hopened⟩
  | filled position due noSkip rendered =>
    exact ⟨by simp [hplaceholders, Lexeme.isPlaceholder], by simpa using hblocks,
      by simpa using hopened⟩

/-- Every state that is reached has counted the tokens that led to it. -/
theorem counted_of_after {tokens : List Token} (h : after r args tokens = .ok s) :
    Counted tokens s :=
  after_induction (.start args) Counted.step h

/-- At the end of the tokens, every block that was opened is counted. -/
theorem Counted.closeBlock (h : Counted before s) :
    s.closeBlock.stats.placeholders = Token.placeholderCount before ∧
      s.closeBlock.stats.blocks = Token.openCount before := by
  obtain ⟨hclosed, hkept⟩ := closeBlock_stats s
  exact ⟨by rw [hkept, h.placeholders_eq], by rw [hclosed, h.blocks_eq, h.opened_eq]⟩

/-! ## The token that stops an assembly -/

/-- A placeholder whose argument stops the assembly is counted. -/
theorem stats_of_substitute_error {kind : Option Placeholder} {position : Nat} {v : Value}
    {rest : List Value} {stats : Stats} {e : AssemblyError}
    (h : s.substitute r kind position v rest = .error (stats, e)) :
    stats = s.stats.countPlaceholder := by
  unfold substitute at h
  -- wherever it fails, the argument is taken
  by_cases hskip : v.isSkip = true
  · simp only [hskip, if_true] at h
    cases hmarked : (s.take rest).skip r with
    | ok skipped => simp [hmarked] at h
    | error fault =>
      simp only [hmarked] at h
      cases h
      rfl
  · simp only [hskip, if_false, Bool.false_eq_true] at h
    cases kind with
    | none =>
      cases h
      rfl
    | some k =>
      cases hrender : r.render k v with
      | ok piece => simp [hrender] at h
      | error fault =>
        simp only [hrender] at h
        cases h
        rfl

/-- The token that stops an assembly is counted if it is a placeholder and an argument is left. -/
theorem stats_of_step_error {stats : Stats} {e : AssemblyError}
    (h : s.step r t = .error (stats, e)) :
    stats = if t.lexeme.isPlaceholder ∧ s.remaining ≠ [] then s.stats.countPlaceholder
      else s.stats := by
  obtain ⟨lexeme, position⟩ := t
  cases lexeme with
  | literal text => cases h
  | blockOpen =>
    cases hregion : s.region with
    | outside => simp [step, hregion] at h
    | inside pieces suppressed =>
      simp only [step, hregion] at h
      cases h
      rfl
  | blockClose =>
    cases hregion : s.region with
    | outside =>
      simp only [step, hregion] at h
      cases h
      rfl
    | inside pieces suppressed => simp [step, hregion] at h
  | placeholder kind =>
    cases hdue : s.remaining with
    | nil =>
      -- nothing is taken where no argument is left
      simp only [step, hdue] at h
      cases h
      simp
    | cons v rest =>
      simp only [step, hdue] at h
      rw [stats_of_substitute_error h]
      simp [Lexeme.isPlaceholder]

/-- The token `t` of index `j` stops the assembly: those before it go through, and it does not. -/
structure StopsAt (r : Renderer) (args : List Value) (tokens : List Token) (j : Nat) (t : Token)
    (stopped : Stopped) : Prop where
  token_eq : tokens[j]? = some t
  step_eq : ∃ s, after r args (tokens.take j) = .ok s ∧ s.step r t = .error stopped

/-- An assembly that does not go through is stopped by one of its tokens. -/
theorem exists_stopsAt {tokens : List Token} {stopped : Stopped}
    (h : after r args tokens = .error stopped) : ∃ j t, StopsAt r args tokens j t stopped := by
  induction tokens using List.reverseRec generalizing stopped with
  | nil => cases h
  | append_singleton tokens t ih =>
    rw [after_concat] at h
    cases hmid : after r args tokens with
    | error early =>
      -- stopped before the last token: the same token stops it there
      rw [hmid] at h
      cases h
      obtain ⟨j, found, htoken, hstep⟩ := ih hmid
      have hj := (List.getElem?_eq_some_iff.mp htoken).1
      refine ⟨j, found, ?_, ?_⟩
      · rw [List.getElem?_append_left hj]
        exact htoken
      · rwa [List.take_append_of_le_length (Nat.le_of_lt hj)]
    | ok mid =>
      rw [hmid] at h
      refine ⟨tokens.length, t, ?_, mid, ?_, h⟩
      · rw [List.getElem?_append_right (Nat.le_refl _), Nat.sub_self]
        rfl
      · rwa [List.take_left]

/-- An argument is left where fewer placeholders are behind than there are arguments. -/
theorem Behind.remaining_ne_nil_iff (h : Behind args before s) :
    s.remaining ≠ [] ↔ Token.placeholderCount before < args.length := by
  rw [h.remaining_eq, h.index_eq, Token.length_kinds, ne_eq, List.drop_eq_nil_iff, Nat.not_le]
  rfl

/-- What is counted where an assembly is stopped: the placeholders before the token that stops it,
this token as well if it is a placeholder and an argument is left for it, and the blocks that are
closed before it. -/
theorem StopsAt.counts {tokens : List Token} {j : Nat} {stats : Stats} {e : AssemblyError}
    (h : StopsAt r args tokens j t (stats, e)) :
    stats.placeholders = Token.placeholderCount (tokens.take j) +
        (if t.lexeme.isPlaceholder ∧ Token.placeholderCount (tokens.take j) < args.length then 1
          else 0) ∧
      stats.blocks = Token.closeCount (tokens.take j) := by
  obtain ⟨-, s, hafter, hstep⟩ := h
  have hcounted := counted_of_after hafter
  rw [stats_of_step_error hstep]
  simp only [(behind_of_after hafter).remaining_ne_nil_iff, ← hcounted.placeholders_eq,
    ← hcounted.blocks_eq]
  split <;> exact ⟨rfl, rfl⟩

end Assembly

variable {r : Renderer} {args : List Value} {tokens : List Token} {stats : Stats}

/-- An assembly that goes through has counted its placeholders and its blocks. -/
theorem counts_of_assemble_ok {sql : Text} (h : assemble r tokens args = (stats, .ok sql)) :
    stats.placeholders = Token.placeholderCount tokens ∧
      stats.blocks = Token.openCount tokens := by
  cases hafter : Assembly.after r args tokens with
  | ok s =>
    rw [assemble_of_after hafter] at h
    cases h
    exact (Assembly.counted_of_after hafter).closeBlock
  | error stopped =>
    rw [assemble_of_stopped hafter] at h
    cases h

/-- An assembly that is stopped has counted what is before the token that stops it. -/
theorem counts_of_assemble_error {e : AssemblyError}
    (h : assemble r tokens args = (stats, .error e)) :
    ∃ j t, Assembly.StopsAt r args tokens j t (stats, e) ∧
      stats.placeholders = Token.placeholderCount (tokens.take j) +
        (if t.lexeme.isPlaceholder ∧ Token.placeholderCount (tokens.take j) < args.length then 1
          else 0) ∧
      stats.blocks = Token.closeCount (tokens.take j) := by
  obtain ⟨j, t, hstops⟩ := Assembly.exists_stopsAt (after_of_assemble_error h)
  exact ⟨j, t, hstops, hstops.counts⟩

end QueryTemplate
