import QueryTemplate.Proofs.Assembly.Reading

/-!
# Assemblies that differ in spacing

Two assemblies are alike if they stand in the same place and whatever follows, the words of the
query are the same. Tokens have the same effect as others if both lead from alike assemblies to
alike ones. Literals have the same effect as others if their texts may stand for each other, and so
the tokens of a template have the effect of the template letter by letter.
-/

namespace QueryTemplate

/-- Two regions, where the texts held back in a block may stand for each other. -/
inductive Region.Like : Region → Region → Prop
  /-- Outside of every block. -/
  | outside : Like .outside .outside
  /-- In a block. -/
  | inside {pieces others : List Text} (suppressed : Bool) :
      SameWords pieces.reverse.flatten others.reverse.flatten →
        Like (.inside pieces suppressed) (.inside others suppressed)

namespace Region

theorem Like.refl (region : Region) : Like region region := by
  cases region with
  | outside => exact .outside
  | inside pieces suppressed => exact .inside suppressed (.refl _)

theorem Like.symm {region other : Region} (h : Like region other) : Like other region := by
  cases h with
  | outside => exact .outside
  | inside suppressed hpieces => exact .inside suppressed hpieces.symm

theorem Like.trans {region other third : Region} (h : Like region other) (h' : Like other third) :
    Like region third := by
  cases h with
  | outside => exact h'
  | inside suppressed hpieces =>
    cases h' with
    | inside _ hothers => exact .inside suppressed (hpieces.trans hothers)

/-- A region that is like the outside is the outside. -/
theorem Like.eq_outside {region : Region} (h : Like .outside region) : region = .outside := by
  cases h
  rfl

/-- A region that is like a block is a block. -/
theorem Like.exists_inside {region : Region} {pieces : List Text} {suppressed : Bool}
    (h : Like (.inside pieces suppressed) region) :
    ∃ others, region = .inside others suppressed ∧
      SameWords pieces.reverse.flatten others.reverse.flatten := by
  cases h with
  | inside _ hpieces => exact ⟨_, rfl, hpieces⟩

end Region

namespace Assembly

/-- Two assemblies that differ in spacing only. -/
structure Like (s t : Assembly) : Prop where
  /-- The same arguments are to come. -/
  remaining_eq : s.remaining = t.remaining
  /-- What is emitted has the same words, whatever follows. -/
  text : SameWordsBefore s.text t.text
  /-- Both stand outside, or in blocks that hold back the same words. -/
  region : s.region.Like t.region

variable {r : Renderer} {s s' t u : Assembly}

theorem Like.refl (s : Assembly) : Like s s := ⟨rfl, .refl _, .refl _⟩

theorem Like.symm (h : Like s t) : Like t s := ⟨h.remaining_eq.symm, h.text.symm, h.region.symm⟩

theorem Like.trans (h : Like s t) (h' : Like t u) : Like s u :=
  ⟨h.remaining_eq.trans h'.remaining_eq, h.text.trans h'.text, h.region.trans h'.region⟩

/-- The assembly with pieces put one after another. -/
def putEach (s : Assembly) (pieces : List Text) : Assembly := pieces.foldl put s

theorem putEach_remaining (s : Assembly) (pieces : List Text) :
    (s.putEach pieces).remaining = s.remaining := by
  induction pieces generalizing s with
  | nil => rfl
  | cons piece rest ih => exact (ih (s.put piece)).trans (put_remaining s piece)

/-- Outside of every block, pieces are emitted one after another. -/
theorem putEach_of_outside (pieces : List Text) (h : s.region = .outside) :
    (s.putEach pieces).region = .outside ∧ (s.putEach pieces).text = s.text ++ pieces.flatten := by
  induction pieces generalizing s with
  | nil => exact ⟨h, (List.append_nil _).symm⟩
  | cons piece rest ih =>
    have hput : (s.put piece).region = .outside := by simp only [put, h]
    obtain ⟨hregion, htext⟩ := ih hput
    refine ⟨hregion, htext.trans ?_⟩
    rw [text_put_of_outside s piece h, List.flatten_cons, List.append_assoc]

/-- In a block, pieces are held back one after another. -/
theorem putEach_of_inside (pieces : List Text) {held : List Text} {suppressed : Bool}
    (h : s.region = .inside held suppressed) :
    (s.putEach pieces).region = .inside (pieces.reverse ++ held) suppressed ∧
      (s.putEach pieces).text = s.text := by
  induction pieces generalizing s held with
  | nil => exact ⟨h, rfl⟩
  | cons piece rest ih =>
    have hput : (s.put piece).region = .inside (piece :: held) suppressed := by
      simp only [put, h]
    obtain ⟨hregion, htext⟩ := ih hput
    refine ⟨hregion.trans ?_, htext.trans (text_put_of_inside s piece h)⟩
    rw [List.reverse_cons, List.append_assoc, List.singleton_append]

/-- Pieces that may stand for each other are emitted or held back alike. -/
theorem Like.putEach (h : Like s t) {pieces others : List Text}
    (hpieces : SameWords pieces.flatten others.flatten) :
    Like (s.putEach pieces) (t.putEach others) := by
  have hremaining : (s.putEach pieces).remaining = (t.putEach others).remaining := by
    rw [putEach_remaining, putEach_remaining, h.remaining_eq]
  have hregion := h.region
  cases hs : s.region with
  | outside =>
    -- outside of every block the pieces are emitted,
    rw [hs] at hregion
    obtain ⟨hfirst, htext⟩ := putEach_of_outside pieces hs
    obtain ⟨hsecond, hother⟩ := putEach_of_outside others hregion.eq_outside
    refine ⟨hremaining, ?_, ?_⟩
    · rw [htext, hother]
      exact h.text.append hpieces
    · rw [hfirst, hsecond]
      exact .outside
  | inside held suppressed =>
    -- and in a block they are held back, in the opposite order
    rw [hs] at hregion
    obtain ⟨kept, ht, hheld⟩ := hregion.exists_inside
    obtain ⟨hfirst, htext⟩ := putEach_of_inside pieces hs
    obtain ⟨hsecond, hother⟩ := putEach_of_inside others ht
    refine ⟨hremaining, ?_, ?_⟩
    · rw [htext, hother]
      exact h.text
    · rw [hfirst, hsecond]
      refine .inside suppressed ?_
      rw [List.reverse_append, List.reverse_reverse, List.flatten_append, List.reverse_append,
        List.reverse_reverse, List.flatten_append]
      exact hheld.append hpieces

/-- One piece in the place of another. -/
theorem Like.put (h : Like s t) (piece : Text) : Like (s.put piece) (t.put piece) :=
  h.putEach (SameWords.refl [piece].flatten)

/-- An argument is taken alike. -/
theorem Like.take (h : Like s t) (rest : List Value) : Like (s.take rest) (t.take rest) :=
  ⟨rfl, h.text, h.region⟩

/-- A block that ends is emitted alike or not at all. -/
theorem Like.closeBlock (h : Like s t) : Like s.closeBlock t.closeBlock := by
  refine ⟨by simpa using h.remaining_eq, ?_, by simpa using Region.Like.outside⟩
  have hregion := h.region
  cases hs : s.region with
  | outside =>
    rw [hs] at hregion
    have ht := hregion.eq_outside
    simp only [Assembly.closeBlock, hs, ht]
    exact h.text
  | inside pieces suppressed =>
    rw [hs] at hregion
    obtain ⟨others, ht, hpieces⟩ := hregion.exists_inside
    rw [text_closeBlock_of_inside s hs, text_closeBlock_of_inside t ht]
    cases suppressed with
    | true => exact h.text.append (.refl _)
    | false => exact h.text.append hpieces

/-- A token leads from alike assemblies to alike ones. -/
theorem Like.step (h : Like s t) {l : Lexeme} {p : Nat} (hstep : Stepped r s ⟨l, p⟩ s') :
    ∃ t', Stepped r t ⟨l, p⟩ t' ∧ Like s' t' := by
  have hregion := h.region
  have hremaining := h.remaining_eq
  -- where a token goes through depends on the region and on the arguments left, which are alike
  cases hstep with
  | literal text position => exact ⟨_, .literal text p, h.put text⟩
  | opened position outside =>
    rw [outside] at hregion
    exact ⟨_, .opened p hregion.eq_outside, h.remaining_eq, h.text, .refl _⟩
  | closed position inside =>
    obtain ⟨pieces, suppressed, hs⟩ := isInside_eq_true_iff.mp inside
    rw [hs] at hregion
    obtain ⟨others, ht, -⟩ := hregion.exists_inside
    exact ⟨_, .closed p (isInside_eq_true_iff.mpr ⟨others, suppressed, ht⟩), h.closeBlock⟩
  | marked position due inside =>
    rw [inside] at hregion
    obtain ⟨others, ht, hpieces⟩ := hregion.exists_inside
    exact ⟨_, .marked p (hremaining ▸ due) ht, rfl, h.text, .inside true hpieces⟩
  | leftOut position due outside policy =>
    rw [outside] at hregion
    exact ⟨_, .leftOut p (hremaining ▸ due) hregion.eq_outside policy, h.take _⟩
  | filled position due noSkip rendered =>
    exact ⟨_, .filled p (hremaining ▸ due) noSkip rendered, (h.take _).put _⟩

/-- Tokens lead from alike assemblies to alike ones. -/
theorem Like.reads (h : Like s t) {tokens : List Lexeme} (hreads : Reads r s tokens s') :
    ∃ t', Reads r t tokens t' ∧ Like s' t' := by
  induction hreads generalizing t with
  | nil s => exact ⟨t, .nil t, h⟩
  | cons hstep _ ih =>
    obtain ⟨mid, hmid, hlike⟩ := h.step hstep
    obtain ⟨t', hrest, hlast⟩ := ih hlike
    exact ⟨t', .cons hmid hrest, hlast⟩

/-! ## Tokens of the same effect -/

/-- Where the first tokens lead, the others lead from alike assemblies to alike ones. -/
def Follows (r : Renderer) (first other : List Lexeme) : Prop :=
  ∀ s t s' : Assembly, Like s t → Reads r s first s' → ∃ t', Reads r t other t' ∧ Like s' t'

/-- Tokens that have the same effect, up to spacing. -/
structure SameEffect (r : Renderer) (first other : List Lexeme) : Prop where
  /-- The others follow the first. -/
  forth : Follows r first other
  /-- The first follow the others. -/
  back : Follows r other first

variable {first other third first' other' : List Lexeme}

theorem SameEffect.refl (r : Renderer) (tokens : List Lexeme) : SameEffect r tokens tokens :=
  ⟨fun _ _ _ h => h.reads, fun _ _ _ h => h.reads⟩

theorem SameEffect.symm (h : SameEffect r first other) : SameEffect r other first :=
  ⟨h.back, h.forth⟩

theorem Follows.trans (h : Follows r first other) (h' : Follows r other third) :
    Follows r first third := by
  intro s t s' hlike hreads
  obtain ⟨mid, hmid, hlike'⟩ := h s t s' hlike hreads
  obtain ⟨t', ht, hlast⟩ := h' t t mid (Like.refl t) hmid
  exact ⟨t', ht, hlike'.trans hlast⟩

theorem SameEffect.trans (h : SameEffect r first other) (h' : SameEffect r other third) :
    SameEffect r first third :=
  ⟨h.forth.trans h'.forth, h'.back.trans h.back⟩

theorem Follows.append (h : Follows r first other) (h' : Follows r first' other') :
    Follows r (first ++ first') (other ++ other') := by
  intro s t s' hlike hreads
  obtain ⟨mid, hfirst, hrest⟩ := hreads.exists_of_append
  obtain ⟨mid', hother, hmid⟩ := h s t mid hlike hfirst
  obtain ⟨t', hlast, hlike'⟩ := h' mid mid' s' hmid hrest
  exact ⟨t', hother.append hlast, hlike'⟩

/-- Tokens of the same effect, one after the other. -/
theorem SameEffect.append (h : SameEffect r first other) (h' : SameEffect r first' other') :
    SameEffect r (first ++ first') (other ++ other') :=
  ⟨h.forth.append h'.forth, h.back.append h'.back⟩

/-- Literals always go through, and put their texts one after another. -/
theorem reads_literals (r : Renderer) (s : Assembly) (texts : List Text) :
    Reads r s (texts.map .literal) (s.putEach texts) := by
  induction texts generalizing s with
  | nil => exact .nil s
  | cons text rest ih => exact .cons (.literal text 0) (ih (s.put text))

/-- What an assembly is behind tokens is determined by them. -/
theorem Reads.unique {tokens : List Lexeme} (h : Reads r s tokens s') (h' : Reads r s tokens u) :
    s' = u := by
  have hplaced : (tokens.map (Token.mk · 0)).map Token.lexeme = tokens := by
    rw [List.map_map]
    exact List.map_id _
  rw [← hplaced, ← foldlM_eq_ok_iff_reads] at h h'
  exact Except.ok.inj (h.symm.trans h')

theorem follows_literals {texts others : List Text} (h : SameWords texts.flatten others.flatten) :
    Follows r (texts.map .literal) (others.map .literal) := by
  intro s t s' hlike hreads
  rw [hreads.unique (reads_literals r s texts)]
  exact ⟨_, reads_literals r t others, hlike.putEach h⟩

/-- Literals have the same effect if their texts may stand for each other. -/
theorem sameEffect_literals (r : Renderer) {texts others : List Text}
    (h : SameWords texts.flatten others.flatten) :
    SameEffect r (texts.map .literal) (others.map .literal) :=
  ⟨follows_literals h, follows_literals h.symm⟩

/-- A token has the same effect letter by letter. -/
theorem sameEffect_letters (r : Renderer) (l : Lexeme) : SameEffect r [l] l.letters := by
  cases l with
  | literal t =>
    have hflatten : (t.map fun c => [c]).flatten = t := by
      rw [← List.flatMap_def]
      exact List.flatMap_singleton' t
    have hwords : SameWords [t].flatten (t.map fun c => [c]).flatten := by
      rw [hflatten, List.flatten_singleton]
      exact .refl t
    have heffect := sameEffect_literals r hwords
    rw [List.map_map] at heffect
    exact heffect
  | _ => exact .refl r _

/-- Two separators have the effect of one. -/
theorem sameEffect_separators (r : Renderer) :
    SameEffect r [.separator] [.separator, .separator] := by
  have hblank : isBlank ' ' = true := by decide
  have hwords : SameWords [Token.separator].flatten [Token.separator, Token.separator].flatten :=
    sameWords_two_blanks hblank
  exact sameEffect_literals r hwords

/-- Tokens have the same effect letter by letter. -/
theorem sameEffect_of_spells {tokens letters : List Lexeme}
    (h : Spells tokens letters) (r : Renderer) : SameEffect r tokens letters := by
  induction h with
  | nil => exact .refl r []
  | token l _ ih => exact (sameEffect_letters r l).append ih
  | @gap tokens letters _ ih =>
    have hgap := (sameEffect_separators r).append (SameEffect.refl r letters)
    exact ih.trans hgap

/-! ## A template letter by letter -/

/-- A separator at the beginning of a query belongs to no word. -/
theorem like_put_separator (args : List Value) :
    Like (start args) ((start args).put Token.separator) :=
  ⟨rfl, sameWordsBefore_blank (by decide), .outside⟩

/-- At the beginning, a separator in front of tokens does not matter to their effect. -/
theorem SameEffect.reads_start (h : SameEffect r (.separator :: first) (.separator :: other))
    {args : List Value} (hreads : Reads r (start args) first s) :
    ∃ t, Reads r (start args) other t ∧ Like s t := by
  obtain ⟨s₁, hfirst, hlike₁⟩ := (like_put_separator args).reads hreads
  have hbehind : Reads r (start args) (.separator :: first) s₁ :=
    .cons (.literal Token.separator 0) hfirst
  obtain ⟨s₂, hother, hlike₂⟩ := h.forth _ _ _ (Like.refl _) hbehind
  have hrest : Reads r ((start args).put Token.separator) other s₂ := by
    obtain ⟨mid, hseparator, hrest⟩ :
        ∃ mid, Reads r (start args) [.separator] mid ∧ Reads r mid other s₂ :=
      Reads.exists_of_append hother
    have hone : Reads r (start args) [.separator] ((start args).put Token.separator) :=
      .cons (.literal Token.separator 0) (.nil _)
    rwa [hseparator.unique hone] at hrest
  obtain ⟨t, ht, hlike₃⟩ := (like_put_separator args).symm.reads hrest
  exact ⟨t, ht, hlike₁.trans (hlike₂.trans hlike₃)⟩

/-- An assembly that goes through a template goes through it letter by letter. -/
theorem reads_spelled_of_after {template : Text} {args : List Value}
    (h : after r args (tokenize template) = .ok s) :
    ∃ t, Reads r (start args) (spelled template ++ [.separator]) t ∧ Like s t :=
  (sameEffect_of_spells (tokenize_spells template) r).reads_start (foldlM_eq_ok_iff_reads.mp h)

/-- An assembly that goes through a template letter by letter goes through it. -/
theorem after_of_reads_spelled {template : Text} {args : List Value}
    (h : Reads r (start args) (spelled template ++ [.separator]) s) :
    ∃ t, after r args (tokenize template) = .ok t ∧ Like s t := by
  obtain ⟨t, ht, hlike⟩ :=
    (sameEffect_of_spells (tokenize_spells template) r).symm.reads_start h
  exact ⟨t, foldlM_eq_ok_iff_reads.mpr ht, hlike⟩

end Assembly

end QueryTemplate
