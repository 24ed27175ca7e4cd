import Mathlib.Data.List.Forall2
import QueryTemplate.Proofs.Assembly.Respacing

/-!
# What stands between the braces of a block

Between its braces a block has no brace. Where the skip marker does not come up there, a block that
closes emits what the same tokens emit without the braces around them. Where it does come up, the
block closes without a trace, but the arguments of its placeholders are taken, and each of them that
is no skip marker has to have a text.
-/

namespace QueryTemplate

/-- Whether a token is a brace. -/
def Lexeme.isBrace : Lexeme → Bool
  | blockOpen | blockClose => true
  | _ => false

/-- A character that is no brace stands for none. -/
theorem Lexeme.isBrace_ofChar {c : Char} (hopen : c ≠ '{') (hclose : c ≠ '}') :
    (ofChar c).isBrace = false := by
  rw [ofChar, if_neg hopen, if_neg hclose]
  split <;> rfl

/-- A template without braces has none letter by letter. -/
theorem not_isBrace_of_mem_spelled {t : Text} (hopen : '{' ∉ t) (hclose : '}' ∉ t) {l : Lexeme}
    (hl : l ∈ spelled t) : l.isBrace = false := by
  fun_induction spelled t with
  | case1 => cases hl
  | case2 =>
    rw [List.mem_singleton.mp hl]
    rfl
  | case3 c rest k hk ih =>
    simp only [List.mem_cons, not_or] at hopen hclose
    rcases List.mem_cons.mp hl with rfl | hl
    · rfl
    · exact ih hopen.2.2 hclose.2.2 hl
  | case4 c rest hk ih =>
    rcases List.mem_cons.mp hl with rfl | hl
    · split <;> rfl
    · exact ih (List.not_mem_of_not_mem_cons hopen) (List.not_mem_of_not_mem_cons hclose) hl
  | case5 c rest hlast hmark ih =>
    rcases List.mem_cons.mp hl with rfl | hl
    · exact Lexeme.isBrace_ofChar (List.ne_of_not_mem_cons hopen).symm
        (List.ne_of_not_mem_cons hclose).symm
    · exact ih (List.not_mem_of_not_mem_cons hopen) (List.not_mem_of_not_mem_cons hclose) hl

namespace Assembly

variable {r : Renderer} {b s s' : Assembly}

/-- Whether a block is open behind a token is told by the token. -/
theorem isInside_of_stepped {l : Lexeme} {p : Nat} (h : Stepped r s ⟨l, p⟩ s') :
    s'.isInside = Lexeme.blockAfter s.isInside l := by
  cases h with
  | literal text position => exact put_isInside s text
  | opened position outside => rfl
  | closed position inside => exact isInside_eq_false_iff.mpr (closeBlock_region s)
  | marked position due inside =>
    have hs : s.isInside = true := isInside_eq_true_iff.mpr ⟨_, _, inside⟩
    rw [hs]
    rfl
  | leftOut position due outside policy => exact take_isInside s _
  | filled position due noSkip rendered => exact (put_isInside _ _).trans (take_isInside s _)

/-- Whether a block is open behind tokens is told by the braces among them. -/
theorem isInside_of_reads {tokens : List Lexeme} (h : Reads r s tokens s') :
    s'.isInside = tokens.foldl Lexeme.blockAfter s.isInside := by
  induction h with
  | nil => rfl
  | cons hstep _ ih => rw [ih, isInside_of_stepped hstep, List.foldl_cons]

/-! ## A block that is kept -/

/-- The first assembly is in a block without a mark, the second stands outside, and what the block
holds back is all that the second has emitted more. -/
structure HoldsBack (b s : Assembly) : Prop where
  /-- The same arguments are to come. -/
  remaining_eq : b.remaining = s.remaining
  /-- The second assembly stands outside. -/
  outside : s.region = .outside
  /-- The block holds back what the second has emitted more. -/
  held : ∃ pieces, b.region = .inside pieces false ∧ s.text = b.text ++ pieces.reverse.flatten

/-- A block that opens holds nothing back. -/
theorem HoldsBack.opened (h : s.region = .outside) :
    HoldsBack { s with region := .inside [] false } s :=
  ⟨rfl, h, [], rfl, (List.append_nil _).symm⟩

/-- A block that closes is emitted. -/
theorem HoldsBack.closed (h : HoldsBack b s) : Like s b.closeBlock := by
  obtain ⟨pieces, hregion, htext⟩ := h.held
  refine ⟨?_, ?_, ?_⟩
  · rw [closeBlock_remaining, h.remaining_eq]
  · rw [text_closeBlock_of_inside b hregion, htext]
    exact .refl _
  · rw [h.outside, closeBlock_region]
    exact .outside

/-- A piece is held back in the block and emitted outside. -/
theorem HoldsBack.put (h : HoldsBack b s) (piece : Text) :
    HoldsBack (b.put piece) (s.put piece) := by
  obtain ⟨pieces, hregion, htext⟩ := h.held
  have houtside : (s.put piece).region = .outside := by simp only [Assembly.put, h.outside]
  have hinside : (b.put piece).region = .inside (piece :: pieces) false := by
    simp only [Assembly.put, hregion]
  refine ⟨?_, houtside, piece :: pieces, hinside, ?_⟩
  · rw [put_remaining, put_remaining, h.remaining_eq]
  · rw [text_put_of_outside s piece h.outside, text_put_of_inside b piece hregion, htext,
      List.reverse_cons, List.flatten_append, List.append_assoc, List.flatten_singleton]

/-- An argument is taken in the block and outside. -/
theorem HoldsBack.take (h : HoldsBack b s) (rest : List Value) :
    HoldsBack (b.take rest) (s.take rest) :=
  ⟨rfl, h.outside, h.held⟩

/-- A token that is no brace and takes no skip marker does in the block what it does outside. -/
theorem HoldsBack.step (h : HoldsBack b s) {l : Lexeme} {p : Nat} (hstep : Stepped r s ⟨l, p⟩ s')
    (hbrace : l.isBrace = false)
    (hskip : l.isPlaceholder = true → ∀ rest, s.remaining ≠ .skip :: rest) :
    ∃ b', Stepped r b ⟨l, p⟩ b' ∧ HoldsBack b' s' := by
  have hremaining := h.remaining_eq.symm
  cases hstep with
  | literal text position => exact ⟨_, .literal text p, h.put text⟩
  | opened position outside => cases hbrace
  | closed position inside => cases hbrace
  | marked position due inside => exact absurd due (hskip rfl _)
  | leftOut position due outside policy => exact absurd due (hskip rfl _)
  | filled position due noSkip rendered =>
    exact ⟨_, .filled p (hremaining ▸ due) noSkip rendered, (h.take _).put _⟩

/-- Tokens without a brace that take no skip marker do in the block what they do outside. -/
theorem HoldsBack.reads {tokens : List Lexeme} (h : HoldsBack b s) (hreads : Reads r s tokens s')
    (hbrace : ∀ l ∈ tokens, l.isBrace = false) {taken more : List Value}
    (hremaining : s.remaining = taken ++ more)
    (htaken : taken.length = (Lexeme.kinds tokens).length) (hskip : Value.skip ∉ taken) :
    ∃ b', Reads r b tokens b' ∧ HoldsBack b' s' := by
  induction hreads generalizing b taken with
  | nil s => exact ⟨b, .nil b, h⟩
  | @cons s mid s' l rest position hstep _ ih =>
    obtain ⟨first, others, rfl, hfirst, hothers⟩ := exists_taken_append htaken
    rw [List.append_assoc] at hremaining
    rw [List.mem_append, not_or] at hskip
    -- none of the arguments taken is the skip marker, so neither is the one that is due
    have hdue : l.isPlaceholder = true → ∀ rest, s.remaining ≠ .skip :: rest := by
      intro hl rest hcons
      cases l with
      | placeholder kind =>
        obtain ⟨v, rfl⟩ := List.length_eq_one_iff.mp hfirst
        obtain ⟨rfl, -⟩ := List.cons.inj (hremaining.symm.trans hcons)
        exact hskip.1 List.mem_cons_self
      | _ => cases hl
    obtain ⟨mid', hstepped, hmid⟩ := h.step hstep (hbrace l List.mem_cons_self) hdue
    obtain ⟨b', hrest, hlast⟩ := ih hmid (fun l' hl => hbrace l' (List.mem_cons_of_mem l hl))
      (hstep.withArguments hremaining hfirst).1 hothers hskip.2
    exact ⟨b', .cons hstepped hrest, hlast⟩

/-! ## A block that has to go through -/

/-- The argument `v` has a text for a placeholder of this kind, or is the skip marker. -/
def Accepts (r : Renderer) (kind : Option Placeholder) (v : Value) : Prop :=
  v ≠ .skip → ∃ k text, kind = some k ∧ r.render k v = .ok text

/-- In a block, a placeholder takes an argument that it accepts. A skip marker marks the block. -/
theorem exists_stepped_in_block {kind : Option Placeholder} {v : Value} {rest : List Value}
    {pieces : List Text} {suppressed : Bool} (hregion : b.region = .inside pieces suppressed)
    (hdue : b.remaining = v :: rest) (haccepts : Accepts r kind v) :
    ∃ b' held, Stepped r b ⟨.placeholder kind, 0⟩ b' ∧ b'.remaining = rest ∧ b'.text = b.text ∧
      b'.region = .inside held (suppressed || v.isSkip) := by
  cases hskip : v.isSkip with
  | true =>
    obtain rfl := Value.isSkip_iff.mp hskip
    refine ⟨_, pieces, .marked 0 hdue hregion, rfl, rfl, ?_⟩
    rw [Bool.or_true]
  | false =>
    have hne : v ≠ .skip := by
      rintro rfl
      cases hskip
    obtain ⟨k, text, rfl, hrender⟩ := haccepts hne
    have hput : ((b.take rest).put text).region = .inside (text :: pieces) suppressed := by
      simp only [put, take_region, hregion]
    refine ⟨_, text :: pieces, .filled 0 hdue hskip hrender, by simp, ?_, ?_⟩
    · exact text_put_of_inside (b.take rest) text hregion
    · rw [hput, Bool.or_false]

/-- In a block, tokens without a brace are gone through if their placeholders accept their
arguments. Nothing is emitted, and a skip marker among the arguments marks the block. -/
theorem exists_reads_in_block {tokens : List Lexeme} (hbrace : ∀ l ∈ tokens, l.isBrace = false)
    {taken more : List Value} {pieces : List Text} {suppressed : Bool}
    (hregion : b.region = .inside pieces suppressed) (hremaining : b.remaining = taken ++ more)
    (haccepts : List.Forall₂ (Accepts r) (Lexeme.kinds tokens) taken) :
    ∃ b' held, Reads r b tokens b' ∧ b'.remaining = more ∧ b'.text = b.text ∧
      b'.region = .inside held (suppressed || taken.any Value.isSkip) := by
  induction tokens generalizing b taken pieces suppressed with
  | nil =>
    cases haccepts
    refine ⟨b, pieces, .nil b, hremaining, rfl, ?_⟩
    rw [hregion, List.any_nil, Bool.or_false]
  | cons l rest ih =>
    have hrest : ∀ l' ∈ rest, l'.isBrace = false :=
      fun l' hl => hbrace l' (List.mem_cons_of_mem l hl)
    cases l with
    | literal t =>
      have hput : (b.put t).region = .inside (t :: pieces) suppressed := by
        simp only [put, hregion]
      obtain ⟨b', held, hreads, hmore, htext, hheld⟩ :=
        ih hrest hput ((put_remaining b t).trans hremaining) haccepts
      exact ⟨b', held, .cons (.literal t 0) hreads, hmore,
        htext.trans (text_put_of_inside b t hregion), hheld⟩
    -- there is no brace among the tokens
    | blockOpen => cases hbrace _ List.mem_cons_self
    | blockClose => cases hbrace _ List.mem_cons_self
    | placeholder kind =>
      cases haccepts with
      | @cons _ v _ others haccept hothers =>
        obtain ⟨mid, kept, hstep, hmid, hmidtext, hkept⟩ :=
          exists_stepped_in_block hregion hremaining haccept
        obtain ⟨b', held, hreads, hmore, htext, hheld⟩ := ih hrest hkept hmid hothers
        refine ⟨b', held, .cons hstep hreads, hmore, htext.trans hmidtext, ?_⟩
        -- the block is marked by this argument or by a later one
        rw [hheld, List.any_cons, Bool.or_assoc]

end Assembly

end QueryTemplate
