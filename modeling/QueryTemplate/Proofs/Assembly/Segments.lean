import QueryTemplate.Proofs.Assembly.Offence

/-!
# Assembly in two passes

An assembly goes through the tokens once, with an argument counter, a buffer and a mark. What it
puts together is said here without any of them, in two passes. The first pairs every placeholder
with the argument of its index. The second cuts the tokens at the braces into segments, which lie
outside of every block or are a block, and puts the texts of the segments one after another; a block
in which the skip marker stands has no text.
-/

namespace QueryTemplate

/-- A token, and of a placeholder the argument it is paired with. -/
inductive Item where
  /-- Text that stands for itself. -/
  | literal (text : Text)
  /-- A placeholder and its argument, if there is one. -/
  | argument (kind : Option Placeholder) (value : Option Value)
  /-- The beginning of a block. -/
  | blockOpen
  /-- The end of a block. -/
  | blockClose

namespace Item

/-- Whether a placeholder has got the skip marker. -/
def isSkip : Item → Bool
  | argument _ (some v) => v.isSkip
  | _ => false

/-- The text of an item: that of a literal, and the rendered argument of a placeholder. Nothing
stands for a skip marker. -/
def text (r : Renderer) : Item → Text
  | literal t => t
  | argument (some k) (some v) => if v.isSkip then [] else (r.render k v).toOption.getD []
  | _ => []

end Item

/-- The tokens with their arguments, the next placeholder being that of index `i`. -/
def itemsFrom (args : List Value) (i : Nat) : List Token → List Item
  | [] => []
  | t :: rest =>
    match t.lexeme with
    | .literal text => .literal text :: itemsFrom args i rest
    | .placeholder kind => .argument kind args[i]? :: itemsFrom args (i + 1) rest
    | .blockOpen => .blockOpen :: itemsFrom args i rest
    | .blockClose => .blockClose :: itemsFrom args i rest

/-- The tokens with their arguments. -/
def items (args : List Value) (tokens : List Token) : List Item := itemsFrom args 0 tokens

/-- A stretch of items between braces. -/
inductive Segment where
  /-- Outside of every block. -/
  | outside (items : List Item)
  /-- A block, without its braces. -/
  | block (items : List Item)

namespace Segment

/-- The segment with an item more at its end. -/
def push (item : Item) : Segment → Segment
  | outside items => outside (items ++ [item])
  | block items => block (items ++ [item])

/-- The segments of items, the first of them being the end of `here`. A block begins at each opening
brace and ends at the next closing one, or with the items. -/
def cut (here : Segment) : List Item → List Segment
  | [] => [here]
  | .blockOpen :: rest => here :: cut (block []) rest
  | .blockClose :: rest => here :: cut (outside []) rest
  | item :: rest => cut (here.push item) rest

/-- The text of a segment. A block in which a placeholder has got the skip marker has none. -/
def text (r : Renderer) : Segment → Text
  | outside items => items.flatMap (Item.text r)
  | block items => if items.any Item.isSkip then [] else items.flatMap (Item.text r)

end Segment

/-- The segments of tokens with their arguments. -/
def segments (args : List Value) (tokens : List Token) : List Segment :=
  (Segment.outside []).cut (items args tokens)

/-- The texts of all segments, one after another. -/
def segmentText (r : Renderer) (args : List Value) (tokens : List Token) : Text :=
  (segments args tokens).flatMap (Segment.text r)

namespace Assembly

/-- An assembly that has emitted `done` and is as far as the end of the segment `here`. Outside,
what the segment has is emitted; in a block it is held back. -/
def Holds (r : Renderer) (done : Text) (s : Assembly) : Segment → Prop
  | .outside items => s.region = .outside ∧ s.text = done ++ items.flatMap (Item.text r)
  | .block items =>
    s.text = done ∧ ∃ pieces, s.region = .inside pieces (items.any Item.isSkip) ∧
      pieces.reverse.flatten = items.flatMap (Item.text r)

variable {r : Renderer} {done : Text} {s : Assembly}

/-- A piece that is put is the text of an item more. -/
theorem Holds.put {here : Segment} (h : Holds r done s here) {item : Item}
    (hskip : item.isSkip = false) : Holds r done (s.put (item.text r)) (here.push item) := by
  cases here with
  | outside items =>
    obtain ⟨hregion, htext⟩ := h
    refine ⟨?_, ?_⟩
    · simp only [Assembly.put, hregion]
    · rw [text_put_of_outside s _ hregion, htext, List.append_assoc, List.flatMap_append]
      simp only [List.flatMap_cons, List.flatMap_nil, List.append_nil]
  | block items =>
    obtain ⟨htext, pieces, hregion, hpieces⟩ := h
    refine ⟨by rw [text_put_of_inside s _ hregion, htext], item.text r :: pieces, ?_, ?_⟩
    · simp only [Assembly.put, hregion, List.any_append, List.any_cons, List.any_nil, hskip,
        Bool.or_false]
    · rw [List.reverse_cons, List.flatten_append, hpieces, List.flatMap_append]
      simp only [List.flatten_cons, List.flatten_nil, List.flatMap_cons, List.flatMap_nil]

/-- At its end, a segment is emitted if it has a text. -/
theorem Holds.closeBlock {here : Segment} (h : Holds r done s here) :
    s.closeBlock.text = done ++ here.text r := by
  cases here with
  | outside items =>
    obtain ⟨hregion, htext⟩ := h
    have hclose : s.closeBlock = s := by simp only [Assembly.closeBlock, hregion]
    rw [hclose, htext]
    rfl
  | block items =>
    obtain ⟨htext, pieces, hregion, hpieces⟩ := h
    rw [text_closeBlock_of_inside s hregion, htext, hpieces]
    rfl

/-- At the beginning nothing is emitted and no segment has anything. -/
theorem Holds.start (r : Renderer) (args : List Value) :
    Holds r [] (Assembly.start args) (.outside []) := ⟨rfl, rfl⟩

/-- A block that opens begins a segment of its own. -/
theorem Holds.opened {here : Segment} (h : Holds r done s here) (houtside : s.region = .outside) :
    Holds r (done ++ here.text r) { s with region := .inside [] false } (.block []) := by
  cases here with
  | outside items => exact ⟨h.2, [], rfl, rfl⟩
  | block items =>
    obtain ⟨-, pieces, hregion, -⟩ := h
    rw [houtside] at hregion
    cases hregion

/-- Behind a block that closes a segment begins outside. -/
theorem Holds.closed {here : Segment} (h : Holds r done s here) :
    Holds r (done ++ here.text r) s.closeBlock (.outside []) := by
  refine ⟨closeBlock_region s, ?_⟩
  rw [h.closeBlock, List.flatMap_nil, List.append_nil]

/-- Taking an argument emits nothing and holds nothing back. -/
theorem Holds.take {here : Segment} (h : Holds r done s here) (rest : List Value) :
    Holds r done (s.take rest) here := by
  cases here with
  | outside items => exact h
  | block items => exact h

/-- A skip marker in a block adds no text, and the block will have none. -/
theorem Holds.mark {items : List Item} (h : Holds r done s (.block items))
    {pieces : List Text} {suppressed : Bool} (hregion : s.region = .inside pieces suppressed)
    (kind : Option Placeholder) (rest : List Value) :
    Holds r done { s.take rest with region := .inside pieces true }
      (.block (items ++ [.argument kind (some .skip)])) := by
  obtain ⟨htext, held, hheld, hpieces⟩ := h
  rw [hregion] at hheld
  obtain ⟨rfl, -⟩ := Region.inside.inj hheld
  refine ⟨htext, pieces, ?_, ?_⟩
  · simp [Item.isSkip, Value.isSkip]
  · rw [hpieces, List.flatMap_append]
    cases kind <;> simp [Item.text, Value.isSkip]

/-- A skip marker that is left out adds no text. -/
theorem Holds.leaveOut {here : Segment} (h : Holds r done s here) (houtside : s.region = .outside)
    (kind : Option Placeholder) (rest : List Value) :
    Holds r done (s.take rest) (here.push (.argument kind (some .skip))) := by
  cases here with
  | outside items =>
    refine ⟨houtside, ?_⟩
    have htext : (Item.argument kind (some .skip)).text r = [] := by
      cases kind <;> simp [Item.text, Value.isSkip]
    rw [List.flatMap_append, List.flatMap_cons, htext, List.flatMap_nil, List.append_nil,
      List.append_nil]
    exact h.2
  | block items =>
    obtain ⟨-, pieces, hregion, -⟩ := h
    rw [houtside] at hregion
    cases hregion

/-- What an assembly puts together from the tokens to come: the end of the segment it is in, and the
segments after it. -/
theorem text_of_foldlM {args : List Value} {tokens before : List Token} {s' : Assembly}
    {here : Segment} (hbehind : Behind args before s) (hholds : Holds r done s here)
    (h : tokens.foldlM (Assembly.step r) s = .ok s') :
    s'.closeBlock.text =
      done ++ (here.cut (itemsFrom args (Token.kinds before).length tokens)).flatMap
        (Segment.text r) := by
  -- the state is as far as the end of `here`, and each step takes both one token further
  induction tokens generalizing s before here done with
  | nil =>
    rw [List.foldlM_nil] at h
    rw [← Except.ok.inj h, hholds.closeBlock]
    simp only [itemsFrom, Segment.cut, List.flatMap_cons, List.flatMap_nil, List.append_nil]
  | cons t rest ih =>
    rw [List.foldlM_cons] at h
    cases hstep : s.step r t with
    | error stopped =>
      rw [hstep] at h
      cases h
    | ok mid =>
      rw [hstep] at h
      have hnext := hbehind.step hstep
      cases step_eq_ok_iff.mp hstep with
      | literal text position =>
        have hput : Holds r done (s.put text) (here.push (.literal text)) := hholds.put rfl
        simpa [itemsFrom, Segment.cut] using ih hnext hput h
      | opened position outside =>
        -- the segment in progress is finished, and a block begins
        simpa [itemsFrom, Segment.cut] using ih hnext (hholds.opened outside) h
      | closed position inside =>
        simpa [itemsFrom, Segment.cut] using ih hnext hholds.closed h
      | marked position due inside =>
        cases here with
        -- a skip marker that marks a block does not stand outside
        | outside items =>
          rw [hholds.1] at inside
          cases inside
        | block items =>
          simpa [itemsFrom, Segment.cut, Segment.push, hbehind.argument due] using
            ih hnext (hholds.mark inside _ _) h
      | leftOut position due outside policy =>
        simpa [itemsFrom, Segment.cut, hbehind.argument due] using
          ih hnext (hholds.leaveOut outside _ _) h
      | @filled kind position v rest piece due noSkip rendered =>
        have htext : (Item.argument (some kind) (some v)).text r = piece := by
          simp [Item.text, noSkip, rendered, Except.toOption]
        have hput : Holds r done ((s.take rest).put piece)
            (here.push (.argument (some kind) (some v))) := by
          rw [← htext]
          exact (hholds.take rest).put noSkip
        simpa [itemsFrom, Segment.cut, hbehind.argument due] using ih hnext hput h

/-- An assembly that goes through puts together the texts of all segments. -/
theorem text_of_after {args : List Value} {tokens : List Token}
    (h : after r args tokens = .ok s) : s.closeBlock.text = segmentText r args tokens := by
  have htext := text_of_foldlM (Behind.start args) (Holds.start r args) h
  rw [htext, List.nil_append]
  rfl

end Assembly

namespace Token

/-- Whether the braces among tokens alternate, given whether a block is open before them: each
opening brace stands where no block is open, and each closing one where one is. -/
def bracesAlternate (inside : Bool) : List Token → Bool
  | [] => true
  | t :: rest =>
    (match t.lexeme with
      | .blockOpen => !inside
      | .blockClose => inside
      | _ => true) && bracesAlternate (blockAfter inside t) rest

/-- Where braces alternate, the tokens before a brace tell which one it is. -/
theorem bracesAlternate_append_cons {inside : Bool} {before after : List Token} {t : Token}
    (h : bracesAlternate inside (before ++ t :: after) = true) :
    (t.lexeme = .blockOpen → before.foldl blockAfter inside = false) ∧
      (t.lexeme = .blockClose → before.foldl blockAfter inside = true) := by
  induction before generalizing inside with
  | nil =>
    rw [List.nil_append, bracesAlternate, Bool.and_eq_true] at h
    constructor
    · intro hopen
      simpa [hopen] using h.1
    · intro hclose
      simpa [hclose] using h.1
  | cons first rest ih =>
    rw [List.cons_append, bracesAlternate, Bool.and_eq_true] at h
    exact ih h.2

end Token

/-- Tokens with arguments that nothing is wrong with: the braces alternate, every placeholder has a
kind and an argument, every argument that is no skip marker has a text, also in a block that will
have none, and a skip marker stands outside of every block only where the options leave it out. -/
structure Assemblable (r : Renderer) (tokens : List Token) (args : List Value) : Prop where
  alternate : Token.bracesAlternate false tokens = true
  kinds : ∀ kind ∈ Token.kinds tokens, kind ≠ none
  enough : (Token.kinds tokens).length ≤ args.length
  renders : ∀ (i : Nat) (k : Placeholder) (v : Value), (Token.kinds tokens)[i]? = some (some k) →
    args[i]? = some v → v ≠ .skip → ∃ text, r.render k v = .ok text
  skips : ∀ before kind position after,
    tokens = before ++ ⟨.placeholder kind, position⟩ :: after →
      args[(Token.kinds before).length]? = some .skip → Token.inBlock before = false →
        r.options.skipOutsideBlock = .leaveOut

namespace Assemblable

variable {r : Renderer} {tokens : List Token} {args : List Value}

/-- The argument of a placeholder does not offend. -/
theorem argumentOffence?_eq_none (h : Assemblable r tokens args) {before after : List Token}
    {kind : Option Placeholder} {position : Nat}
    (hsplit : tokens = before ++ ⟨.placeholder kind, position⟩ :: after) :
    ∃ v, args[(Token.kinds before).length]? = some v ∧
      Assembly.argumentOffence? r (Token.inBlock before) (Token.kinds before).length position kind
        v = none := by
  -- the kind is declared and the argument is there, so that only the argument itself can offend
  have hkind := Token.kinds_getElem? hsplit
  obtain ⟨k, rfl⟩ := Option.ne_none_iff_exists'.mp (h.kinds kind (List.mem_of_getElem? hkind))
  have hlt := Nat.lt_of_lt_of_le (Token.length_kinds_lt hsplit) h.enough
  obtain ⟨v, hargument⟩ : ∃ v, args[(Token.kinds before).length]? = some v :=
    ⟨_, List.getElem?_eq_getElem hlt⟩
  refine ⟨v, hargument, ?_⟩
  unfold Assembly.argumentOffence?
  by_cases hskip : v.isSkip = true
  · rw [if_pos hskip]
    rw [Value.isSkip_iff.mp hskip] at hargument
    -- a skip marker in a block is no offence
    cases hinside : Token.inBlock before with
    | true => rfl
    | false => simp [h.skips before _ position after hsplit hargument hinside]
  · rw [if_neg hskip]
    have hne : v ≠ .skip := fun heq => hskip (Value.isSkip_iff.mpr heq)
    obtain ⟨text, htext⟩ := h.renders _ k v hkind hargument hne
    simp only [htext]

/-- No token offends. -/
theorem offenceAt_eq_none (h : Assemblable r tokens args) (j : Nat) :
    Assembly.offenceAt r args tokens j = none := by
  rw [Assembly.offenceAt, Option.bind_eq_none_iff]
  rintro ⟨lexeme, position⟩ ht
  have hsplit := Token.eq_take_append_cons ht
  have halternate := h.alternate
  rw [hsplit] at halternate
  have hbrace := Token.bracesAlternate_append_cons halternate
  cases lexeme with
  | literal text => rfl
  | blockOpen =>
    have houtside : Token.inBlock (tokens.take j) = false := hbrace.1 rfl
    simp [Assembly.offence?, houtside]
  | blockClose =>
    have hinside : Token.inBlock (tokens.take j) = true := hbrace.2 rfl
    simp [Assembly.offence?, hinside]
  | placeholder kind =>
    obtain ⟨v, hv, hnone⟩ := h.argumentOffence?_eq_none hsplit
    simp only [Assembly.offence?, hv, hnone]

end Assemblable

/-- Tokens with arguments that nothing is wrong with are assembled into the texts of all segments,
one after another and without blanks at the end: of every stretch outside of the blocks, and of
every block in which no placeholder has got the skip marker. A block that is never closed is a block
as well. -/
theorem assemble_eq_segmentText {r : Renderer} {tokens : List Token} {args : List Value}
    (h : Assemblable r tokens args) :
    (assemble r tokens args).2 = .ok (segmentText r args tokens).trimEnd := by
  obtain ⟨s, hs⟩ := Assembly.after_eq_ok_iff.mpr h.offenceAt_eq_none
  rw [assemble_of_after hs, Assembly.query, Assembly.text_of_after hs]

/-- A block that is dropped although a piece of it is held back, one that is kept, and one that is
never closed. -/
theorem assemble_eq_segmentText_open_block :
    (assemble ⟨⟨.loose, .leaveOut, true⟩, backslashEscaper⟩
        (tokenize "a ? \x7bb ?d ? \x7d\x7bc ?d\x7d \x7bd ? ".toList)
        [.skip, .int 1, .skip, .int 7, .text "it's".toList]).2 =
      .ok "a  c 7 d 'it\\'s'".toList := by
  have hgood : Assemblable ⟨⟨.loose, .leaveOut, true⟩, backslashEscaper⟩
      (tokenize "a ? \x7bb ?d ? \x7d\x7bc ?d\x7d \x7bd ? ".toList)
      [.skip, .int 1, .skip, .int 7, .text "it's".toList] := by
    refine ⟨by decide +kernel, by decide +kernel, by decide +kernel, ?_, fun _ _ _ _ _ _ _ => rfl⟩
    have hkinds : Token.kinds (tokenize "a ? \x7bb ?d ? \x7d\x7bc ?d\x7d \x7bd ? ".toList) =
        [some .generic, some .integer, some .generic, some .integer, some .generic] := by
      decide +kernel
    rw [hkinds]
    intro i k v hk hv hne
    -- the two skip markers are excluded, and the other three arguments have their texts
    rcases i with _ | _ | _ | _ | _ | i
    · cases hv
      exact absurd rfl hne
    · cases hk
      cases hv
      exact ⟨"1".toList, by decide +kernel⟩
    · cases hv
      exact absurd rfl hne
    · cases hk
      cases hv
      exact ⟨"7".toList, by decide +kernel⟩
    · cases hk
      cases hv
      exact ⟨"'it\\'s'".toList, by decide +kernel⟩
    · cases hv
  rw [assemble_eq_segmentText hgood]
  decide +kernel

end QueryTemplate
