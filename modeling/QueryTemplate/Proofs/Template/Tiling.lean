import Mathlib.Tactic.Common
import QueryTemplate.Template

/-!
# Tokens and placeholders of a chunk

The tokens of a chunk are the chunk cut into pieces, and the placeholders among them are those that
are counted beforehand.
-/

namespace QueryTemplate

/-!
## Tokens tile their chunks

The tokens of a chunk stand side by side: the first starts where the chunk starts, every other one
where its neighbour ends, and their texts put together are the chunk. A token of a template is
therefore found in the template at its own position, unless it is the separator behind a chunk.
-/

namespace Text

/-- The first text is the part of the second that starts at position `p`. -/
def PartAt (s t : Text) (p : Nat) : Prop :=
  ∃ before after, t = before ++ s ++ after ∧ before.length = p

/-- Every character of a part is a character of the whole. -/
theorem PartAt.subset {s t : Text} {p : Nat} (h : s.PartAt t p) : s ⊆ t := by
  obtain ⟨before, after, rfl, -⟩ := h
  intro c hc
  simp [hc]

/-- A part of a part is a part of the whole, its position counted from the start of the whole. -/
theorem PartAt.trans {s t u : Text} {p q : Nat} (h : s.PartAt t p) (h' : t.PartAt u q) :
    s.PartAt u (q + p) := by
  obtain ⟨before, after, rfl, rfl⟩ := h
  obtain ⟨first, last, rfl, rfl⟩ := h'
  refine ⟨first ++ before, after ++ last, by simp, by simp⟩

/-- A part of one character is the character at its position. -/
theorem PartAt.getElem? {c : Char} {t : Text} {p : Nat} (h : PartAt [c] t p) : t[p]? = some c := by
  obtain ⟨before, after, rfl, rfl⟩ := h
  simp

end Text

namespace Token

/-- The tokens stand side by side from position `pos` on, and their texts together are `s`. -/
def Tiles : Nat → List Token → Text → Prop
  | _, [], s => s = []
  | pos, t :: rest, s =>
    t.position = pos ∧ ∃ behind, s = t.text ++ behind ∧ Tiles (pos + t.text.length) rest behind

/-- A character in front of tokens lengthens the text they tile by that character. -/
theorem Tiles.glue {pos : Nat} {tokens : List Token} {s : Text} (c : Char)
    (h : Tiles (pos + 1) tokens s) : Tiles pos (Token.glue c pos tokens) (c :: s) := by
  cases tokens with
  | nil => exact ⟨rfl, s, rfl, h⟩
  | cons first rest =>
    obtain ⟨lexeme, position⟩ := first
    cases lexeme with
    | literal t =>
      -- the character joins the literal, which then starts one position earlier
      obtain ⟨-, behind, rfl, hrest⟩ := h
      refine ⟨rfl, behind, rfl, ?_⟩
      have hlength : pos + (c :: t).length = pos + 1 + t.length := by
        rw [List.length_cons]
        omega
      simpa only [Token.text, Lexeme.text, hlength] using hrest
    | placeholder kind => exact ⟨rfl, s, rfl, h⟩
    | blockOpen => exact ⟨rfl, s, rfl, h⟩
    | blockClose => exact ⟨rfl, s, rfl, h⟩

/-- A token among tokens that tile a text is the part of the text at its own position. -/
theorem Tiles.partAt {pos : Nat} {tokens : List Token} {s : Text} (h : Tiles pos tokens s)
    {t : Token} (ht : t ∈ tokens) : ∃ p, t.position = pos + p ∧ t.text.PartAt s p := by
  induction tokens generalizing pos s with
  | nil => cases ht
  | cons first rest ih =>
    obtain ⟨hpos, behind, rfl, hrest⟩ := h
    rcases List.mem_cons.mp ht with rfl | ht
    · exact ⟨0, hpos, [], behind, rfl, rfl⟩
    · obtain ⟨p, hp, before, after, rfl, rfl⟩ := ih hrest ht
      refine ⟨first.text.length + before.length, by omega, first.text ++ before, after, ?_, ?_⟩
      · simp only [List.append_assoc]
      · rw [List.length_append]

end Token

/-- The tokens of a chunk tile it. -/
theorem tokensOfChunk_tiles (pos : Nat) (s : Text) : Token.Tiles pos (tokensOfChunk pos s) s := by
  fun_induction tokensOfChunk pos s with
  | case1 pos => rfl
  | case2 pos rest ih => exact ⟨rfl, rest, rfl, ih⟩
  | case3 pos rest ih => exact ⟨rfl, rest, rfl, ih⟩
  | case4 pos => exact ⟨rfl, [], rfl, rfl⟩
  | case5 pos c rest k hk ih =>
    have htext : k.text = ['?', c] := by
      rw [Placeholder.text, Placeholder.ofSuffix?_eq_some_iff.mp hk]
      rfl
    refine ⟨rfl, rest, ?_, ?_⟩
    · simp [Token.text, Lexeme.text, htext]
    · simpa [Token.text, Lexeme.text, htext] using ih
  | case6 pos c rest hk ih => exact ih.glue '?'
  | case7 pos c rest _ _ _ _ ih => exact ih.glue c

/-- A chunk is the part of the text at its own position. -/
theorem chunksFrom_positions {pos : Nat} {t : Text} {c : Chunk} (hc : c ∈ chunksFrom pos t) :
    ∃ p, c.start = pos + p ∧ c.text.PartAt t p := by
  fun_induction chunksFrom pos t with
  | case1 pos => cases hc
  | case2 pos d rest hd ih =>
    obtain ⟨p, hp, before, after, rfl, rfl⟩ := ih hc
    exact ⟨before.length + 1, by omega, d :: before, after, rfl, rfl⟩
  | case3 pos d rest hd chunk ih =>
    rcases List.mem_cons.mp hc with rfl | hc
    · refine ⟨0, rfl, [], rest.dropWhile isSolid, ?_, rfl⟩
      simp only [List.nil_append, chunk, List.cons_append, List.takeWhile_append_dropWhile]
    · obtain ⟨p, hp, before, after, hrest, rfl⟩ := ih hc
      refine ⟨chunk.text.length + before.length, ?_, chunk.text ++ before, after, ?_, ?_⟩
      · rw [hp, Chunk.stop, Nat.add_assoc]
      · have hsplit := List.takeWhile_append_dropWhile (p := isSolid) (l := rest)
        rw [hrest] at hsplit
        simp only [chunk, List.cons_append, List.append_assoc] at hsplit ⊢
        rw [hsplit]
      · rw [List.length_append]

/-- A chunk of a template is found in the template at its position. -/
theorem chunks_positions {template : Text} {c : Chunk} (hc : c ∈ chunks template) :
    c.text.PartAt template c.start := by
  obtain ⟨p, hp, hpart⟩ := chunksFrom_positions hc
  rw [hp, Nat.zero_add]
  exact hpart

/-- A chunk that is one token as a whole is the same token when it is read by its characters. -/
theorem tokensOfChunk_of_ofChunk? {t : Text} {whole : Lexeme} (h : Lexeme.ofChunk? t = some whole)
    (pos : Nat) : tokensOfChunk pos t = [⟨whole, pos⟩] := by
  unfold Lexeme.ofChunk? at h
  cases hk : Placeholder.ofText? t with
  | some k =>
    have htext : k.text = t := by simpa using List.find?_some hk
    rw [hk, Option.some.injEq] at h
    rw [← htext, ← h]
    cases k <;> rfl
  | none =>
    simp only [hk] at h
    split at h
    · rename_i hopen
      rw [hopen, ← Option.some.inj h]
      rfl
    · split at h
      · rename_i hclose
        rw [hclose, ← Option.some.inj h]
        rfl
      · cases h

/-- Reading a chunk by its characters gives its tokens, whether or not the chunk is one token. -/
theorem Chunk.tokens_eq (c : Chunk) :
    c.tokens = tokensOfChunk c.start c.text ++ [⟨.literal Token.separator, c.stop⟩] := by
  unfold Chunk.tokens
  cases h : Lexeme.ofChunk? c.text with
  | some whole => rw [tokensOfChunk_of_ofChunk? h]
  | none => rfl

/-- A token of a template is found in the template at its position, or is a separator. -/
theorem tokenize_positions {template : Text} {t : Token} (ht : t ∈ tokenize template) :
    t.text.PartAt template t.position ∨ t.lexeme = .literal Token.separator := by
  obtain ⟨c, hc, ht⟩ := List.mem_flatMap.mp ht
  rw [Chunk.tokens_eq] at ht
  rcases List.mem_append.mp ht with ht | ht
  · left
    obtain ⟨p, hp, hpart⟩ := (tokensOfChunk_tiles c.start c.text).partAt ht
    rw [hp]
    exact hpart.trans (chunks_positions hc)
  · right
    rw [List.mem_singleton.mp ht]

/-!
## Two ways to find the placeholders

The placeholders of a template are found twice. The count that is compared with the arguments goes
through the characters of every chunk and passes over braces as over any other character; the tokens
come from a search that starts anew behind each brace, and a chunk that is one placeholder is
recognised without a search. Both find the same kinds in the same order.
-/

namespace Token

/-- The kind of a token that is a placeholder. -/
def kind? (t : Token) : Option (Option Placeholder) :=
  match t.lexeme with
  | .placeholder kind => some kind
  | _ => none

/-- The kinds of the placeholders among tokens, in order. -/
def kinds (tokens : List Token) : List (Option Placeholder) := tokens.filterMap kind?

@[simp] theorem kinds_append (before after : List Token) :
    kinds (before ++ after) = kinds before ++ kinds after :=
  List.filterMap_append

@[simp] theorem kinds_literal (text : Text) (position : Nat) :
    kinds [⟨.literal text, position⟩] = [] := rfl

@[simp] theorem kinds_placeholder (kind : Option Placeholder) (position : Nat) :
    kinds [⟨.placeholder kind, position⟩] = [kind] := rfl

@[simp] theorem kinds_blockOpen (position : Nat) : kinds [⟨.blockOpen, position⟩] = [] := rfl

@[simp] theorem kinds_blockClose (position : Nat) : kinds [⟨.blockClose, position⟩] = [] := rfl

/-- Tokens are those before one of them, this one, and those behind it. -/
theorem eq_take_append_cons {tokens : List Token} {j : Nat} {t : Token}
    (h : tokens[j]? = some t) : tokens = tokens.take j ++ t :: tokens.drop (j + 1) := by
  obtain ⟨hj, hget⟩ := List.getElem?_eq_some_iff.mp h
  rw [← hget, List.getElem_cons_drop, List.take_append_drop]

/-- There are as many kinds as placeholders. -/
theorem length_kinds (tokens : List Token) :
    (kinds tokens).length = tokens.countP (·.lexeme.isPlaceholder) := by
  rw [kinds, List.length_filterMap_eq_countP]
  congr 1
  funext t
  obtain ⟨lexeme, position⟩ := t
  cases lexeme <;> rfl

/-- A placeholder comes right behind the kinds of the placeholders before it. -/
theorem kinds_getElem? {tokens before after : List Token} {kind : Option Placeholder}
    {position : Nat} (h : tokens = before ++ ⟨.placeholder kind, position⟩ :: after) :
    (kinds tokens)[(kinds before).length]? = some kind := by
  have hcons : kinds (⟨.placeholder kind, position⟩ :: after) = kind :: kinds after := rfl
  rw [h, kinds_append, hcons, List.getElem?_append_right (Nat.le_refl _), Nat.sub_self]
  rfl

/-- Before a placeholder there are fewer placeholders than altogether. -/
theorem length_kinds_lt {tokens before after : List Token} {kind : Option Placeholder}
    {position : Nat} (h : tokens = before ++ ⟨.placeholder kind, position⟩ :: after) :
    (kinds before).length < (kinds tokens).length :=
  (List.getElem?_eq_some_iff.mp (kinds_getElem? h)).1

/-- A character in front of tokens makes no placeholder of them and destroys none. -/
@[simp] theorem kinds_glue (c : Char) (pos : Nat) (tokens : List Token) :
    kinds (glue c pos tokens) = kinds tokens := by
  cases tokens with
  | nil => rfl
  | cons first rest =>
    obtain ⟨lexeme, position⟩ := first
    cases lexeme <;> rfl

end Token

namespace Placeholder

/-- Behind a character that starts no placeholder the search goes on at the next character. -/
theorem all_cons_of_at?_eq_none {c : Char} {rest : Text} (h : at? (c :: rest) = none) :
    all (c :: rest) = all rest := by
  rw [all, h]

/-- A question mark by itself is a placeholder, and nothing follows it. -/
theorem all_mark : all ['?'] = [generic] := by
  rw [all]
  simp only [at?, List.drop_nil]
  rw [all]

/-- Behind a placeholder of two characters the search goes on after both of them. -/
theorem all_cons_of_ofSuffix? {c : Char} {k : Placeholder} (rest : Text)
    (h : ofSuffix? c = some k) : all ('?' :: c :: rest) = k :: all rest := by
  have hat : at? ('?' :: c :: rest) = some k := h
  have hwidth : k.width = 2 := by
    rw [width, text, ofSuffix?_eq_some_iff.mp h]
    rfl
  rw [all, hat]
  simp only [hwidth, Nat.add_one_sub_one, List.drop_succ_cons, List.drop_zero]

end Placeholder

/-- The tokens of a chunk have the placeholders that its characters have. -/
theorem kinds_tokensOfChunk (pos : Nat) (s : Text) :
    Token.kinds (tokensOfChunk pos s) = (Placeholder.all s).map some := by
  fun_induction tokensOfChunk pos s with
  | case1 pos =>
    rw [Placeholder.all]
    rfl
  | case2 pos rest ih => rw [Placeholder.all_cons_of_at?_eq_none rfl, ← ih]; rfl
  | case3 pos rest ih => rw [Placeholder.all_cons_of_at?_eq_none rfl, ← ih]; rfl
  | case4 pos => rw [Placeholder.all_mark]; rfl
  | case5 pos c rest k hk ih =>
    rw [Placeholder.all_cons_of_ofSuffix? rest hk, List.map_cons, ← ih]
    rfl
  | case6 pos c rest hk ih =>
    -- the question mark is no placeholder, and what follows it is searched
    have hat : Placeholder.at? ('?' :: c :: rest) = none := hk
    rw [Token.kinds_glue, ih, Placeholder.all_cons_of_at?_eq_none hat]
  | case7 pos c rest _ _ hlast hmark ih =>
    -- the character is no question mark, or the two cases before would have taken it
    have hat : Placeholder.at? (c :: rest) = none := by
      unfold Placeholder.at?
      split
      · rename_i heq
        obtain ⟨rfl, rfl⟩ := List.cons.inj heq
        exact absurd rfl (hlast rfl)
      · rename_i d behind heq
        obtain ⟨rfl, rfl⟩ := List.cons.inj heq
        exact absurd rfl (hmark d behind rfl)
      · rfl
    rw [Token.kinds_glue, ih, Placeholder.all_cons_of_at?_eq_none hat]

/-- The separator behind a chunk is no placeholder. -/
theorem Chunk.kinds_tokens (c : Chunk) :
    Token.kinds c.tokens = (Placeholder.all c.text).map some := by
  rw [Chunk.tokens_eq, Token.kinds_append, kinds_tokensOfChunk]
  exact List.append_nil _

/-- The tokens of a template have the placeholders that were counted, in the same order, and each of
them declares its kind. -/
theorem kinds_tokenize (template : Text) :
    Token.kinds (tokenize template) = (placeholders template).map some := by
  unfold tokenize placeholders
  induction chunks template with
  | nil => rfl
  | cons c rest ih =>
    rw [List.flatMap_cons, List.flatMap_cons, Token.kinds_append, List.map_append,
      Chunk.kinds_tokens, ih]

/-- A placeholder is counted with its kind, behind as many others as there are before it. -/
theorem placeholders_getElem? {template : Text} {before after : List Token} {k : Placeholder}
    {position : Nat}
    (h : tokenize template = before ++ ⟨.placeholder (some k), position⟩ :: after) :
    (placeholders template)[(Token.kinds before).length]? = some k := by
  have hkind := Token.kinds_getElem? h
  rw [kinds_tokenize, List.getElem?_map, Option.map_eq_some_iff] at hkind
  obtain ⟨found, hfound, heq⟩ := hkind
  rw [hfound, ← Option.some.inj heq]

/-- The count that is compared with the arguments is the count of the placeholders among the
tokens. -/
theorem length_kinds_tokenize (template : Text) :
    (Token.kinds (tokenize template)).length = countPlaceholders template := by
  rw [kinds_tokenize, List.length_map]
  rfl

end QueryTemplate
