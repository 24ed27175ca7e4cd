import Mathlib.Data.List.Forall2
import QueryTemplate.Proofs.Template.Places
import QueryTemplate.Proofs.Template.Words

/-!
# Tokens and words

The words of a template and its tokens say the same. Where the blanks stand matters to the positions
of the tokens only.
-/

namespace QueryTemplate

/-!
## Nothing of a template is lost

The tokens of a template hold every chunk of it, character by character, and behind each chunk one
separator. What they hold, put together, is the template with a single space behind each of its
words. Read again, that text has the same tokens as the template: what the tokens are depends on the
words of a template, and the words can be told from the tokens.
-/

/-- A literal is never empty, whatever stands behind its first character. -/
theorem Token.text_ne_nil_of_mem_glue {tokens : List Token} (h : ∀ t ∈ tokens, t.text ≠ [])
    (c : Char) (pos : Nat) {t : Token} (ht : t ∈ glue c pos tokens) : t.text ≠ [] := by
  cases tokens with
  | nil =>
    rw [List.mem_singleton.mp ht]
    exact List.cons_ne_nil _ _
  | cons first rest =>
    obtain ⟨lexeme, position⟩ := first
    cases lexeme with
    | literal s =>
      rcases List.mem_cons.mp ht with rfl | ht
      · exact List.cons_ne_nil _ _
      · exact h t (List.mem_cons_of_mem _ ht)
    | _ =>
      rcases List.mem_cons.mp ht with rfl | ht
      · exact List.cons_ne_nil _ _
      · exact h t ht

/-- No token of a chunk is empty. -/
theorem text_ne_nil_of_mem_tokensOfChunk (pos : Nat) (s : Text) :
    ∀ t ∈ tokensOfChunk pos s, t.text ≠ [] := by
  fun_induction tokensOfChunk pos s with
  | case1 pos => simp
  | case2 pos rest ih => exact List.forall_mem_cons.mpr ⟨List.cons_ne_nil _ _, ih⟩
  | case3 pos rest ih => exact List.forall_mem_cons.mpr ⟨List.cons_ne_nil _ _, ih⟩
  | case4 pos => exact List.forall_mem_singleton.mpr (List.cons_ne_nil _ _)
  | case5 pos c rest k hk ih => exact List.forall_mem_cons.mpr ⟨List.cons_ne_nil _ _, ih⟩
  | case6 pos c rest hk ih => exact fun t ht => Token.text_ne_nil_of_mem_glue ih '?' pos ht
  | case7 pos c rest _ _ _ _ ih => exact fun t ht => Token.text_ne_nil_of_mem_glue ih c pos ht

/-! ### What the tokens hold -/

/-- Tokens that tile a text hold it. -/
theorem Token.Tiles.flatMap_text {pos : Nat} {tokens : List Token} {s : Text}
    (h : Tiles pos tokens s) : tokens.flatMap text = s := by
  induction tokens generalizing pos s with
  | nil => exact h.symm
  | cons first rest ih =>
    obtain ⟨-, behind, rfl, hrest⟩ := h
    rw [List.flatMap_cons, ih hrest]

/-- Words with a space behind each of them. -/
def spaced (ws : List Text) : Text := ws.flatMap (· ++ Token.separator)

/-- The tokens of a template hold its words, with a space behind each of them. -/
theorem flatMap_text_tokenize (template : Text) :
    (tokenize template).flatMap Token.text = spaced (words template) := by
  unfold tokenize spaced words
  induction chunks template with
  | nil => rfl
  | cons c rest ih =>
    have hchunk : c.tokens.flatMap Token.text = c.text ++ Token.separator := by
      rw [Chunk.tokens_eq, List.flatMap_append, (tokensOfChunk_tiles c.start c.text).flatMap_text]
      rfl
    rw [List.flatMap_cons, List.flatMap_append, ih, hchunk, List.map_cons, List.flatMap_cons]

/-- A word of a template is not empty and holds no blank. -/
theorem solid_of_mem_words {template w : Text} (hw : w ∈ words template) :
    w ≠ [] ∧ ∀ d ∈ w, isBlank d = false := by
  obtain ⟨c, hc, rfl⟩ := List.mem_map.mp hw
  have hstretch := mem_chunks_iff.mp hc
  exact ⟨hstretch.ne_nil, hstretch.solid⟩

/-- A solid text is one word. -/
theorem words_of_solid {w : Text} (hne : w ≠ []) (hsolid : ∀ d ∈ w, isBlank d = false) :
    words w = [w] := by
  rw [words, chunks, chunksFrom_of_solid hne hsolid]
  rfl

/-- Words with a space behind each of them are the words of the text that they make up. -/
theorem words_spaced {ws : List Text} (h : ∀ w ∈ ws, w ≠ [] ∧ ∀ d ∈ w, isBlank d = false) :
    words (spaced ws) = ws := by
  induction ws with
  | nil => exact words_nil
  | cons w rest ih =>
    obtain ⟨⟨hne, hsolid⟩, hrest⟩ := List.forall_mem_cons.mp h
    have hsplit : spaced (w :: rest) = w ++ ' ' :: spaced rest := by
      rw [spaced, List.flatMap_cons, List.append_assoc]
      rfl
    rw [hsplit, words_append_blank (by decide), words_of_solid hne hsolid, ih hrest]
    rfl

/-! ### Tokens without their positions -/

/-- A token without its position: its sort, its characters and the kind it declares. -/
def Token.content (t : Token) : Text × Text × Option Placeholder :=
  (t.lexeme.sort, t.text, t.lexeme.kind?)

/-- Where a word stands does not matter to the content of its tokens. -/
theorem map_content_tokensOfChunk (pos : Nat) (s : Text) :
    (tokensOfChunk pos s).map Token.content = (tokensOfChunk 0 s).map Token.content := by
  have hshift := tokensOfChunk_add 0 pos s
  rw [Nat.zero_add] at hshift
  rw [hshift, List.map_map]
  rfl

/-- The content of the tokens, word by word. -/
theorem map_content_tokenize (template : Text) :
    (tokenize template).map Token.content =
      (words template).flatMap fun w =>
        (tokensOfChunk 0 w).map Token.content ++
          [Token.content ⟨.literal Token.separator, w.length⟩] := by
  rw [tokenize, words, List.map_flatMap, List.flatMap_map]
  refine List.flatMap_congr fun c _ => ?_
  rw [Chunk.tokens_eq, List.map_append, map_content_tokensOfChunk]
  rfl

/-- Templates have the same tokens but for their positions exactly if they have the same words. -/
theorem map_content_tokenize_eq_iff {template other : Text} :
    (tokenize template).map Token.content = (tokenize other).map Token.content ↔
      words template = words other := by
  constructor
  · intro h
    -- the tokens hold the words, and the words can be told from what the tokens hold
    have htexts : (tokenize template).map Token.text = (tokenize other).map Token.text := by
      have hsecond := congrArg (List.map fun content => content.2.1) h
      rw [List.map_map, List.map_map] at hsecond
      exact hsecond
    have hspaced : spaced (words template) = spaced (words other) := by
      rw [← flatMap_text_tokenize, ← flatMap_text_tokenize, List.flatMap_def, List.flatMap_def,
        htexts]
    have hwords := congrArg words hspaced
    rwa [words_spaced fun w hw => solid_of_mem_words hw,
      words_spaced fun w hw => solid_of_mem_words hw] at hwords
  · intro h
    rw [map_content_tokenize, map_content_tokenize, h]

/-- The tokens of a template and the template. The chunks are the longest stretches without blanks,
from left to right. The tokens are those of each chunk and then one separator at its end; those of a
chunk stand side by side from its start to its end, and none of them is empty or holds a blank.
Every token but a separator is found in the template at its position, and the positions do not
decrease. What the tokens hold is every chunk with a space behind it; read again, it has the same
tokens but for their positions, and two templates have the same tokens but for their positions
exactly if they have the same sequence of chunks. -/
theorem tokenize_lossless (template : Text) :
    (∀ c, c ∈ chunks template ↔ c.IsStretch template) ∧
    (chunks template).Pairwise (fun a b => a.stop < b.start) ∧
    (∃ pieces : Chunk → List Token,
      tokenize template =
        (chunks template).flatMap (fun c => pieces c ++ [⟨.literal Token.separator, c.stop⟩]) ∧
      ∀ c ∈ chunks template, Token.Tiles c.start (pieces c) c.text ∧
        ∀ t ∈ pieces c, t.text ≠ [] ∧ ∀ d ∈ t.text, isBlank d = false) ∧
    (∀ t ∈ tokenize template, t.lexeme ≠ .literal Token.separator →
      (template.drop t.position).take t.text.length = t.text) ∧
    (tokenize template).Pairwise (fun a b => a.position ≤ b.position) ∧
    (tokenize template).flatMap Token.text =
      ((chunks template).map Chunk.text).flatMap (· ++ [' ']) ∧
    (tokenize ((tokenize template).flatMap Token.text)).map Token.content =
      (tokenize template).map Token.content ∧
    ∀ other, (tokenize template).map Token.content = (tokenize other).map Token.content ↔
      (chunks template).map Chunk.text = (chunks other).map Chunk.text := by
  refine ⟨fun c => mem_chunks_iff, chunks_pairwise template, ?_, ?_, ?_, ?_, ?_, ?_⟩
  · refine ⟨fun c => tokensOfChunk c.start c.text, ?_, ?_⟩
    · exact List.flatMap_congr fun c _ => c.tokens_eq
    · intro c hc
      refine ⟨tokensOfChunk_tiles c.start c.text, fun t ht => ⟨?_, ?_⟩⟩
      · exact text_ne_nil_of_mem_tokensOfChunk _ _ t ht
      · exact not_isBlank_of_mem_tokensOfChunk hc ht
  · intro t ht hne
    -- a token that is no separator is a part of the template at its position
    obtain ⟨before, after, htemplate, hlength⟩ := (tokenize_positions ht).resolve_right hne
    rw [htemplate, ← hlength, List.append_assoc, List.drop_left, List.take_left]
  · exact (tokenize_pairwise template).imp fun h => Nat.le_trans (Nat.le_add_right _ _) h
  · exact flatMap_text_tokenize template
  · rw [map_content_tokenize_eq_iff, flatMap_text_tokenize]
    -- the words of the text that the tokens hold are those of the template
    exact words_spaced fun w hw => solid_of_mem_words hw
  · exact fun other => map_content_tokenize_eq_iff

/-- A template and the same words in other surroundings; a placeholder glued to a brace is found at
its own position. -/
theorem tokenize_lossless_respaced :
    (tokenize " a\x7b?d\x7d\t??\n".toList).map Token.content =
        (tokenize "a\x7b?d\x7d  ??".toList).map Token.content ∧
      (" a\x7b?d\x7d\t??\n".toList.drop 3).take 2 = "?d".toList := by
  have hlossless := tokenize_lossless " a\x7b?d\x7d\t??\n".toList
  have hwords : (chunks " a\x7b?d\x7d\t??\n".toList).map Chunk.text =
      (chunks "a\x7b?d\x7d  ??".toList).map Chunk.text := by
    decide +kernel
  have hmem : ⟨.placeholder (some .integer), 3⟩ ∈ tokenize " a\x7b?d\x7d\t??\n".toList := by
    decide +kernel
  exact ⟨(hlossless.2.2.2.2.2.2.2 _).mpr hwords, hlossless.2.2.2.1 _ hmem (by decide)⟩

/-!
## Templates in another layout

Two templates with the same words in the same order are one template in two layouts: blanks stand
elsewhere, and there are more or fewer of them. Their tokens correspond one to one. A token and the
one that corresponds to it are the same but for their positions, and unless they are separators both
begin at the same character of the same chunk.
-/

section

/-- The chunks stand at the same place in the two templates and have the same characters. -/
def Chunk.SameIn (template other : Text) (a b : Chunk) : Prop :=
  a.text = b.text ∧ ∃ k : Nat, (chunks template)[k]? = some a ∧ (chunks other)[k]? = some b

/-- The positions are those of one character of one chunk, in the two templates. -/
def SamePlace (template other : Text) (p q : Nat) : Prop :=
  ∃ (k : Nat) (a b : Chunk) (d : Nat) (c : Char),
    (chunks template)[k]? = some a ∧ (chunks other)[k]? = some b ∧
      a.text[d]? = some c ∧ b.text[d]? = some c ∧ p = a.start + d ∧ q = b.start + d

/-- The tokens are the same but for their positions, which are related unless the tokens are
separators. -/
def Token.SameUpTo (R : Nat → Nat → Prop) (t u : Token) : Prop :=
  t.lexeme = u.lexeme ∧ (t.lexeme = .literal separator ∨ R t.position u.position)

variable {template other : Text}

/-- The chunks of a template correspond to those of the other layout. -/
theorem chunks_sameIn (h : words template = words other) :
    List.Forall₂ (Chunk.SameIn template other) (chunks template) (chunks other) := by
  have hlength : (chunks template).length = (chunks other).length := by
    have := congrArg List.length h
    rwa [words, words, List.length_map, List.length_map] at this
  refine List.forall₂_iff_get.mpr ⟨hlength, fun k hk hk' => ⟨?_, k, ?_, ?_⟩⟩
  · have hword : (words template)[k]? = (words other)[k]? := by rw [h]
    rw [words, words, List.getElem?_map, List.getElem?_map, List.getElem?_eq_getElem hk,
      List.getElem?_eq_getElem hk'] at hword
    exact Option.some.inj hword
  · exact List.getElem?_eq_getElem hk
  · exact List.getElem?_eq_getElem hk'

/-- The tokens of a chunk correspond to those of the same chunk of the other layout. -/
theorem Chunk.SameIn.tokens {a b : Chunk} (h : Chunk.SameIn template other a b) :
    List.Forall₂ (Token.SameUpTo (SamePlace template other)) (tokensOfChunk a.start a.text)
      (tokensOfChunk b.start b.text) := by
  obtain ⟨htext, k, ha, hb⟩ := h
  have hmoved (c : Chunk) : tokensOfChunk c.start c.text =
      (tokensOfChunk 0 c.text).map (Token.shifted c.start) := by
    rw [← tokensOfChunk_add, Nat.zero_add]
  rw [hmoved a, hmoved b, ← htext, List.forall₂_map_left_iff, List.forall₂_map_right_iff,
    List.forall₂_same]
  intro t ht
  refine ⟨rfl, .inr ?_⟩
  -- the first character of the token is the one that both positions point to
  obtain ⟨d, hd, before, after, hpart, hlength⟩ := (tokensOfChunk_tiles 0 a.text).partAt ht
  obtain ⟨c, rest, hcons⟩ :=
    List.exists_cons_of_ne_nil (text_ne_nil_of_mem_tokensOfChunk 0 a.text t ht)
  have hchar : a.text[d]? = some c := by
    rw [hpart, hcons, ← hlength, List.append_assoc, List.getElem?_append_right (Nat.le_refl _),
      Nat.sub_self]
    rfl
  have hplace (n : Nat) : t.position + n = n + d := by
    rw [hd, Nat.zero_add, Nat.add_comm]
  exact ⟨k, a, b, d, c, ha, hb, hchar, htext ▸ hchar, hplace a.start, hplace b.start⟩

/-- The tokens of a template correspond to those of the other layout. -/
theorem tokenize_sameUpTo (h : words template = words other) :
    List.Forall₂ (Token.SameUpTo (SamePlace template other)) (tokenize template)
      (tokenize other) := by
  refine List.rel_flatMap (chunks_sameIn h) ?_
  intro a b hchunk
  rw [Chunk.tokens_eq, Chunk.tokens_eq]
  refine List.rel_append hchunk.tokens ?_
  exact .cons ⟨rfl, .inl rfl⟩ .nil

/-- The placeholders are counted word by word. -/
theorem countPlaceholders_of_words_eq (h : words template = words other) :
    countPlaceholders template = countPlaceholders other := by
  have hwords (t : Text) : placeholders t = (words t).flatMap Placeholder.all := by
    rw [placeholders, words, List.flatMap_map]
  rw [countPlaceholders, countPlaceholders, hwords, hwords, h]

end

end QueryTemplate
