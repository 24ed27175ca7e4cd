import Mathlib.Data.List.Basic
import Mathlib.Data.List.TakeWhile
import Mathlib.Tactic.Common
import QueryTemplate.Proofs.Template.Tiling
import QueryTemplate.Template

/-!
# Words put together

Nothing of a template reaches over a blank: not its words, and so not its tokens.
-/

namespace QueryTemplate

/-!
## Words of texts put together

The chunks of a text are its words. A blank between two texts keeps their words apart: the words of
both together are the words of the one and then those of the other, whatever the texts are. All that
is said of spacing follows from this.

Two texts have the same words in front of others, or anywhere, if one may stand for the other there
without a change to the words of the whole.
-/

/-- The longest beginning of solid characters ends at the first blank. -/
theorem takeWhile_append_blank {b : Char} (hb : isBlank b = true) (s t : Text) :
    (s ++ b :: t).takeWhile isSolid = s.takeWhile isSolid := by
  have hsolid : isSolid b = false := by rw [isSolid, hb]; rfl
  induction s with
  | nil => rw [List.nil_append, List.takeWhile_cons, hsolid]; rfl
  | cons c rest ih => rw [List.cons_append, List.takeWhile_cons, List.takeWhile_cons, ih]

/-- Behind it, the blank is still there. -/
theorem dropWhile_append_blank {b : Char} (hb : isBlank b = true) (s t : Text) :
    (s ++ b :: t).dropWhile isSolid = s.dropWhile isSolid ++ b :: t := by
  have hsolid : isSolid b = false := by rw [isSolid, hb]; rfl
  induction s with
  | nil => rw [List.nil_append, List.dropWhile_cons, hsolid]; rfl
  | cons c rest ih =>
    rw [List.cons_append, List.dropWhile_cons, List.dropWhile_cons, ih]
    split <;> rfl

/-- A chunk of a text that stands `n` characters further to the right. -/
def Chunk.shifted (n : Nat) (c : Chunk) : Chunk := { c with start := c.start + n }

/-- The chunks of a text that stands further to the right. -/
theorem chunksFrom_add (pos n : Nat) (t : Text) :
    chunksFrom (pos + n) t = (chunksFrom pos t).map (Chunk.shifted n) := by
  fun_induction chunksFrom pos t with
  | case1 pos => rw [chunksFrom]; rfl
  | case2 pos c rest hc ih => rw [chunksFrom, if_pos hc, ← ih, Nat.add_right_comm]
  | case3 pos c rest hc chunk ih =>
    rw [chunksFrom, if_neg hc, List.map_cons, ← ih]
    have hstop : Chunk.stop ⟨pos + n, c :: rest.takeWhile isSolid⟩ = chunk.stop + n := by
      simp only [Chunk.stop, chunk]
      omega
    simp only [hstop]
    rfl

/-- A stretch of solid characters holds no blank. -/
theorem not_isBlank_of_mem_solid {c d : Char} {rest : Text} (hc : ¬isBlank c = true)
    (hd : d ∈ c :: rest.takeWhile isSolid) : isBlank d = false := by
  rcases List.mem_cons.mp hd with rfl | hd
  · exact Bool.eq_false_iff.mpr hc
  · have hsolid := List.mem_takeWhile_imp hd
    simpa [isSolid] using hsolid

/-- A chunk holds no blank. -/
theorem not_isBlank_of_mem_chunk {pos : Nat} {t : Text} {c : Chunk} (hc : c ∈ chunksFrom pos t)
    {d : Char} (hd : d ∈ c.text) : isBlank d = false := by
  fun_induction chunksFrom pos t with
  | case1 pos => cases hc
  | case2 pos b rest hb ih => exact ih hc
  | case3 pos b rest hb chunk ih =>
    rcases List.mem_cons.mp hc with rfl | hc
    · exact not_isBlank_of_mem_solid hb hd
    · exact ih hc

/-- A text without a chunk holds nothing but blanks. -/
theorem isBlank_of_chunksFrom_eq_nil {pos : Nat} {t : Text} (h : chunksFrom pos t = []) :
    ∀ c ∈ t, isBlank c = true := by
  fun_induction chunksFrom pos t with
  | case1 pos => simp
  | case2 pos b rest hb ih =>
    intro c hc
    rcases List.mem_cons.mp hc with rfl | hc
    · exact hb
    · exact ih h c hc
  | case3 pos b rest hb chunk ih => cases h

/-- A blank is in no chunk. -/
theorem chunksFrom_cons_blank {b : Char} (hb : isBlank b = true) (pos : Nat) (t : Text) :
    chunksFrom pos (b :: t) = chunksFrom (pos + 1) t := by
  rw [chunksFrom, if_pos hb]

/-- A blank between two texts keeps their chunks apart. -/
theorem chunksFrom_append_blank {b : Char} (hb : isBlank b = true) (pos : Nat) (s t : Text) :
    chunksFrom pos (s ++ b :: t) = chunksFrom pos s ++ chunksFrom (pos + s.length + 1) t := by
  fun_induction chunksFrom pos s with
  | case1 pos => exact chunksFrom_cons_blank hb pos t
  | case2 pos c rest hc ih =>
    rw [List.cons_append, chunksFrom_cons_blank hc, ih, List.length_cons]
    congr 2
    omega
  | case3 pos c rest hc chunk ih =>
    rw [List.cons_append, chunksFrom, if_neg hc]
    simp only [takeWhile_append_blank hb, dropWhile_append_blank hb, List.cons_append]
    refine congrArg₂ List.cons rfl ?_
    rw [ih]
    congr 2
    have hsplit := congrArg List.length (List.takeWhile_append_dropWhile (p := isSolid) (l := rest))
    simp only [List.length_append] at hsplit
    simp only [Chunk.stop, chunk, List.length_cons]
    omega

/-- Blanks in front of a text only move its chunks. -/
theorem chunksFrom_blanks_append {w : Text} (hw : ∀ c ∈ w, isBlank c = true) (pos : Nat)
    (t : Text) : chunksFrom pos (w ++ t) = chunksFrom (pos + w.length) t := by
  induction w generalizing pos with
  | nil => rfl
  | cons b rest ih =>
    rw [List.cons_append, chunksFrom_cons_blank (hw b List.mem_cons_self),
      ih (fun c hc => hw c (List.mem_cons_of_mem b hc)), List.length_cons]
    congr 1
    omega

/-! ### Words -/

/-- The words of a text: its longest stretches without blanks, in order. -/
def words (t : Text) : List Text := (chunks t).map Chunk.text

/-- The words of a text do not depend on where it stands. -/
theorem map_text_chunksFrom (pos : Nat) (t : Text) :
    (chunksFrom pos t).map Chunk.text = words t := by
  have hshift := chunksFrom_add 0 pos t
  rw [Nat.zero_add] at hshift
  rw [hshift, List.map_map]
  rfl

/-- A blank between two texts keeps their words apart. -/
theorem words_append_blank {b : Char} (hb : isBlank b = true) (s t : Text) :
    words (s ++ b :: t) = words s ++ words t := by
  rw [words, chunks, chunksFrom_append_blank hb, List.map_append, map_text_chunksFrom,
    map_text_chunksFrom]

theorem words_nil : words [] = [] := by
  rw [words, chunks, chunksFrom]
  rfl

/-- A blank in front of a text belongs to no word. -/
theorem words_cons_blank {b : Char} (hb : isBlank b = true) (t : Text) :
    words (b :: t) = words t := by
  rw [← List.nil_append (b :: t), words_append_blank hb, words_nil, List.nil_append]

/-- A text of blanks only has no words. -/
theorem words_of_blanks {w : Text} (hw : ∀ c ∈ w, isBlank c = true) : words w = [] := by
  induction w with
  | nil => exact words_nil
  | cons b rest ih =>
    rw [words_cons_blank (hw b List.mem_cons_self)]
    exact ih fun c hc => hw c (List.mem_cons_of_mem b hc)

/-- Blanks behind a text belong to no word. -/
theorem words_append_blanks {w : Text} (hw : ∀ c ∈ w, isBlank c = true) (s : Text) :
    words (s ++ w) = words s := by
  cases w with
  | nil => rw [List.append_nil]
  | cons b rest =>
    have hrest := words_of_blanks fun c hc => hw c (List.mem_cons_of_mem b hc)
    rw [words_append_blank (hw b List.mem_cons_self), hrest, List.append_nil]

/-! ### Texts that may stand for each other -/

/-- Two texts that may stand for each other at the beginning of a text. -/
def SameWordsBefore (s t : Text) : Prop := ∀ behind, words (s ++ behind) = words (t ++ behind)

/-- Two texts that may stand for each other anywhere in a text. -/
def SameWords (s t : Text) : Prop := ∀ before, SameWordsBefore (before ++ s) (before ++ t)

theorem SameWordsBefore.refl (s : Text) : SameWordsBefore s s := fun _ => rfl

theorem SameWordsBefore.trans {s t u : Text} (h : SameWordsBefore s t) (h' : SameWordsBefore t u) :
    SameWordsBefore s u :=
  fun behind => (h behind).trans (h' behind)

theorem SameWordsBefore.symm {s t : Text} (h : SameWordsBefore s t) : SameWordsBefore t s :=
  fun behind => (h behind).symm

/-- Two texts that may stand for each other in front of everything have the same words. -/
theorem SameWordsBefore.words_eq {s t : Text} (h : SameWordsBefore s t) : words s = words t := by
  have hnone := h []
  rwa [List.append_nil, List.append_nil] at hnone

/-- A blank at the beginning of a text may be left out. -/
theorem sameWordsBefore_blank {b : Char} (hb : isBlank b = true) : SameWordsBefore [] [b] :=
  fun behind => (words_cons_blank hb behind).symm

theorem SameWords.refl (s : Text) : SameWords s s := fun _ => .refl _

theorem SameWords.trans {s t u : Text} (h : SameWords s t) (h' : SameWords t u) : SameWords s u :=
  fun before => (h before).trans (h' before)

theorem SameWords.symm {s t : Text} (h : SameWords s t) : SameWords t s :=
  fun before => (h before).symm

/-- Two texts that may stand for each other anywhere, behind two that may do so at the
beginning. -/
theorem SameWordsBefore.append {s t s' t' : Text} (h : SameWordsBefore s t) (h' : SameWords s' t') :
    SameWordsBefore (s ++ s') (t ++ t') := by
  intro behind
  have hfirst := h (s' ++ behind)
  have hsecond := h' t behind
  rw [List.append_assoc, hfirst, ← List.append_assoc, hsecond]

/-- Two texts behind two others. -/
theorem SameWords.append {s t s' t' : Text} (h : SameWords s t) (h' : SameWords s' t') :
    SameWords (s ++ s') (t ++ t') := by
  intro before
  rw [← List.append_assoc, ← List.append_assoc]
  exact (h before).append h'

/-- Two blanks may stand for one. -/
theorem sameWords_two_blanks {b : Char} (hb : isBlank b = true) : SameWords [b] ([b] ++ [b]) := by
  intro before behind
  simp only [List.append_assoc, List.cons_append, List.nil_append]
  rw [words_append_blank hb, words_append_blank hb, words_cons_blank hb]

/-!
## Templates on both sides of blanks

Chunks end at blanks, so nothing of a template reaches over a blank. Of two templates with blanks
between them the tokens are those of the first, and then those of the second at the places where
they stand now; a question mark at the end of the first is a placeholder by itself either way.
-/

/-- Where tokens stand does not matter to their placeholders. -/
theorem Token.kinds_map_shifted (n : Nat) (tokens : List Token) :
    kinds (tokens.map (shifted n)) = kinds tokens := by
  rw [kinds, List.filterMap_map]
  rfl

/-- A character in front of tokens that stand further to the right. -/
theorem Token.map_shifted_glue (n : Nat) (c : Char) (pos : Nat) (tokens : List Token) :
    (glue c pos tokens).map (shifted n) = glue c (pos + n) (tokens.map (shifted n)) := by
  cases tokens with
  | nil => rfl
  | cons first rest =>
    obtain ⟨lexeme, position⟩ := first
    cases lexeme <;> rfl

/-- The tokens of a chunk that stands further to the right. -/
theorem tokensOfChunk_add (pos n : Nat) (s : Text) :
    tokensOfChunk (pos + n) s = (tokensOfChunk pos s).map (Token.shifted n) := by
  have hnext : ∀ pos k : Nat, pos + n + k = pos + k + n := fun pos k => Nat.add_right_comm pos n k
  fun_induction tokensOfChunk pos s with
  | case1 pos => rfl
  | case2 pos rest ih => rw [tokensOfChunk, hnext, ih]; rfl
  | case3 pos rest ih => rw [tokensOfChunk, hnext, ih]; rfl
  | case4 pos => rfl
  | case5 pos c rest k hk ih => rw [tokensOfChunk, hk, List.map_cons, ← ih, ← hnext]; rfl
  | case6 pos c rest hk ih =>
    rw [tokensOfChunk, hk, Token.map_shifted_glue, ← ih, ← hnext]
  | case7 pos c rest hopen hclose hlast hmark ih =>
    rw [tokensOfChunk, Token.map_shifted_glue, ← ih, ← hnext]
    · exact hopen
    · exact hclose
    · exact hlast
    · exact hmark

/-- The tokens of a chunk that stands further to the right, with the separator behind it. -/
theorem Chunk.tokens_shifted (n : Nat) (c : Chunk) :
    (c.shifted n).tokens = c.tokens.map (Token.shifted n) := by
  have hstop : (c.shifted n).stop = c.stop + n := Nat.add_right_comm c.start n c.text.length
  rw [Chunk.tokens_eq, Chunk.tokens_eq, List.map_append, ← tokensOfChunk_add, hstop]
  rfl

/-- The tokens of two templates with blanks between them: those of the first, and then those of the
second at the places where they stand now. -/
theorem tokenize_append_blanks {w : Text} (hw : w ≠ []) (hblank : ∀ c ∈ w, isBlank c = true)
    (s t : Text) :
    tokenize (s ++ w ++ t) =
      tokenize s ++ (tokenize t).map (Token.shifted (s.length + w.length)) := by
  obtain ⟨b, rest, rfl⟩ := List.exists_cons_of_ne_nil hw
  have hb : isBlank b = true := hblank b List.mem_cons_self
  have hrest : ∀ c ∈ rest, isBlank c = true := fun c hc => hblank c (List.mem_cons_of_mem b hc)
  have hplace : s.length + 1 + rest.length = s.length + (b :: rest).length := by
    rw [List.length_cons]
    omega
  have hchunks : chunks (s ++ b :: rest ++ t) =
      chunks s ++ (chunks t).map (Chunk.shifted (s.length + (b :: rest).length)) := by
    rw [chunks, chunks, chunks, List.append_assoc, List.cons_append, chunksFrom_append_blank hb,
      chunksFrom_blanks_append hrest, ← chunksFrom_add, Nat.zero_add, Nat.zero_add, hplace]
  rw [tokenize, hchunks, List.flatMap_append, List.flatMap_map]
  simp only [Chunk.tokens_shifted]
  rw [← List.map_flatMap]
  rfl

/-- Two templates with blanks between them have the placeholders of both. -/
theorem countPlaceholders_append_blanks {w : Text} (hw : w ≠ [])
    (hblank : ∀ c ∈ w, isBlank c = true) (s t : Text) :
    countPlaceholders (s ++ w ++ t) = countPlaceholders s + countPlaceholders t := by
  rw [← length_kinds_tokenize, tokenize_append_blanks hw hblank, Token.kinds_append,
    Token.kinds_map_shifted, List.length_append, length_kinds_tokenize, length_kinds_tokenize]

/-! ### Separators -/

/-- A literal of a template is a separator or holds no blank. -/
theorem solid_of_mem_tokenize {template text : Text} {position : Nat}
    (h : ⟨.literal text, position⟩ ∈ tokenize template) :
    text = Token.separator ∨ ∀ c ∈ text, isBlank c = false := by
  obtain ⟨c, hc, ht⟩ := List.mem_flatMap.mp h
  rw [Chunk.tokens_eq] at ht
  rcases List.mem_append.mp ht with ht | ht
  · -- inside a chunk there is no blank
    obtain ⟨p, -, hpart⟩ := (tokensOfChunk_tiles c.start c.text).partAt ht
    exact .inr fun d hd => not_isBlank_of_mem_chunk hc (hpart.subset hd)
  · have hseparator := (Token.mk.inj (List.mem_singleton.mp ht)).1
    exact .inl (Lexeme.literal.inj hseparator)

/-- Behind the last chunk of a template that has one stands a separator. -/
theorem tokenize_eq_concat_separator {template : Text} (h : ∃ c ∈ template, isBlank c = false) :
    ∃ before position, tokenize template = before ++ [⟨.literal Token.separator, position⟩] := by
  obtain ⟨c, hc, hsolid⟩ := h
  rcases List.eq_nil_or_concat' (chunks template) with hnone | ⟨first, last, hlast⟩
  · rw [isBlank_of_chunksFrom_eq_nil hnone c hc] at hsolid
    cases hsolid
  · refine ⟨first.flatMap Chunk.tokens ++ tokensOfChunk last.start last.text, last.stop, ?_⟩
    rw [tokenize, hlast, List.flatMap_append, List.flatMap_cons, List.flatMap_nil, List.append_nil,
      Chunk.tokens_eq, List.append_assoc]

end QueryTemplate
