import Mathlib.Data.List.Basic
import QueryTemplate.Proofs.Template.Tiling
import QueryTemplate.Proofs.Template.Words

/-!
# The places of chunks and tokens

The chunks of a template are its longest stretches without blanks, each of them once and from left
to right. Its tokens stand one behind the other and never share a place: a token begins where the
one before it ends, or further to the right. The separator behind a chunk has the place of the blank
that ends the chunk, or the one behind the template. Every solid character lies in the place of one
token, and of one only.
-/

namespace QueryTemplate

/-! ## Chunks -/

/-- A chunk that is a longest solid stretch of the template: it is not empty and holds no blank, and
a blank or the end of the template is on either side of it. -/
structure Chunk.IsStretch (template : Text) (c : Chunk) : Prop where
  ne_nil : c.text ≠ []
  solid : ∀ d ∈ c.text, isBlank d = false
  between : ∃ before after, template = before ++ c.text ++ after ∧ before.length = c.start ∧
    (∀ d ∈ before.getLast?, isBlank d = true) ∧ ∀ d ∈ after.head?, isBlank d = true

/-- Behind the longest solid beginning of a text comes a blank, or the text ends. -/
theorem isBlank_of_head?_dropWhile {t : Text} {d : Char} (hd : d ∈ (t.dropWhile isSolid).head?) :
    isBlank d = true := by
  have hsolid := List.head?_dropWhile_not isSolid t
  rw [Option.mem_def.mp hd] at hsolid
  simpa [isSolid] using hsolid

/-- A solid text is one chunk. -/
theorem chunksFrom_of_solid {t : Text} (hne : t ≠ []) (hsolid : ∀ d ∈ t, isBlank d = false)
    (pos : Nat) : chunksFrom pos t = [⟨pos, t⟩] := by
  obtain ⟨c, rest, rfl⟩ := List.exists_cons_of_ne_nil hne
  have hrest : ∀ d ∈ rest, isSolid d = true := by
    intro d hd
    rw [isSolid, hsolid d (List.mem_cons_of_mem c hd)]
    rfl
  have hc : ¬isBlank c = true := by
    rw [hsolid c List.mem_cons_self]
    exact Bool.false_ne_true
  rw [chunksFrom, if_neg hc]
  simp only [List.takeWhile_eq_self_iff.mpr hrest, List.dropWhile_eq_nil_iff.mpr hrest]
  rw [chunksFrom]

/-- A chunk starts no earlier than the text it is a chunk of, -/
theorem le_start_of_mem_chunksFrom {pos : Nat} {t : Text} {c : Chunk} (hc : c ∈ chunksFrom pos t) :
    pos ≤ c.start := by
  obtain ⟨p, hp, -⟩ := chunksFrom_positions hc
  omega

/-- and later, if the text begins with a blank. -/
theorem lt_start_of_mem_chunksFrom {pos : Nat} {t : Text} {c : Chunk}
    (hhead : ∀ d ∈ t.head?, isBlank d = true) (hc : c ∈ chunksFrom pos t) : pos < c.start := by
  cases t with
  | nil =>
    rw [chunksFrom] at hc
    cases hc
  | cons b rest =>
    rw [chunksFrom_cons_blank (hhead b rfl)] at hc
    exact le_start_of_mem_chunksFrom hc

/-- A chunk has a blank or an end of the text on either side. -/
theorem isStretch_of_mem_chunksFrom {pos : Nat} {t : Text} {c : Chunk} (hc : c ∈ chunksFrom pos t) :
    c.text ≠ [] ∧ ∃ before after, t = before ++ c.text ++ after ∧ pos + before.length = c.start ∧
      (∀ d ∈ before.getLast?, isBlank d = true) ∧ ∀ d ∈ after.head?, isBlank d = true := by
  fun_induction chunksFrom pos t with
  | case1 pos => cases hc
  | case2 pos b rest hb ih =>
    -- a blank in front goes to what is before the stretch
    obtain ⟨hne, before, after, rfl, hstart, hlast, hhead⟩ := ih hc
    refine ⟨hne, b :: before, after, rfl, ?_, ?_, hhead⟩
    · rw [List.length_cons]
      omega
    · intro d hd
      rw [List.getLast?_cons, Option.mem_some_iff] at hd
      cases hbefore : before.getLast? with
      | none =>
        rw [hbefore] at hd
        rw [← hd]
        exact hb
      | some e =>
        rw [hbefore] at hd
        exact hlast d (by rw [hbefore, ← hd]; rfl)
  | case3 pos b rest hb chunk ih =>
    -- the first chunk has nothing before it
    rcases List.mem_cons.mp hc with rfl | hc
    · refine ⟨List.cons_ne_nil _ _, [], rest.dropWhile isSolid, ?_, rfl, ?_, ?_⟩
      · simp only [chunk, List.nil_append, List.cons_append, List.takeWhile_append_dropWhile]
      · intro d hd
        cases hd
      · exact fun d hd => isBlank_of_head?_dropWhile hd
    · -- a blank is between the first chunk and the one looked at
      have hlt := lt_start_of_mem_chunksFrom (fun d hd => isBlank_of_head?_dropWhile hd) hc
      obtain ⟨hne, before, after, hrest, hstart, hlast, hhead⟩ := ih hc
      have hbefore : before ≠ [] := by
        rintro rfl
        rw [List.length_nil] at hstart
        omega
      refine ⟨hne, chunk.text ++ before, after, ?_, ?_, ?_, hhead⟩
      · have hsplit := List.takeWhile_append_dropWhile (p := isSolid) (l := rest)
        rw [hrest] at hsplit
        simp only [chunk, List.cons_append, List.append_assoc] at hsplit ⊢
        rw [hsplit]
      · have hstop : chunk.stop = pos + chunk.text.length := rfl
        rw [List.length_append, ← hstart, hstop, Nat.add_assoc]
      · rw [List.getLast?_append_of_ne_nil chunk.text hbefore]
        exact hlast

/-- The chunks of a template are its longest stretches without blanks. -/
theorem mem_chunks_iff {template : Text} {c : Chunk} :
    c ∈ chunks template ↔ c.IsStretch template := by
  constructor
  · intro hc
    obtain ⟨hne, before, after, htemplate, hstart, hlast, hhead⟩ := isStretch_of_mem_chunksFrom hc
    refine ⟨hne, fun d hd => not_isBlank_of_mem_chunk hc hd, before, after, htemplate, ?_, hlast,
      hhead⟩
    rw [← hstart, Nat.zero_add]
  · rintro ⟨hne, hsolid, before, after, rfl, hstart, hlast, hhead⟩
    -- cut off what is behind the stretch, and then what is in front of it
    have hbehind : ∀ pos, ⟨pos, c.text⟩ ∈ chunksFrom pos (c.text ++ after) := by
      intro pos
      cases after with
      | nil =>
        rw [List.append_nil, chunksFrom_of_solid hne hsolid]
        exact List.mem_singleton_self _
      | cons b rest =>
        rw [chunksFrom_append_blank (hhead b rfl), chunksFrom_of_solid hne hsolid]
        exact List.mem_append_left _ (List.mem_singleton_self _)
    have hc : c = ⟨before.length, c.text⟩ := by rw [hstart]
    rw [hc, chunks, List.append_assoc]
    rcases List.eq_nil_or_concat' before with rfl | ⟨first, b, rfl⟩
    · exact hbehind 0
    -- the blank in front of the stretch parts its chunk from the others
    · have hb : isBlank b = true := hlast b (by rw [List.getLast?_concat]; rfl)
      rw [List.append_assoc, List.singleton_append, chunksFrom_append_blank hb, Nat.zero_add]
      refine List.mem_append_right _ ?_
      rw [List.length_append, List.length_singleton]
      exact hbehind _

/-- The chunks of a text stand from left to right, with blanks between them. -/
theorem chunksFrom_pairwise (pos : Nat) (t : Text) :
    (chunksFrom pos t).Pairwise fun a b => a.stop < b.start := by
  fun_induction chunksFrom pos t with
  | case1 pos => exact .nil
  | case2 pos b rest hb ih => exact ih
  | case3 pos b rest hb chunk ih =>
    refine List.pairwise_cons.mpr ⟨fun c hc => ?_, ih⟩
    exact lt_start_of_mem_chunksFrom (fun d hd => isBlank_of_head?_dropWhile hd) hc

/-- The chunks of a template stand from left to right, with blanks between them. -/
theorem chunks_pairwise (template : Text) :
    (chunks template).Pairwise fun a b => a.stop < b.start := chunksFrom_pairwise 0 template

/-- A solid character lies in a chunk. -/
theorem exists_chunk_of_solid (pos p : Nat) {t : Text} {c : Char} (hc : t[p]? = some c)
    (hsolid : isBlank c = false) :
    ∃ chunk ∈ chunksFrom pos t, chunk.start ≤ pos + p ∧ pos + p < chunk.stop := by
  fun_induction chunksFrom pos t generalizing p with
  | case1 pos => cases hc
  | case2 pos b rest hb ih =>
    cases p with
    | zero =>
      -- the character is no blank
      rw [List.getElem?_cons_zero, Option.some.injEq] at hc
      rw [hc, hsolid] at hb
      cases hb
    | succ p =>
      obtain ⟨chunk, hmem, hstart, hstop⟩ := ih p hc
      exact ⟨chunk, hmem, by omega, by omega⟩
  | case3 pos b rest hb chunk ih =>
    have hlength : chunk.stop = pos + chunk.text.length := rfl
    -- it lies in the first chunk, or behind it
    by_cases hlt : p < chunk.text.length
    · exact ⟨chunk, List.mem_cons_self, Nat.le_add_right pos p, by omega⟩
    · have hsplit : b :: rest = chunk.text ++ rest.dropWhile isSolid := by
        simp only [chunk, List.cons_append, List.takeWhile_append_dropWhile]
      rw [hsplit, List.getElem?_append_right (Nat.le_of_not_lt hlt)] at hc
      obtain ⟨found, hmem, hstart, hstop⟩ := ih _ hc
      exact ⟨found, List.mem_cons_of_mem _ hmem, by omega, by omega⟩

/-! ## Tokens -/

namespace Token

/-- The position behind the last character. -/
def stop (t : Token) : Nat := t.position + t.text.length

/-- The character at position `p` lies in the place of the token. -/
def Covers (t : Token) (p : Nat) : Prop := t.position ≤ p ∧ p < t.stop

variable {pos : Nat} {tokens : List Token} {s : Text}

/-- Tokens that tile a text lie within it. -/
theorem Tiles.bounds (h : Tiles pos tokens s) {t : Token} (ht : t ∈ tokens) :
    pos ≤ t.position ∧ t.stop ≤ pos + s.length := by
  obtain ⟨p, hp, before, after, rfl, hlength⟩ := h.partAt ht
  simp only [stop, List.length_append]
  omega

/-- Tokens that tile a text stand one behind the other. -/
theorem Tiles.pairwise (h : Tiles pos tokens s) :
    tokens.Pairwise fun a b => a.stop ≤ b.position := by
  induction tokens generalizing pos s with
  | nil => exact .nil
  | cons first rest ih =>
    obtain ⟨rfl, behind, rfl, hrest⟩ := h
    exact List.pairwise_cons.mpr ⟨fun t ht => (hrest.bounds ht).1, ih hrest⟩

/-- Tokens that tile a text leave no place of it out. -/
theorem Tiles.exists_covers (h : Tiles pos tokens s) {p : Nat} (hp : p < s.length) :
    ∃ t ∈ tokens, t.Covers (pos + p) := by
  induction tokens generalizing pos s p with
  | nil =>
    rw [show s = [] from h] at hp
    cases hp
  | cons first rest ih =>
    obtain ⟨rfl, behind, rfl, hrest⟩ := h
    by_cases hlt : p < first.text.length
    · exact ⟨first, List.mem_cons_self, Nat.le_add_right _ _, Nat.add_lt_add_left hlt _⟩
    · rw [List.length_append] at hp
      obtain ⟨t, ht, hcovers⟩ := ih hrest (p := p - first.text.length) (by omega)
      have hplace : first.position + first.text.length + (p - first.text.length) =
          first.position + p := by
        omega
      rw [hplace] at hcovers
      exact ⟨t, List.mem_cons_of_mem _ ht, hcovers⟩

end Token

/-- The tokens of a chunk begin within it and end with the separator behind it. -/
theorem Chunk.bounds_of_mem_tokens {c : Chunk} {t : Token} (ht : t ∈ c.tokens) :
    c.start ≤ t.position ∧ t.stop ≤ c.stop + 1 := by
  rw [Chunk.tokens_eq] at ht
  rcases List.mem_append.mp ht with ht | ht
  · have hbounds := (tokensOfChunk_tiles c.start c.text).bounds ht
    rw [Chunk.stop]
    omega
  · rw [List.mem_singleton.mp ht]
    exact ⟨Nat.le_add_right _ _, Nat.le_refl _⟩

/-- The tokens of a chunk stand one behind the other, and the separator behind them. -/
theorem Chunk.tokens_pairwise (c : Chunk) : c.tokens.Pairwise fun a b => a.stop ≤ b.position := by
  have htiles := tokensOfChunk_tiles c.start c.text
  rw [Chunk.tokens_eq]
  refine List.pairwise_append.mpr ⟨htiles.pairwise, List.pairwise_singleton _ _, ?_⟩
  intro a ha b hb
  rw [List.mem_singleton.mp hb]
  exact (htiles.bounds ha).2

/-- The tokens of a template stand one behind the other. -/
theorem tokenize_pairwise (template : Text) :
    (tokenize template).Pairwise fun a b => a.stop ≤ b.position := by
  refine List.pairwise_flatMap.mpr ⟨fun c _ => c.tokens_pairwise, ?_⟩
  refine (chunks_pairwise template).imp ?_
  intro first second hlt a ha b hb
  have hfirst := Chunk.bounds_of_mem_tokens ha
  have hsecond := Chunk.bounds_of_mem_tokens hb
  omega

/-- Inside a chunk, tokens hold no blank. -/
theorem not_isBlank_of_mem_tokensOfChunk {template : Text} {c : Chunk} (hc : c ∈ chunks template)
    {t : Token} (ht : t ∈ tokensOfChunk c.start c.text) : ∀ d ∈ t.text, isBlank d = false := by
  obtain ⟨p, -, hpart⟩ := (tokensOfChunk_tiles c.start c.text).partAt ht
  exact fun d hd => not_isBlank_of_mem_chunk hc (hpart.subset hd)

/-- A separator is a blank. -/
theorem Token.lexeme_ne_separator {t : Token} (h : ∀ d ∈ t.text, isBlank d = false) :
    t.lexeme ≠ .literal separator := by
  intro hseparator
  have hspace : ' ' ∈ t.text := by
    rw [text, hseparator]
    exact List.mem_singleton_self _
  have hsolid := h _ hspace
  revert hsolid
  decide

/-- A token of a template stands inside a chunk, or is the separator behind one. -/
theorem mem_tokenize_iff {template : Text} {t : Token} :
    t ∈ tokenize template ↔
      (∃ c ∈ chunks template, t ∈ tokensOfChunk c.start c.text) ∨
        ∃ c ∈ chunks template, t = ⟨.literal Token.separator, c.stop⟩ := by
  simp only [tokenize, List.mem_flatMap, Chunk.tokens_eq, List.mem_append, List.mem_singleton,
    and_or_left, exists_or]

/-- Only a separator holds a blank. -/
theorem not_isBlank_of_mem_tokenize {template : Text} {t : Token} (ht : t ∈ tokenize template)
    (hne : t.lexeme ≠ .literal Token.separator) : ∀ d ∈ t.text, isBlank d = false := by
  rcases mem_tokenize_iff.mp ht with ⟨c, hc, ht⟩ | ⟨c, -, rfl⟩
  · exact not_isBlank_of_mem_tokensOfChunk hc ht
  · exact absurd rfl hne

/-- A solid character lies in the place of a token that is no separator. -/
theorem exists_covers {template : Text} {p : Nat} {c : Char} (hc : template[p]? = some c)
    (hsolid : isBlank c = false) :
    ∃ t ∈ tokenize template, t.Covers p ∧ t.lexeme ≠ .literal Token.separator := by
  obtain ⟨chunk, hchunk, hstart, hstop⟩ := exists_chunk_of_solid 0 p hc hsolid
  rw [Nat.zero_add] at hstart hstop
  rw [Chunk.stop] at hstop
  obtain ⟨t, ht, hcovers⟩ :=
    (tokensOfChunk_tiles chunk.start chunk.text).exists_covers (p := p - chunk.start) (by omega)
  rw [Nat.add_sub_cancel' hstart] at hcovers
  refine ⟨t, mem_tokenize_iff.mpr (.inl ⟨chunk, hchunk, ht⟩), hcovers, ?_⟩
  exact Token.lexeme_ne_separator (not_isBlank_of_mem_tokensOfChunk hchunk ht)

/-- Only one token has a place. -/
theorem index_eq_of_covers {template : Text} {i j p : Nat} {a b : Token}
    (ha : (tokenize template)[i]? = some a) (hb : (tokenize template)[j]? = some b)
    (hpa : a.Covers p) (hpb : b.Covers p) : i = j := by
  obtain ⟨hi, rfl⟩ := List.getElem?_eq_some_iff.mp ha
  obtain ⟨hj, rfl⟩ := List.getElem?_eq_some_iff.mp hb
  have hpairwise := List.pairwise_iff_getElem.mp (tokenize_pairwise template)
  obtain ⟨hai, has⟩ := hpa
  obtain ⟨hbi, hbs⟩ := hpb
  rcases Nat.lt_trichotomy i j with hlt | heq | hgt
  · have := hpairwise i j hi hj hlt
    omega
  · exact heq
  · have := hpairwise j i hj hi hgt
    omega

/-- Two tokens that share a place are one token. -/
theorem eq_of_covers {template : Text} {p : Nat} {a b : Token} (ha : a ∈ tokenize template)
    (hb : b ∈ tokenize template) (hpa : a.Covers p) (hpb : b.Covers p) : a = b := by
  obtain ⟨i, hi⟩ := List.mem_iff_getElem?.mp ha
  obtain ⟨j, hj⟩ := List.mem_iff_getElem?.mp hb
  rw [index_eq_of_covers hi hj hpa hpb, hj] at hi
  exact (Option.some.inj hi).symm

end QueryTemplate
