import Mathlib.Data.List.Chain
import QueryTemplate.Proofs.Template.Places

/-!
# The grammar of a template, character by character

Reading a template is a search from left to right that begins anew behind every token. What it finds
can be told at each character alone, from that character and the next one: a brace is a brace
wherever it stands, and a question mark is a placeholder before a letter that declares a kind,
before a blank and at the end. Of what is left, every solid character that declares no kind belongs
to a literal, and literals are as long as possible.
-/

namespace QueryTemplate

namespace Text

/-- The placeholder at offset `p`, told from the character there and the next one. -/
def placeholderAt? (t : Text) (p : Nat) : Option Placeholder :=
  if t[p]? = some '?' then
    match t[p + 1]? with
    | none => some .generic
    | some c => if isBlank c then some .generic else Placeholder.ofSuffix? c
  else none

/-- The brace or the placeholder at offset `p`. -/
def markAt? (t : Text) (p : Nat) : Option Lexeme :=
  if t[p]? = some '{' then some .blockOpen
  else if t[p]? = some '}' then some .blockClose
  else (t.placeholderAt? p).map fun k => .placeholder (some k)

/-- The rule for placeholders, spelled out. -/
theorem placeholderAt?_eq_some_iff {t : Text} {p : Nat} {k : Placeholder} :
    t.placeholderAt? p = some k ↔
      t[p]? = some '?' ∧ ((∃ c, t[p + 1]? = some c ∧ k.suffix? = some c) ∨
        (k = .generic ∧ ∀ c, t[p + 1]? = some c → isBlank c = true)) := by
  unfold placeholderAt?
  split
  · rename_i hmark
    cases hnext : t[p + 1]? with
    | none => simpa [hmark] using (eq_comm : Placeholder.generic = k ↔ k = .generic)
    | some c =>
      cases hblank : isBlank c with
      | true =>
        -- no blank declares a kind
        have hsuffix : k.suffix? ≠ some c := by
          intro h
          cases k <;> cases h <;> revert hblank <;> decide
        simpa [hmark, hblank, hsuffix] using (eq_comm : Placeholder.generic = k ↔ k = .generic)
      | false => simp [hmark, hblank, Placeholder.ofSuffix?_eq_some_iff]
  · rename_i hmark
    simp [hmark]

theorem markAt?_eq_blockOpen_iff {t : Text} {p : Nat} :
    t.markAt? p = some .blockOpen ↔ t[p]? = some '{' := by
  unfold markAt?
  split
  · simp [*]
  · split <;> simp [*]

theorem markAt?_eq_blockClose_iff {t : Text} {p : Nat} :
    t.markAt? p = some .blockClose ↔ t[p]? = some '}' := by
  unfold markAt?
  split
  · simp [*]
  · split <;> simp [*]

theorem markAt?_eq_placeholder_iff {t : Text} {p : Nat} {kind : Option Placeholder} :
    t.markAt? p = some (.placeholder kind) ↔ ∃ k, kind = some k ∧ t.placeholderAt? p = some k := by
  unfold markAt?
  split
  · rename_i hopen
    simp [placeholderAt?, hopen]
  · split
    · rename_i hclose
      simp [placeholderAt?, hclose]
    · cases t.placeholderAt? p <;> simp [eq_comm]

end Text

/-! ## All that the rule finds -/

/-- The braces and the placeholders of a text whose first character stands at position `pos`. -/
def marksFrom (pos : Nat) (t : Text) : List Token :=
  (List.range t.length).filterMap fun p => (t.markAt? p).map fun l => ⟨l, pos + p⟩

/-- What the rule finds at the first character, and then what it finds behind it. -/
theorem marksFrom_cons (pos : Nat) (c : Char) (rest : Text) :
    marksFrom pos (c :: rest) =
      ((Text.markAt? (c :: rest) 0).toList.map fun l => ⟨l, pos⟩) ++ marksFrom (pos + 1) rest := by
  have hrest : (List.range rest.length).filterMap
      ((fun p => (Text.markAt? (c :: rest) p).map fun l => Token.mk l (pos + p)) ∘ Nat.succ) =
        marksFrom (pos + 1) rest := by
    refine List.filterMap_congr fun p _ => ?_
    show (Text.markAt? rest p).map (fun l => Token.mk l (pos + (p + 1))) = _
    rw [Nat.add_right_comm, Nat.add_assoc]
  rw [marksFrom, List.length_cons, List.range_succ_eq_map, List.filterMap_cons,
    List.filterMap_map, hrest]
  cases Text.markAt? (c :: rest) 0 <;> rfl

/-- A character that is no brace and no question mark is passed over. -/
theorem marksFrom_cons_of_ne {c : Char} (hopen : c ≠ '{') (hclose : c ≠ '}') (hmark : c ≠ '?')
    (pos : Nat) (rest : Text) : marksFrom pos (c :: rest) = marksFrom (pos + 1) rest := by
  have hnone : Text.markAt? (c :: rest) 0 = none := by
    simp [Text.markAt?, Text.placeholderAt?, hopen, hclose, hmark]
  rw [marksFrom_cons, hnone]
  rfl

/-- A blank is passed over. -/
theorem marksFrom_cons_blank {b : Char} (hb : isBlank b = true) (pos : Nat) (rest : Text) :
    marksFrom pos (b :: rest) = marksFrom (pos + 1) rest := by
  refine marksFrom_cons_of_ne ?_ ?_ ?_ pos rest
  all_goals
    rintro rfl
    revert hb
    decide

/-- What the rule finds at a character does not change if a text that begins with a blank is put
behind. -/
theorem markAt?_zero_append {t : Text} (h : ∀ d ∈ t.head?, isBlank d = true) (c : Char)
    (rest : Text) : Text.markAt? (c :: (rest ++ t)) 0 = Text.markAt? (c :: rest) 0 := by
  cases rest with
  | cons d behind => rfl
  | nil =>
    cases t with
    | nil => rfl
    | cons b behind =>
      have hb := h b rfl
      simp [Text.markAt?, Text.placeholderAt?, hb]

/-- What the rule finds in a text, and then what it finds in one that begins with a blank. -/
theorem marksFrom_append {t : Text} (h : ∀ d ∈ t.head?, isBlank d = true) (pos : Nat) (s : Text) :
    marksFrom pos (s ++ t) = marksFrom pos s ++ marksFrom (pos + s.length) t := by
  induction s generalizing pos with
  | nil => rfl
  | cons c rest ih =>
    rw [List.cons_append, marksFrom_cons, markAt?_zero_append h, ih, marksFrom_cons,
      List.append_assoc, List.length_cons, Nat.add_right_comm, Nat.add_assoc]

/-- Where a mark is found, the rule says so. -/
theorem mem_marksFrom_zero_iff {t : Text} {l : Lexeme} {p : Nat} :
    ⟨l, p⟩ ∈ marksFrom 0 t ↔ t.markAt? p = some l := by
  simp only [marksFrom, List.mem_filterMap, List.mem_range, Option.map_eq_some_iff,
    Token.mk.injEq, Nat.zero_add]
  constructor
  · rintro ⟨q, -, found, hfound, rfl, rfl⟩
    exact hfound
  · intro h
    refine ⟨p, ?_, l, h, rfl, rfl⟩
    -- behind the end of the text nothing is found
    by_contra hlt
    have hnone : t[p]? = none := List.getElem?_eq_none (Nat.le_of_not_lt hlt)
    simp [Text.markAt?, Text.placeholderAt?, hnone] at h

/-! ## The tokens that are no literals -/

namespace Token

/-- Whether a token is a brace or a placeholder. -/
def isMark (t : Token) : Bool :=
  match t.lexeme with
  | .literal _ => false
  | _ => true

/-- A character in front of tokens is no brace and no placeholder, and changes none. -/
theorem filter_isMark_glue (c : Char) (pos : Nat) (tokens : List Token) :
    (glue c pos tokens).filter isMark = tokens.filter isMark := by
  cases tokens with
  | nil => rfl
  | cons first rest =>
    obtain ⟨lexeme, position⟩ := first
    cases lexeme <;> rfl

end Token

/-- In a chunk, the search finds what the rule finds. -/
theorem filter_isMark_tokensOfChunk (pos : Nat) {s : Text} (hs : ∀ c ∈ s, isBlank c = false) :
    (tokensOfChunk pos s).filter Token.isMark = marksFrom pos s := by
  fun_induction tokensOfChunk pos s with
  | case1 pos => rfl
  | case2 pos rest ih =>
    -- a brace at the start of what is left,
    rw [marksFrom_cons, ← ih fun c hc => hs c (List.mem_cons_of_mem _ hc)]
    rfl
  | case3 pos rest ih =>
    rw [marksFrom_cons, ← ih fun c hc => hs c (List.mem_cons_of_mem _ hc)]
    rfl
  | case4 pos => rfl
  | case5 pos c rest k hk ih =>
    have hsolid := hs c (List.mem_cons_of_mem _ List.mem_cons_self)
    have hfirst : Text.markAt? ('?' :: c :: rest) 0 = some (.placeholder (some k)) := by
      simp [Text.markAt?, Text.placeholderAt?, hsolid, hk]
    -- the letter behind the question mark is no mark itself
    have hsecond : marksFrom (pos + 1) (c :: rest) = marksFrom (pos + 2) rest := by
      have hsuffix := Placeholder.ofSuffix?_eq_some_iff.mp hk
      refine marksFrom_cons_of_ne ?_ ?_ ?_ (pos + 1) rest
      all_goals
        rintro rfl
        cases k <;> cases hsuffix
    rw [marksFrom_cons, hfirst, hsecond,
      ← ih fun d hd => hs d (List.mem_cons_of_mem _ (List.mem_cons_of_mem _ hd))]
    rfl
  | case6 pos c rest hk ih =>
    -- a question mark before a character that declares no kind,
    have hsolid := hs c (List.mem_cons_of_mem _ List.mem_cons_self)
    have hfirst : Text.markAt? ('?' :: c :: rest) 0 = none := by
      simp [Text.markAt?, Text.placeholderAt?, hsolid, hk]
    rw [Token.filter_isMark_glue, marksFrom_cons, hfirst,
      ih fun d hd => hs d (List.mem_cons_of_mem _ hd)]
    rfl
  | case7 pos c rest hopen hclose hlast hmark ih =>
    -- any other character: it is no question mark, as one was looked for before
    have hc : c ≠ '?' := by
      rintro rfl
      cases rest with
      | nil => exact hlast rfl rfl
      | cons d behind => exact hmark d behind rfl rfl
    rw [Token.filter_isMark_glue, marksFrom_cons_of_ne hopen hclose hc,
      ih fun d hd => hs d (List.mem_cons_of_mem _ hd)]

/-- In a text cut into chunks, the search finds what the rule finds. -/
theorem filter_isMark_chunksFrom (pos : Nat) (t : Text) :
    ((chunksFrom pos t).flatMap Chunk.tokens).filter Token.isMark = marksFrom pos t := by
  fun_induction chunksFrom pos t with
  | case1 pos => rfl
  | case2 pos c rest hc ih => rw [ih, marksFrom_cons_blank hc]
  | case3 pos c rest hc chunk ih =>
    have hsplit : c :: rest = chunk.text ++ rest.dropWhile isSolid := by
      simp only [chunk, List.cons_append, List.takeWhile_append_dropWhile]
    have hchunk : chunk.tokens.filter Token.isMark = marksFrom pos chunk.text := by
      rw [Chunk.tokens_eq, List.filter_append]
      rw [filter_isMark_tokensOfChunk chunk.start fun d hd => not_isBlank_of_mem_solid hc hd]
      exact List.append_nil _
    rw [List.flatMap_cons, List.filter_append, hchunk, ih, hsplit,
      marksFrom_append fun d hd => isBlank_of_head?_dropWhile hd]
    rfl

/-- The braces and the placeholders among the tokens of a template are what the rule finds. -/
theorem filter_isMark_tokenize (template : Text) :
    (tokenize template).filter Token.isMark = marksFrom 0 template :=
  filter_isMark_chunksFrom 0 template

/-- A brace or a placeholder stands where the rule finds it. -/
theorem mem_tokenize_iff_markAt? {template : Text} {l : Lexeme} {p : Nat}
    (hl : Token.isMark ⟨l, p⟩ = true) :
    ⟨l, p⟩ ∈ tokenize template ↔ template.markAt? p = some l := by
  rw [← mem_marksFrom_zero_iff, ← filter_isMark_tokenize, List.mem_filter]
  simp [hl]

/-! ## Literals are as long as possible -/

namespace Token

/-- Two neighbours of which at most one is a literal, unless the other is a separator. -/
def Apart (a b : Token) : Prop :=
  (a.isMark = true ∨ b.isMark = true) ∨
    a.lexeme = .literal separator ∨ b.lexeme = .literal separator

/-- A character in front of tokens joins the literal it stands before. -/
theorem isChain_glue {tokens : List Token}
    (h : tokens.IsChain fun a b => a.isMark = true ∨ b.isMark = true) (c : Char) (pos : Nat) :
    (glue c pos tokens).IsChain fun a b => a.isMark = true ∨ b.isMark = true := by
  cases tokens with
  | nil => exact .singleton _
  | cons first rest =>
    obtain ⟨lexeme, position⟩ := first
    cases lexeme with
    | literal t => exact List.isChain_cons.mpr (List.isChain_cons.mp h)
    | placeholder kind => exact List.isChain_cons_cons.mpr ⟨.inr rfl, h⟩
    | blockOpen => exact List.isChain_cons_cons.mpr ⟨.inr rfl, h⟩
    | blockClose => exact List.isChain_cons_cons.mpr ⟨.inr rfl, h⟩

end Token

/-- In a chunk, no two literals stand side by side. -/
theorem tokensOfChunk_isChain (pos : Nat) (s : Text) :
    (tokensOfChunk pos s).IsChain fun a b => a.isMark = true ∨ b.isMark = true := by
  fun_induction tokensOfChunk pos s with
  | case1 pos => exact .nil
  | case2 pos rest ih => exact List.isChain_cons.mpr ⟨fun _ _ => .inl rfl, ih⟩
  | case3 pos rest ih => exact List.isChain_cons.mpr ⟨fun _ _ => .inl rfl, ih⟩
  | case4 pos => exact .singleton _
  | case5 pos c rest k hk ih => exact List.isChain_cons.mpr ⟨fun _ _ => .inl rfl, ih⟩
  | case6 pos c rest hk ih => exact Token.isChain_glue ih '?' pos
  | case7 pos c rest _ _ _ _ ih => exact Token.isChain_glue ih c pos

/-- In a template, no two literals stand side by side but for the separators. -/
theorem tokenize_isChain (template : Text) : (tokenize template).IsChain Token.Apart := by
  unfold tokenize
  induction chunks template with
  | nil => exact .nil
  | cons c rest ih =>
    have hchunk := (tokensOfChunk_isChain c.start c.text).imp
      fun a b (h : a.isMark = true ∨ b.isMark = true) => (.inl h : Token.Apart a b)
    have hseparator : ∀ tokens : List Token, tokens.IsChain Token.Apart →
        (Token.mk (.literal Token.separator) c.stop :: tokens).IsChain Token.Apart :=
      fun tokens h => List.isChain_cons.mpr ⟨fun _ _ => .inr (.inl rfl), h⟩
    rw [List.flatMap_cons, Chunk.tokens_eq, List.append_assoc, List.singleton_append]
    refine List.isChain_append.mpr ⟨hchunk, hseparator _ ih, ?_⟩
    intro a _ b hb
    rw [← Option.some.inj hb]
    exact .inr (.inr rfl)

/-! ## The characters of literals -/

/-- A character that belongs to a literal: it is solid, no brace and no question mark of a
placeholder, and it does not declare the kind of a placeholder. -/
structure Text.LiteralAt (t : Text) (p : Nat) : Prop where
  solid : ∃ c, t[p]? = some c ∧ isBlank c = false
  noMark : t.markAt? p = none
  noSuffix : ∀ q k, p = q + 1 → t.placeholderAt? q = some k → k.suffix? = none

namespace Token

/-- A brace has the place of one character, -/
theorem covers_blockOpen_iff {p q : Nat} : Covers ⟨.blockOpen, q⟩ p ↔ p = q := by
  show q ≤ p ∧ p < q + 1 ↔ p = q
  omega

theorem covers_blockClose_iff {p q : Nat} : Covers ⟨.blockClose, q⟩ p ↔ p = q := by
  show q ≤ p ∧ p < q + 1 ↔ p = q
  omega

/-- and a placeholder that of its question mark and of the letter that declares its kind. -/
theorem covers_placeholder_iff {k : Placeholder} {p q : Nat} :
    Covers ⟨.placeholder (some k), q⟩ p ↔ p = q ∨ (p = q + 1 ∧ k.suffix? ≠ none) := by
  show q ≤ p ∧ p < q + (k.suffix?.toList.length + 1) ↔ _
  cases k.suffix? with
  | none =>
    show q ≤ p ∧ p < q + 1 ↔ _
    simp only [ne_eq, not_true_eq_false, and_false, or_false]
    omega
  | some c =>
    show q ≤ p ∧ p < q + 2 ↔ _
    simp only [ne_eq, reduceCtorEq, not_false_eq_true, and_true]
    omega

end Token

/-- What the rule finds is a brace or a placeholder. -/
theorem isMark_of_markAt? {t : Text} {p : Nat} {l : Lexeme} (h : t.markAt? p = some l) :
    Token.isMark ⟨l, p⟩ = true := by
  unfold Text.markAt? at h
  split at h
  · rw [← Option.some.inj h]
    rfl
  · split at h
    · rw [← Option.some.inj h]
      rfl
    · obtain ⟨k, -, rfl⟩ := Option.map_eq_some_iff.mp h
      rfl

section LiteralAt

variable {template : Text} {p : Nat}

/-- A character that belongs to a literal lies in the place of one. -/
theorem Text.LiteralAt.exists_covers (h : template.LiteralAt p) :
    ∃ text start, ⟨.literal text, start⟩ ∈ tokenize template ∧
      Token.Covers ⟨.literal text, start⟩ p := by
  obtain ⟨c, hc, hsolid⟩ := h.solid
  obtain ⟨⟨lexeme, start⟩, ht, hcovers, -⟩ := QueryTemplate.exists_covers hc hsolid
  -- a brace or a placeholder has no place for a character that the rule does not give it
  cases lexeme with
  | literal text => exact ⟨text, start, ht, hcovers⟩
  | blockOpen =>
    have hrule := (mem_tokenize_iff_markAt? rfl).mp ht
    rw [← Token.covers_blockOpen_iff.mp hcovers, h.noMark] at hrule
    cases hrule
  | blockClose =>
    have hrule := (mem_tokenize_iff_markAt? rfl).mp ht
    rw [← Token.covers_blockClose_iff.mp hcovers, h.noMark] at hrule
    cases hrule
  | placeholder kind =>
    have hrule := (mem_tokenize_iff_markAt? rfl).mp ht
    obtain ⟨k, rfl, hk⟩ := Text.markAt?_eq_placeholder_iff.mp hrule
    rcases Token.covers_placeholder_iff.mp hcovers with rfl | ⟨hp, hsuffix⟩
    · rw [h.noMark] at hrule
      cases hrule
    · exact absurd (h.noSuffix start k hp hk) hsuffix

/-- A character in the place of a literal that is no separator belongs to it. -/
theorem literalAt_of_covers {text : Text} {start : Nat}
    (ht : ⟨.literal text, start⟩ ∈ tokenize template) (hne : text ≠ Token.separator)
    (hcovers : Token.Covers ⟨.literal text, start⟩ p) : template.LiteralAt p := by
  have hliteral : Lexeme.literal text ≠ .literal Token.separator :=
    fun h => hne (Lexeme.literal.inj h)
  -- whatever the rule finds is another token, and two tokens share no place
  have hother : ∀ {l : Lexeme} {q : Nat}, template.markAt? q = some l →
      ¬Token.Covers ⟨l, q⟩ p := by
    intro l q hl hq
    have hmark := isMark_of_markAt? hl
    have heq := eq_of_covers ht ((mem_tokenize_iff_markAt? hmark).mpr hl) hcovers hq
    rw [← heq] at hmark
    cases hmark
  refine ⟨?_, ?_, ?_⟩
  -- the literal is found in the template at its position, and so is the character
  · obtain ⟨before, after, rfl, rfl⟩ :=
      (tokenize_positions ht).resolve_right fun h => hliteral h
    obtain ⟨hstart, hstop⟩ := hcovers
    simp only [Token.stop, Token.text, Lexeme.text] at hstart hstop
    have hlt : p - before.length < text.length := by omega
    refine ⟨text[p - before.length], ?_, ?_⟩
    · rw [List.append_assoc, List.getElem?_append_right hstart]
      exact (List.getElem?_append_left hlt).trans (List.getElem?_eq_getElem hlt)
    · exact not_isBlank_of_mem_tokenize ht hliteral _ (List.getElem_mem hlt)
  · rw [Option.eq_none_iff_forall_ne_some]
    intro l hl
    cases l with
    | literal t => cases isMark_of_markAt? hl
    | blockOpen => exact hother hl (Token.covers_blockOpen_iff.mpr rfl)
    | blockClose => exact hother hl (Token.covers_blockClose_iff.mpr rfl)
    | placeholder kind =>
      obtain ⟨k, rfl, -⟩ := Text.markAt?_eq_placeholder_iff.mp hl
      exact hother hl (Token.covers_placeholder_iff.mpr (.inl rfl))
  · intro q k hp hk
    -- a letter behind a question mark that it declares lies in the place of the placeholder
    by_contra hsuffix
    have hl : template.markAt? q = some (.placeholder (some k)) :=
      Text.markAt?_eq_placeholder_iff.mpr ⟨k, rfl, hk⟩
    exact hother hl (Token.covers_placeholder_iff.mpr (.inr ⟨hp, hsuffix⟩))

end LiteralAt

/-- The grammar of templates, at each character `p`. A placeholder stands there exactly if the
character is a question mark and the next one declares its kind, or, for the placeholder without a
letter, if a blank or the end of the template is next; it always declares a kind. A brace stands
where its character is. Every other solid character that declares no kind belongs to one literal,
and to one only, and apart from the separators literals hold no other characters. No two literals
stand side by side, apart from the separators. -/
theorem tokenize_follows_grammar (template : Text) :
    (∀ p,
      (∀ k, ⟨.placeholder (some k), p⟩ ∈ tokenize template ↔
        template[p]? = some '?' ∧ ((∃ c, template[p + 1]? = some c ∧ k.suffix? = some c) ∨
          (k = .generic ∧ ∀ c, template[p + 1]? = some c → isBlank c = true))) ∧
      ⟨.placeholder none, p⟩ ∉ tokenize template ∧
      (⟨.blockOpen, p⟩ ∈ tokenize template ↔ template[p]? = some '{') ∧
      (⟨.blockClose, p⟩ ∈ tokenize template ↔ template[p]? = some '}') ∧
      (template.LiteralAt p → ∃! j : Nat, ∃ (text : Text) (start : Nat),
        (tokenize template)[j]? = some ⟨.literal text, start⟩ ∧ start ≤ p ∧
          p < start + text.length) ∧
      ∀ text start, ⟨.literal text, start⟩ ∈ tokenize template → text ≠ Token.separator →
        start ≤ p → p < start + text.length → template.LiteralAt p) ∧
    ∀ (j : Nat) (s t : Text) (p q : Nat), (tokenize template)[j]? = some ⟨.literal s, p⟩ →
      (tokenize template)[j + 1]? = some ⟨.literal t, q⟩ →
        s = Token.separator ∨ t = Token.separator := by
  refine ⟨fun p => ⟨fun k => ?_, ?_, ?_, ?_, ?_, ?_⟩, ?_⟩
  · rw [mem_tokenize_iff_markAt? rfl, Text.markAt?_eq_placeholder_iff,
      ← Text.placeholderAt?_eq_some_iff]
    simp
  · rw [mem_tokenize_iff_markAt? rfl, Text.markAt?_eq_placeholder_iff]
    simp
  · rw [mem_tokenize_iff_markAt? rfl, Text.markAt?_eq_blockOpen_iff]
  · rw [mem_tokenize_iff_markAt? rfl, Text.markAt?_eq_blockClose_iff]
  · intro h
    obtain ⟨text, start, ht, hcovers⟩ := h.exists_covers
    obtain ⟨j, hj⟩ := List.mem_iff_getElem?.mp ht
    refine ⟨j, ⟨text, start, hj, hcovers.1, hcovers.2⟩, ?_⟩
    rintro i ⟨other, place, hi, hstart, hstop⟩
    exact index_eq_of_covers hi hj ⟨hstart, hstop⟩ hcovers
  · intro text start ht hne hstart hstop
    exact literalAt_of_covers ht hne ⟨hstart, hstop⟩
  · intro j s t p q hj hnext
    obtain ⟨hlt, hs⟩ := List.getElem?_eq_some_iff.mp hj
    obtain ⟨hlt', ht⟩ := List.getElem?_eq_some_iff.mp hnext
    have hapart := List.isChain_iff_getElem.mp (tokenize_isChain template) j hlt'
    rw [hs, ht] at hapart
    -- of two tokens side by side, one is a brace or a placeholder, or one is a separator
    rcases hapart with (hmark | hmark) | hseparator | hseparator
    · cases hmark
    · cases hmark
    · exact .inl (Lexeme.literal.inj hseparator)
    · exact .inr (Lexeme.literal.inj hseparator)

/-- Question marks in a row, of which only the last is a placeholder, and braces around one that is
none: all that the rule leaves is in one literal each. -/
theorem tokenize_follows_grammar_marks :
    ⟨.placeholder (some .integer), 2⟩ ∈ tokenize "???d\x7b?\x7d?".toList ∧
      ∃! j : Nat, ∃ (text : Text) (start : Nat),
        (tokenize "???d\x7b?\x7d?".toList)[j]? = some ⟨.literal text, start⟩ ∧
          start ≤ 5 ∧ 5 < start + text.length := by
  have hgrammar := tokenize_follows_grammar "???d\x7b?\x7d?".toList
  refine ⟨((hgrammar.1 2).1 .integer).mpr ⟨by decide +kernel, .inl ⟨'d', by decide +kernel, rfl⟩⟩,
    (hgrammar.1 5).2.2.2.2.1 ⟨⟨'?', by decide +kernel, by decide⟩, by decide +kernel, ?_⟩⟩
  intro q k hq hk
  obtain rfl : q = 4 := by omega
  have hnone : Text.placeholderAt? "???d\x7b?\x7d?".toList 4 = none := by decide +kernel
  rw [hnone] at hk
  cases hk

end QueryTemplate
