import Mathlib.Data.List.Basic
import QueryTemplate.Proofs.Template.Tiling
import QueryTemplate.Proofs.Template.Words

/-!
# Templates read letter by letter

The tokens of a template depend on its chunks, and where two templates meet, their chunks and
literals grow together. Here a template is read without chunks: every character that is no
placeholder and no brace stands for itself, and every blank is a separator. Read so, templates put
together are read one after the other, unless a question mark is the last character of the first.

The tokens spell the same, but for the literals, which are spelled out letter by letter, and for the
separators, of which there is one in a place where the template has any number of blanks.
-/

namespace QueryTemplate

namespace Lexeme

/-- One character by itself. -/
def letter (c : Char) : Lexeme := literal [c]

/-- The separator behind a chunk. -/
def separator : Lexeme := literal Token.separator

/-- What a character stands for that begins no placeholder. -/
def ofChar (c : Char) : Lexeme :=
  if c = '{' then blockOpen
  else if c = '}' then blockClose
  else if isBlank c then separator
  else letter c

/-- A token letter by letter. -/
def letters : Lexeme → List Lexeme
  | literal t => t.map letter
  | l => [l]

end Lexeme

/-- A template letter by letter. -/
def spelled : Text → List Lexeme
  | [] => []
  | '?' :: [] => [.placeholder (some .generic)]
  | '?' :: c :: rest =>
    match Placeholder.ofSuffix? c with
    | some k => .placeholder (some k) :: spelled rest
    | none =>
      (if isBlank c then .placeholder (some .generic) else Lexeme.letter '?') :: spelled (c :: rest)
  | c :: rest => Lexeme.ofChar c :: spelled rest

/-- No blank declares a kind. -/
theorem ofSuffix?_of_isBlank {c : Char} (hc : isBlank c = true) :
    Placeholder.ofSuffix? c = none := by
  rw [Option.eq_none_iff_forall_ne_some]
  intro k hk
  have hsuffix := Placeholder.ofSuffix?_eq_some_iff.mp hk
  cases k <;> cases hsuffix <;> revert hc <;> decide

/-- A character that is no question mark stands for itself. -/
theorem spelled_cons {c : Char} (hc : c ≠ '?') (rest : Text) :
    spelled (c :: rest) = Lexeme.ofChar c :: spelled rest := by
  rw [spelled]
  · intro h
    exact absurd h hc
  · intro d behind h
    exact absurd h hc

/-- A blank is a separator. -/
theorem spelled_cons_blank {c : Char} (hc : isBlank c = true) (rest : Text) :
    spelled (c :: rest) = Lexeme.separator :: spelled rest := by
  have hmark : c ≠ '?' := by rintro rfl; revert hc; decide
  have hopen : c ≠ '{' := by rintro rfl; revert hc; decide
  have hclose : c ≠ '}' := by rintro rfl; revert hc; decide
  rw [spelled_cons hmark, Lexeme.ofChar, if_neg hopen, if_neg hclose, if_pos hc]

/-- The last character of a text is the last one behind any other. -/
theorem getLast?_cons_of_getLast? {s : Text} {d : Char} (h : s.getLast? = some d) (c : Char) :
    (c :: s).getLast? = some d := by
  rw [List.getLast?_cons, h]
  rfl

/-- Two templates put together are read one after the other, unless the first ends in a question
mark and a solid character follows it. -/
theorem spelled_append {s t : Text}
    (h : s.getLast? = some '?' → ∀ c ∈ t.head?, isBlank c = true) :
    spelled (s ++ t) = spelled s ++ spelled t := by
  fun_induction spelled s with
  | case1 => rfl
  | case2 =>
    -- the first template ends in a question mark: nothing follows, or a blank does
    have hblank := h rfl
    cases t with
    | nil => rfl
    | cons c rest =>
      have hc := hblank c rfl
      show spelled ('?' :: c :: rest) = _
      rw [spelled, ofSuffix?_of_isBlank hc]
      simp only [if_pos hc]
      rfl
  | case3 c rest k hk ih =>
    -- a placeholder,
    have hrest := ih fun hlast =>
      h (getLast?_cons_of_getLast? (getLast?_cons_of_getLast? hlast c) '?')
    show spelled ('?' :: c :: (rest ++ t)) = _
    rw [spelled, hk]
    simp only [hrest, List.cons_append]
  | case4 c rest hk ih =>
    -- a question mark that is an ordinary character,
    have hrest := ih fun hlast => h (getLast?_cons_of_getLast? hlast '?')
    show spelled ('?' :: c :: (rest ++ t)) = _
    rw [spelled, hk]
    simp only [List.cons_append] at hrest ⊢
    rw [hrest]
  | case5 c rest hlast hmark ih =>
    -- any other character
    have hrest := ih fun hlast => h (getLast?_cons_of_getLast? hlast c)
    have hc : c ≠ '?' := by
      rintro rfl
      cases rest with
      | nil => exact hlast rfl rfl
      | cons d behind => exact hmark d behind rfl rfl
    rw [List.cons_append, spelled_cons hc, hrest, List.cons_append]

/-! ## The tokens of a chunk -/

/-- A character in front of tokens is a letter in front of theirs. -/
theorem flatMap_letters_glue (c : Char) (pos : Nat) (tokens : List Token) :
    ((Token.glue c pos tokens).map Token.lexeme).flatMap Lexeme.letters =
      Lexeme.letter c :: (tokens.map Token.lexeme).flatMap Lexeme.letters := by
  cases tokens with
  | nil => rfl
  | cons first rest =>
    obtain ⟨lexeme, position⟩ := first
    cases lexeme <;> rfl

/-- The tokens of a chunk, letter by letter, are what the chunk is letter by letter. -/
theorem letters_tokensOfChunk (pos : Nat) {s : Text} (hs : ∀ c ∈ s, isBlank c = false) :
    ((tokensOfChunk pos s).map Token.lexeme).flatMap Lexeme.letters = spelled s := by
  fun_induction tokensOfChunk pos s with
  | case1 => rfl
  | case2 pos rest ih =>
    have hrest := ih fun c hc => hs c (List.mem_cons_of_mem _ hc)
    rw [spelled_cons (by decide), ← hrest]
    rfl
  | case3 pos rest ih =>
    have hrest := ih fun c hc => hs c (List.mem_cons_of_mem _ hc)
    rw [spelled_cons (by decide), ← hrest]
    rfl
  | case4 => rfl
  | case5 pos c rest k hk ih =>
    have hrest := ih fun d hd => hs d (List.mem_cons_of_mem _ (List.mem_cons_of_mem _ hd))
    rw [spelled, hk]
    simp only [← hrest]
    rfl
  | case6 pos c rest hk ih =>
    -- a question mark that belongs to a literal, of which it is the first letter
    have hsolid := hs c (List.mem_cons_of_mem _ List.mem_cons_self)
    have hrest := ih fun d hd => hs d (List.mem_cons_of_mem _ hd)
    rw [spelled, hk, flatMap_letters_glue, hrest]
    simp only [hsolid, Bool.false_eq_true, if_false]
  | case7 pos c rest hopen hclose hlast hmark ih =>
    have hsolid := hs c List.mem_cons_self
    have hrest := ih fun d hd => hs d (List.mem_cons_of_mem _ hd)
    have hc : c ≠ '?' := by
      rintro rfl
      cases rest with
      | nil => exact hlast rfl rfl
      | cons d behind => exact hmark d behind rfl rfl
    rw [spelled_cons hc, flatMap_letters_glue, hrest, Lexeme.ofChar, if_neg hopen, if_neg hclose,
      hsolid]
    rfl

/-! ## Separators -/

/-- Tokens and what they are letter by letter, where a separator may stand for several. -/
inductive Spells : List Lexeme → List Lexeme → Prop
  /-- Nothing spells nothing. -/
  | nil : Spells [] []
  /-- A token is spelled out. -/
  | token (l : Lexeme) {tokens letters : List Lexeme} : Spells tokens letters →
      Spells (l :: tokens) (l.letters ++ letters)
  /-- One separator more behind another. -/
  | gap {tokens letters : List Lexeme} : Spells tokens (.separator :: letters) →
      Spells tokens (.separator :: .separator :: letters)

/-- Tokens in front of others are spelled out in front of them. -/
theorem Spells.append {tokens letters : List Lexeme} (h : Spells tokens letters)
    (before : List Lexeme) :
    Spells (before ++ tokens) (before.flatMap Lexeme.letters ++ letters) := by
  induction before with
  | nil => exact h
  | cons l rest ih =>
    rw [List.cons_append, List.flatMap_cons, List.append_assoc]
    exact .token l ih

/-- Between two separators, the tokens of a text spell the text. Where the text begins with a blank
or is empty, that blank or the separator behind it may stand for the first of the two. -/
theorem chunksFrom_spells (pos : Nat) (t : Text) :
    Spells (.separator :: ((chunksFrom pos t).flatMap Chunk.tokens).map Token.lexeme)
        (.separator :: (spelled t ++ [.separator])) ∧
      ((∀ c ∈ t.head?, isBlank c = true) →
        Spells (.separator :: ((chunksFrom pos t).flatMap Chunk.tokens).map Token.lexeme)
          (spelled t ++ [.separator])) := by
  fun_induction chunksFrom pos t with
  | case1 pos =>
    have hone : Spells [.separator] [.separator] := .token .separator .nil
    exact ⟨.gap hone, fun _ => hone⟩
  | case2 pos c rest hc ih =>
    -- one more blank between separators changes nothing
    rw [spelled_cons_blank hc]
    exact ⟨.gap ih.1, fun _ => ih.1⟩
  | case3 pos c rest hc chunk ih =>
    -- behind the chunk the template goes on with a blank or ends
    have hhead : ∀ d ∈ (rest.dropWhile isSolid).head?, isBlank d = true := by
      intro d hd
      have hsolid := List.head?_dropWhile_not isSolid rest
      rw [Option.mem_def.mp hd] at hsolid
      simpa [isSolid] using hsolid
    have htail := ih.2 hhead
    have hsplit : c :: rest = chunk.text ++ rest.dropWhile isSolid := by
      simp only [chunk, List.cons_append, List.takeWhile_append_dropWhile]
    have hspelled : spelled (c :: rest) =
        spelled chunk.text ++ spelled (rest.dropWhile isSolid) := by
      rw [hsplit]
      exact spelled_append fun _ => hhead
    have hletters := letters_tokensOfChunk chunk.start (s := chunk.text) fun d hd =>
      not_isBlank_of_mem_solid hc hd
    have hchunk := htail.append ((tokensOfChunk chunk.start chunk.text).map Token.lexeme)
    rw [hletters, ← List.append_assoc, ← hspelled] at hchunk
    refine ⟨?_, fun h => absurd (h c rfl) hc⟩
    rw [List.flatMap_cons, List.map_append, Chunk.tokens_eq, List.map_append, List.append_assoc]
    exact .token .separator hchunk

/-- Between two separators, the tokens of a template spell the template. -/
theorem tokenize_spells (template : Text) :
    Spells (.separator :: (tokenize template).map Token.lexeme)
      (.separator :: (spelled template ++ [.separator])) :=
  (chunksFrom_spells 0 template).1

namespace Lexeme

/-- The kinds of the placeholders among tokens, wherever these stand. -/
def kinds (tokens : List Lexeme) : List (Option Placeholder) :=
  tokens.filterMap fun l => Token.kind? ⟨l, 0⟩

@[simp] theorem kinds_append (before after : List Lexeme) :
    kinds (before ++ after) = kinds before ++ kinds after :=
  List.filterMap_append

theorem kinds_map_lexeme (tokens : List Token) :
    kinds (tokens.map Token.lexeme) = Token.kinds tokens := by
  rw [kinds, Token.kinds, List.filterMap_map]
  rfl

/-- A literal has no placeholder, and no letter of it has. -/
theorem kinds_letters (l : Lexeme) : kinds l.letters = kinds [l] := by
  cases l with
  | literal t =>
    induction t with
    | nil => rfl
    | cons c rest ih => exact ih
  | _ => rfl

end Lexeme

/-- Spelling out tokens leaves their placeholders. -/
theorem Spells.kinds_eq {tokens letters : List Lexeme} (h : Spells tokens letters) :
    Lexeme.kinds tokens = Lexeme.kinds letters := by
  induction h with
  | nil => rfl
  | token l _ ih => rw [Lexeme.kinds_append, Lexeme.kinds_letters, ← ih, ← Lexeme.kinds_append]; rfl
  | gap _ ih => exact ih

/-- Letter by letter, a template has the placeholders that are counted. -/
theorem kinds_spelled (template : Text) :
    Lexeme.kinds (spelled template) = (placeholders template).map some := by
  have hkinds := (tokenize_spells template).kinds_eq
  rw [← kinds_tokenize, ← Lexeme.kinds_map_lexeme]
  have hright : Lexeme.kinds (.separator :: (spelled template ++ [.separator])) =
      Lexeme.kinds (spelled template) := by
    show Lexeme.kinds (spelled template ++ [.separator]) = _
    rw [Lexeme.kinds_append]
    exact List.append_nil _
  rw [hright] at hkinds
  exact hkinds.symm

/-- Two templates put together have the placeholders of both, unless the first ends in a question
mark and a solid character follows it. -/
theorem placeholders_append {s t : Text}
    (h : s.getLast? = some '?' → ∀ c ∈ t.head?, isBlank c = true) :
    placeholders (s ++ t) = placeholders s ++ placeholders t := by
  have hmap : (placeholders (s ++ t)).map some = (placeholders s ++ placeholders t).map some := by
    rw [← kinds_spelled, spelled_append h, Lexeme.kinds_append, kinds_spelled, kinds_spelled,
      List.map_append]
  have hsome : Function.Injective (some : Placeholder → Option Placeholder) :=
    fun _ _ => Option.some.inj
  exact List.map_injective_iff.mpr hsome hmap

end QueryTemplate
