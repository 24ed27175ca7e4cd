import Mathlib.Data.List.Forall2
import QueryTemplate.Proofs.Assembly.BlockBody
import QueryTemplate.Proofs.Compile.FirstOffence
import QueryTemplate.Proofs.Text

/-!
# Templates without their blocks

A block whose arguments hold no skip marker may as well be written without its braces, and a block
whose arguments hold one may as well be left out, with its arguments. The query has the same words.

A brace parts chunks and placeholders that grow together without it, and keeps a chunk together that
falls apart with it, so the tokens of the three templates have little in common. Letter by letter
the templates differ in the braces only, and an assembly that goes through the one is taken through
the other: up to the block, through it, and from there on.
-/

namespace QueryTemplate

/-- The blanks that are cut off at the end of a text belong to no word. -/
theorem words_trimEnd (t : Text) : words t.trimEnd = words t := by
  obtain ⟨w, hw, ht⟩ := Text.exists_dropEndWhile_append isBlank t
  conv_rhs => rw [ht]
  exact (words_append_blanks hw _).symm

section Letters

variable {r : Renderer} {template : Text} {args : List Value}

/-- The words of a query are those of an assembly that has read the template letter by letter. -/
theorem exists_reads_of_compile {sql : Text} (h : compile r template args = .ok sql) :
    ∃ s, Assembly.Reads r (Assembly.start args) (spelled template ++ [.separator]) s ∧
      words sql = words s.closeBlock.text := by
  obtain ⟨-, s, hafter, rfl⟩ := compile_eq_ok_iff_after.mp h
  obtain ⟨t, hreads, hlike⟩ := Assembly.reads_spelled_of_after hafter
  refine ⟨t, hreads, ?_⟩
  rw [Assembly.query, words_trimEnd]
  exact hlike.closeBlock.text.words_eq

/-- Where the template can be read letter by letter there is a query, with the words of the assembly
that has read it. -/
theorem exists_compile_of_reads (hcount : countPlaceholders template = args.length) {s : Assembly}
    (h : Assembly.Reads r (Assembly.start args) (spelled template ++ [.separator]) s) :
    ∃ sql, compile r template args = .ok sql ∧ words sql = words s.closeBlock.text := by
  obtain ⟨t, hafter, hlike⟩ := Assembly.after_of_reads_spelled h
  refine ⟨t.closeBlock.query, compile_eq_ok_iff_after.mpr ⟨hcount, t, hafter, rfl⟩, ?_⟩
  rw [Assembly.query, words_trimEnd]
  exact hlike.closeBlock.text.words_eq.symm

/-- As many arguments are taken letter by letter as there are placeholders. -/
theorem length_kinds_spelled (hcount : countPlaceholders template = args.length) :
    args.length = (Lexeme.kinds (spelled template)).length := by
  rw [kinds_spelled, List.length_map, ← hcount]
  rfl

end Letters

/-! ## A template with a block -/

section Block

variable {pre body : Text}

/-- Letter by letter, a template with a block has the braces around the block. -/
theorem spelled_block (hpre : pre.getLast? ≠ some '?') (hbody : body.getLast? ≠ some '?')
    (post : Text) :
    spelled (pre ++ '{' :: (body ++ '}' :: post)) =
      spelled pre ++ .blockOpen :: (spelled body ++ .blockClose :: spelled post) := by
  have hopen : spelled ('{' :: (body ++ '}' :: post)) =
      .blockOpen :: spelled (body ++ '}' :: post) := spelled_cons (by decide) _
  have hclose : spelled ('}' :: post) = .blockClose :: spelled post := spelled_cons (by decide) _
  rw [spelled_append fun h => absurd h hpre, hopen, spelled_append fun h => absurd h hbody, hclose]

/-- The braces of a block are no placeholders and belong to none. -/
theorem placeholders_block (hpre : pre.getLast? ≠ some '?') (hbody : body.getLast? ≠ some '?')
    (post : Text) :
    placeholders (pre ++ '{' :: (body ++ '}' :: post)) =
      placeholders pre ++ (placeholders body ++ placeholders post) := by
  have hbrace : ∀ {c : Char}, c ≠ '?' → Lexeme.kinds [Lexeme.ofChar c] = [] → ∀ t : Text,
      placeholders (c :: t) = placeholders t := by
    intro c hc hkinds t
    have hmap : (placeholders (c :: t)).map some = (placeholders t).map some := by
      rw [← kinds_spelled, ← kinds_spelled, spelled_cons hc, ← List.singleton_append,
        Lexeme.kinds_append, hkinds, List.nil_append]
    exact List.map_injective_iff.mpr (fun _ _ => Option.some.inj) hmap
  rw [placeholders_append fun h => absurd h hpre, hbrace (by decide) rfl,
    placeholders_append fun h => absurd h hbody, hbrace (by decide) rfl]

end Block

namespace Assembly

variable {r : Renderer} {s s' : Assembly} {body : List Lexeme} {taken : List Value}

/-- A block that takes no skip marker does what its body does outside. -/
theorem exists_reads_kept_block (houtside : s.region = .outside)
    (hbrace : ∀ l ∈ body, l.isBrace = false) {more : List Value}
    (hremaining : s.remaining = taken ++ more)
    (htaken : taken.length = (Lexeme.kinds body).length) (hskip : Value.skip ∉ taken)
    (h : Reads r s body s') :
    ∃ t, Reads r s (.blockOpen :: (body ++ [.blockClose])) t ∧ Like s' t := by
  obtain ⟨b, hbody, hholds⟩ :=
    (HoldsBack.opened houtside).reads h hbrace hremaining htaken hskip
  obtain ⟨pieces, hregion, -⟩ := hholds.held
  have hinside : b.isInside = true := isInside_eq_true_iff.mpr ⟨pieces, false, hregion⟩
  have hclose : Reads r b [.blockClose] b.closeBlock := .cons (.closed 0 hinside) (.nil _)
  exact ⟨b.closeBlock, .cons (.opened 0 houtside) (hbody.append hclose), hholds.closed⟩

/-- A block that takes a skip marker and accepts its arguments only takes them. -/
theorem exists_reads_dropped_block (houtside : s.region = .outside)
    (hbrace : ∀ l ∈ body, l.isBrace = false) (hskip : Value.skip ∈ taken)
    (haccepts : List.Forall₂ (Accepts r) (Lexeme.kinds body) taken) (more : List Value) :
    ∃ t, Reads r (s.withArguments (taken ++ more)) (.blockOpen :: (body ++ [.blockClose])) t ∧
      Like (s.withArguments more) t := by
  obtain ⟨b, held, hbody, hmore, htext, hheld⟩ :=
    exists_reads_in_block
      (b := { s.withArguments (taken ++ more) with region := .inside [] false })
      hbrace rfl rfl haccepts
  have hany : taken.any Value.isSkip = true :=
    List.any_eq_true.mpr ⟨.skip, hskip, rfl⟩
  rw [hany, Bool.or_true] at hheld
  have hinside : b.isInside = true := isInside_eq_true_iff.mpr ⟨held, true, hheld⟩
  have hclose : Reads r b [.blockClose] b.closeBlock := .cons (.closed 0 hinside) (.nil _)
  refine ⟨b.closeBlock, .cons (.opened 0 houtside) (hbody.append hclose), ?_, ?_, ?_⟩
  · rw [closeBlock_remaining, hmore, withArguments_remaining]
  · -- nothing of a marked block is emitted
    rw [text_closeBlock_of_inside b hheld, htext, if_pos rfl, List.append_nil]
    exact .refl _
  · rw [closeBlock_region, withArguments_region, houtside]
    exact .outside

end Assembly

/-- What is asked of the arguments of a block is asked of each with its placeholder. -/
theorem forall₂_accepts {r : Renderer} {body : Text} {args : List Value}
    (hcount : countPlaceholders body = args.length)
    (hrenders : ∀ p ∈ (placeholders body).zip args, p.2 ≠ .skip →
      ∃ text, r.render p.1 p.2 = .ok text) :
    List.Forall₂ (Assembly.Accepts r) (Lexeme.kinds (spelled body)) args := by
  rw [kinds_spelled, List.forall₂_map_left_iff, List.forall₂_iff_zip]
  refine ⟨hcount, ?_⟩
  intro k v hmem hne
  obtain ⟨text, htext⟩ := hrenders _ hmem hne
  exact ⟨k, text, rfl, htext⟩

section Compilation

variable {r : Renderer} {pre body post : Text} {args : List Value} {mid t s : Assembly}

/-- Behind a template that leaves no block open an assembly stands outside. -/
theorem region_of_reads_spelled (hclosed : pre.endsInBlock = false)
    (h : Assembly.Reads r (Assembly.start args) (spelled pre) mid) : mid.region = .outside := by
  rw [← Assembly.isInside_eq_false_iff, Assembly.isInside_of_reads h, foldl_blockAfter_spelled]
  exact hclosed

/-- A template with a block is read up to the block, through it, and from there on. -/
theorem exists_compile_of_block (hpre : pre.getLast? ≠ some '?') (hbody : body.getLast? ≠ some '?')
    (hcount : countPlaceholders (pre ++ '{' :: (body ++ '}' :: post)) = args.length)
    (hfirst : Assembly.Reads r (Assembly.start args) (spelled pre) mid)
    (hblock : Assembly.Reads r mid (.blockOpen :: (spelled body ++ [.blockClose])) t)
    (hlast : Assembly.Reads r t (spelled post ++ [.separator]) s) :
    ∃ sql, compile r (pre ++ '{' :: (body ++ '}' :: post)) args = .ok sql ∧
      words sql = words s.closeBlock.text := by
  refine exists_compile_of_reads hcount ?_
  rw [spelled_block hpre hbody]
  have hwhole := hfirst.append (hblock.append hlast)
  simpa only [List.append_assoc, List.cons_append, List.nil_append] using hwhole

end Compilation

/-- A block behind a template that leaves none open, neither the template nor the body ending in a
question mark and the body without braces. If the arguments of the block hold no skip marker and the
template without the two braces compiles, then so does the template with them; if they hold one,
each of the others has a text, and the template without the block and its arguments compiles, then
so does the template with them. In both cases the words of the query are the same. -/
theorem compile_block_words (r : Renderer) {pre body : Text} (post : Text)
    (hpre : pre.getLast? ≠ some '?') (hbody : body.getLast? ≠ some '?')
    (hopen : '{' ∉ body) (hclose : '}' ∉ body) (hclosed : pre.endsInBlock = false)
    {before within behind : List Value} (hbefore : countPlaceholders pre = before.length)
    (hwithin : countPlaceholders body = within.length)
    (hbehind : countPlaceholders post = behind.length) :
    (Value.skip ∉ within → ∀ sql,
      compile r (pre ++ (body ++ post)) (before ++ (within ++ behind)) = .ok sql →
        ∃ sql', compile r (pre ++ '{' :: (body ++ '}' :: post)) (before ++ (within ++ behind)) =
            .ok sql' ∧ words sql' = words sql) ∧
    (Value.skip ∈ within →
      (∀ p ∈ (placeholders body).zip within, p.2 ≠ .skip → ∃ text, r.render p.1 p.2 = .ok text) →
        ∀ sql, compile r (pre ++ post) (before ++ behind) = .ok sql →
          ∃ sql', compile r (pre ++ '{' :: (body ++ '}' :: post)) (before ++ (within ++ behind)) =
              .ok sql' ∧ words sql' = words sql) := by
  have hcount : countPlaceholders (pre ++ '{' :: (body ++ '}' :: post)) =
      (before ++ (within ++ behind)).length := by
    rw [countPlaceholders, placeholders_block hpre hbody]
    simp only [List.length_append, ← hbefore, ← hwithin, ← hbehind, countPlaceholders]
  have hbrace : ∀ l ∈ spelled body, l.isBrace = false :=
    fun l => not_isBrace_of_mem_spelled hopen hclose
  have htaken := length_kinds_spelled hbefore
  -- both parts go the same way: a compilation is split into the template in front, the block and
  -- the rest, and put together again with the braces
  constructor
  · intro hskip sql hsql
    obtain ⟨s, hreads, hwords⟩ := exists_reads_of_compile hsql
    rw [spelled_append fun h => absurd h hpre, spelled_append fun h => absurd h hbody,
      List.append_assoc, List.append_assoc] at hreads
    obtain ⟨mid, hfirst, hrest⟩ := hreads.exists_of_append
    obtain ⟨next, hplain, hlast⟩ := hrest.exists_of_append
    -- the template in front leaves no block open, so that the brace behind it opens one
    have houtside := region_of_reads_spelled hclosed hfirst
    have hremaining := (hfirst.withArguments rfl htaken).1
    obtain ⟨t, hblock, hlike⟩ := Assembly.exists_reads_kept_block houtside hbrace hremaining
      (length_kinds_spelled hwithin) hskip hplain
    -- behind the block the assembly is the one without braces, up to spacing
    obtain ⟨t', hlast', hlike'⟩ := hlike.reads hlast
    obtain ⟨sql', hsql', hwords'⟩ :=
      exists_compile_of_block hpre hbody hcount hfirst hblock hlast'
    refine ⟨sql', hsql', ?_⟩
    rw [hwords', hwords]
    exact hlike'.closeBlock.text.words_eq.symm
  · intro hskip hrenders sql hsql
    obtain ⟨s, hreads, hwords⟩ := exists_reads_of_compile hsql
    rw [spelled_append fun h => absurd h hpre, List.append_assoc] at hreads
    obtain ⟨mid, hfirst, hlast⟩ := hreads.exists_of_append
    have houtside := region_of_reads_spelled hclosed hfirst
    -- in front of the block, too, the arguments behind do not matter
    obtain ⟨hremaining, hother⟩ := hfirst.withArguments rfl htaken
    obtain ⟨t, hblock, hlike⟩ := Assembly.exists_reads_dropped_block houtside hbrace hskip
      (forall₂_accepts hwithin hrenders) behind
    -- the block takes its arguments, and then those behind it are due as they are without it
    have hmid : mid.withArguments behind = mid := by
      rw [← hremaining, Assembly.withArguments_self]
    rw [hmid] at hlike
    obtain ⟨t', hlast', hlike'⟩ := hlike.reads hlast
    obtain ⟨sql', hsql', hwords'⟩ := exists_compile_of_block hpre hbody hcount
      (hother (within ++ behind)) hblock hlast'
    refine ⟨sql', hsql', ?_⟩
    rw [hwords', hwords]
    exact hlike'.closeBlock.text.words_eq.symm

/-- A block in the middle of a word: with both of its arguments, and with a skip marker in the place
of the second. -/
theorem compile_block_words_glued :
    (∃ sql, compile ⟨.default, backslashEscaper⟩
        ("x ?d a".toList ++ '{' :: ("b?d, ?#  c".toList ++ '}' :: "d = ?".toList))
        [.int 0, .int 1, .text "n".toList, .null] = .ok sql ∧
      words sql = words "x 0 ab1, `n` cd = NULL".toList) ∧
    ∃ sql, compile ⟨.default, backslashEscaper⟩
        ("x ?d a".toList ++ '{' :: ("b?d, ?#  c".toList ++ '}' :: "d = ?".toList))
        [.int 0, .int 1, .skip, .null] = .ok sql ∧
      words sql = words "x 0 ad = NULL".toList := by
  have hbefore : countPlaceholders "x ?d a".toList = [Value.int 0].length := by decide +kernel
  have hbehind : countPlaceholders "d = ?".toList = [Value.null].length := by decide +kernel
  have hkinds : placeholders "b?d, ?#  c".toList = [.integer, .identifier] := by decide +kernel
  have hclosed : Text.endsInBlock "x ?d a".toList = false := by decide
  constructor
  -- both arguments are there
  · have hwithin : countPlaceholders "b?d, ?#  c".toList =
        [Value.int 1, .text "n".toList].length := by
      rw [countPlaceholders, hkinds]
      rfl
    have hplain : compile ⟨.default, backslashEscaper⟩
        ("x ?d a".toList ++ ("b?d, ?#  c".toList ++ "d = ?".toList))
        ([.int 0] ++ ([.int 1, .text "n".toList] ++ [.null])) =
          .ok "x 0 ab1, `n` cd = NULL".toList := by
      decide +kernel
    exact (compile_block_words _ _ (by decide) (by decide) (by decide) (by decide) hclosed
      hbefore hwithin hbehind).1 (by simp) _ hplain
  -- the second is the skip marker, and the first has a text all the same
  · have hwithin : countPlaceholders "b?d, ?#  c".toList = [Value.int 1, .skip].length := by
      rw [countPlaceholders, hkinds]
      rfl
    have hrenders : ∀ p ∈ (placeholders "b?d, ?#  c".toList).zip [Value.int 1, .skip],
        p.2 ≠ .skip →
          ∃ text, (Renderer.mk .default backslashEscaper).render p.1 p.2 = .ok text := by
      rw [hkinds]
      intro p hp hne
      rcases List.mem_cons.mp hp with rfl | hp
      · exact ⟨"1".toList, by decide +kernel⟩
      · rw [List.mem_singleton.mp hp] at hne
        exact absurd rfl hne
    have hplain : compile ⟨.default, backslashEscaper⟩ ("x ?d a".toList ++ "d = ?".toList)
        ([.int 0] ++ [.null]) = .ok "x 0 ad = NULL".toList := by
      decide +kernel
    exact (compile_block_words _ _ (by decide) (by decide) (by decide) (by decide) hclosed
      hbefore hwithin hbehind).2 (by simp) hrenders _ hplain

end QueryTemplate
