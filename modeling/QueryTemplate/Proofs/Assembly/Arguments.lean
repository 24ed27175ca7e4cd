import QueryTemplate.Compile
import QueryTemplate.Proofs.Assembly.Offence

/-!
# Every argument is taken once

A template with as many arguments as placeholders is assembled without running out of arguments and
without meeting a placeholder of no kind. Every placeholder takes the argument of its own index, and
behind the last token all arguments are taken. This rests on the two ways to find placeholders
agreeing: the arguments were counted against the one and are taken by the other.

What is left to go wrong is a brace or an argument, and the error says which one.
-/

namespace QueryTemplate

/-- A placeholder among the tokens of a template declares its kind. -/
theorem kind_of_mem_tokenize {template : Text} {kind : Option Placeholder} {position : Nat}
    (h : ⟨.placeholder kind, position⟩ ∈ tokenize template) : ∃ k, kind = some k := by
  have hmem : kind ∈ Token.kinds (tokenize template) := by
    rw [Token.kinds, List.mem_filterMap]
    exact ⟨_, h, rfl⟩
  rw [kinds_tokenize, List.mem_map] at hmem
  obtain ⟨k, -, hk⟩ := hmem
  exact ⟨k, hk.symm⟩

/-- As many arguments as placeholders pass the count, -/
theorem checkArguments_of_match {template : Text} {given : Nat}
    (h : countPlaceholders template = given) :
    checkArguments template given = .ok (countPlaceholders template) := by
  rw [checkArguments, if_pos h]

/-- and no other number does. -/
theorem checkArguments_of_mismatch {template : Text} {given : Nat}
    (h : countPlaceholders template ≠ given) :
    checkArguments template given = .error (.countMismatch (countPlaceholders template) given) := by
  rw [checkArguments, if_neg h]

/-- The arguments are counted against the placeholders. -/
theorem countPlaceholders_of_checkArguments {template : Text} {given n : Nat}
    (h : checkArguments template given = .ok n) : countPlaceholders template = given := by
  by_contra hne
  rw [checkArguments_of_mismatch hne] at h
  cases h

/-- At a placeholder of a template with as many arguments as placeholders, the argument of its index
is there. -/
theorem exists_argument {template : Text} {args : List Value}
    (hcount : countPlaceholders template = args.length) {before after : List Token}
    {kind : Option Placeholder} {position : Nat}
    (h : tokenize template = before ++ ⟨.placeholder kind, position⟩ :: after) :
    ∃ v, args[(Token.kinds before).length]? = some v := by
  have hlt := Token.length_kinds_lt h
  rw [length_kinds_tokenize, hcount] at hlt
  exact ⟨_, List.getElem?_eq_getElem hlt⟩

/-- What the error `e` tells about the token `t` behind the tokens `before`. The position of a brace
is where it stands in the template, and the index of an argument is that of its placeholder; an
argument is wrong as a skip marker outside of every block or because it has no text. -/
def AssemblyError.Tells (r : Renderer) (template : Text) (args : List Value) (before : List Token)
    (t : Token) : AssemblyError → Prop
  | nestedBlock position =>
    t.lexeme = .blockOpen ∧ Token.inBlock before = true ∧ template[position]? = some '{'
  | unmatchedClose position =>
    t.lexeme = .blockClose ∧ Token.inBlock before = false ∧ template[position]? = some '}'
  | argument index fault =>
    index = before.countP (·.lexeme.isPlaceholder) ∧
      ∃ k v, t.lexeme = .placeholder (some k) ∧ args[index]? = some v ∧
        ((v = .skip ∧ Token.inBlock before = false ∧ r.options.skipOutsideBlock = .refuse ∧
            fault = .skipOutsideBlock) ∨
          (v ≠ .skip ∧ r.render k v = .error fault))
  | missingArgument => False
  | kindlessPlaceholder _ => False

/-- A brace of a template stands at its position. -/
theorem getElem?_of_brace {template : Text} {lexeme : Lexeme} {position : Nat} {c : Char}
    (h : ⟨lexeme, position⟩ ∈ tokenize template) (htext : lexeme.text = [c])
    (hbrace : lexeme ≠ .literal Token.separator) : template[position]? = some c := by
  rcases tokenize_positions h with hpart | hseparator
  · rw [Token.text, htext] at hpart
    exact hpart.getElem?
  · exact absurd hseparator hbrace

/-- An offence at an argument is a skip marker outside of every block, or an argument without a
text. -/
theorem argumentOffence?_cases {r : Renderer} {inBlock : Bool} {index position : Nat}
    {k : Placeholder} {v : Value} {e : AssemblyError}
    (h : Assembly.argumentOffence? r inBlock index position (some k) v = some e) :
    ∃ fault, e = .argument index fault ∧
      ((v = .skip ∧ inBlock = false ∧ r.options.skipOutsideBlock = .refuse ∧
          fault = .skipOutsideBlock) ∨
        (v ≠ .skip ∧ r.render k v = .error fault)) := by
  unfold Assembly.argumentOffence? at h
  split at h
  -- the skip marker offends where it is refused, whatever the kind of the placeholder
  · rename_i hskip
    split at h
    · cases h
    · rename_i hplace
      simp only [Bool.or_eq_true, decide_eq_true_eq, not_or, Bool.not_eq_true] at hplace
      refine ⟨_, (Option.some.inj h).symm, .inl ⟨Value.isSkip_iff.mp hskip, hplace.1, ?_, rfl⟩⟩
      cases hpolicy : r.options.skipOutsideBlock with
      | refuse => rfl
      | leaveOut => exact absurd hpolicy hplace.2
  -- any other argument offends where it has no text
  · rename_i hskip
    have hne : v ≠ .skip := fun heq => hskip (Value.isSkip_iff.mpr heq)
    cases hrender : r.render k v with
    | ok text => simp [hrender] at h
    | error fault =>
      simp only [hrender, Option.some.injEq] at h
      exact ⟨fault, h.symm, .inr ⟨hne, rfl⟩⟩

/-- With the right number of arguments, an offence of a token of a template tells the truth. -/
theorem offenceAt_tells {r : Renderer} {template : Text} {args : List Value}
    (hcount : countPlaceholders template = args.length) {j : Nat} {e : AssemblyError}
    (he : Assembly.offenceAt r args (tokenize template) j = some e) :
    ∃ t, (tokenize template)[j]? = some t ∧
      e.Tells r template args ((tokenize template).take j) t := by
  obtain ⟨⟨lexeme, position⟩, ht, hoffence⟩ := Option.bind_eq_some_iff.mp he
  refine ⟨_, ht, ?_⟩
  have hmem : ⟨lexeme, position⟩ ∈ tokenize template := List.mem_of_getElem? ht
  have hsplit := Token.eq_take_append_cons ht
  -- the cases are those of `offence?`: a literal never offends, a brace offends by the brace before
  -- it, and a placeholder by the argument of its index
  cases lexeme with
  | literal text => cases hoffence
  | blockOpen =>
    simp only [Assembly.offence?] at hoffence
    split at hoffence
    · rename_i hinside
      rw [← Option.some.inj hoffence]
      exact ⟨rfl, hinside, getElem?_of_brace hmem rfl (by simp)⟩
    · cases hoffence
  | blockClose =>
    simp only [Assembly.offence?] at hoffence
    split at hoffence
    · cases hoffence
    · rename_i houtside
      rw [← Option.some.inj hoffence]
      exact ⟨rfl, Bool.not_eq_true _ ▸ houtside, getElem?_of_brace hmem rfl (by simp)⟩
  | placeholder kind =>
    -- neither the kind nor the argument can be missing: the template declares the one, and the
    -- count gives the other
    obtain ⟨k, rfl⟩ := kind_of_mem_tokenize hmem
    obtain ⟨v, hv⟩ := exists_argument hcount hsplit
    simp only [Assembly.offence?, hv] at hoffence
    obtain ⟨fault, rfl, hcases⟩ := argumentOffence?_cases hoffence
    exact ⟨Token.length_kinds _, k, v, rfl, hv, hcases⟩

/-- The tokens of a template have the placeholders that are counted, in the same order, each with
its kind. Given as many arguments, an assembly reaches the placeholder of index `i` with exactly the
arguments before index `i` taken and takes the one of index `i` there. An assembly that ends in a
query is one in which behind the last token all arguments are taken. None runs out of arguments, and
none meets a placeholder of no kind. -/
theorem tokenize_takes_each_argument (template : Text) :
    Token.kinds (tokenize template) = (placeholders template).map some ∧
      (tokenize template).countP (·.lexeme.isPlaceholder) = countPlaceholders template ∧
      ∀ (r : Renderer) (args : List Value) (n : Nat),
        checkArguments template args.length = .ok n →
          (∀ before kind position after s,
            tokenize template = before ++ ⟨.placeholder kind, position⟩ :: after →
              Assembly.after r args before = .ok s →
                (∃ k, kind = some k) ∧
                  s.index = before.countP (·.lexeme.isPlaceholder) ∧
                  ∃ v, args[s.index]? = some v ∧ s.remaining = v :: args.drop (s.index + 1)) ∧
          (∀ s, Assembly.after r args (tokenize template) = .ok s →
            s.index = args.length ∧ s.remaining = []) ∧
          (∀ stats sql, assemble r (tokenize template) args = (stats, .ok sql) →
            ∃ s, Assembly.after r args (tokenize template) = .ok s ∧ s.index = args.length ∧
              s.remaining = [] ∧ sql = s.closeBlock.query) ∧
          ∀ stats e, assemble r (tokenize template) args = (stats, .error e) →
            e ≠ .missingArgument ∧ ∀ position, e ≠ .kindlessPlaceholder position := by
  refine ⟨kinds_tokenize template, ?_, ?_⟩
  · rw [← Token.length_kinds, length_kinds_tokenize]
  intro r args n hcheck
  have hcount := countPlaceholders_of_checkArguments hcheck
  -- the state behind some tokens is told by those tokens, so the index behind all of them is the
  -- count of all placeholders
  have hend : ∀ s, Assembly.after r args (tokenize template) = .ok s →
      s.index = args.length ∧ s.remaining = [] := by
    intro s hafter
    have hbehind := Assembly.behind_of_after hafter
    have hindex : s.index = args.length := by
      rw [hbehind.index_eq, length_kinds_tokenize, hcount]
    exact ⟨hindex, by rw [hbehind.remaining_eq, hindex, List.drop_length]⟩
  refine ⟨?_, hend, ?_, ?_⟩
  · intro before kind position after s hsplit hafter
    have hbehind := Assembly.behind_of_after hafter
    obtain ⟨v, hv⟩ := exists_argument hcount hsplit
    rw [← hbehind.index_eq] at hv
    have hmem : ⟨.placeholder kind, position⟩ ∈ tokenize template := by
      rw [hsplit]
      exact List.mem_append_right _ List.mem_cons_self
    refine ⟨kind_of_mem_tokenize hmem, ?_, v, hv, ?_⟩
    · rw [hbehind.index_eq, Token.length_kinds]
    · obtain ⟨hlt, hget⟩ := List.getElem?_eq_some_iff.mp hv
      rw [hbehind.remaining_eq, ← hget, List.getElem_cons_drop]
  · intro stats sql hassemble
    obtain ⟨s, hafter, hsql⟩ := after_of_assemble_ok hassemble
    obtain ⟨hindex, hremaining⟩ := hend s hafter
    exact ⟨s, hafter, hindex, hremaining, hsql⟩
  · intro stats e hassemble
    -- what stops an assembly is an offence of one of its tokens, and such an offence is neither of
    -- the two
    obtain ⟨j, hj⟩ := Assembly.exists_offenceAt (after_of_assemble_error hassemble)
    obtain ⟨t, -, htells⟩ := offenceAt_tells hcount hj
    exact ⟨fun h => by rw [h] at htells; exact htells, fun p h => by rw [h] at htells; exact htells⟩

/-- Placeholders glued to braces and to question marks take their arguments. -/
theorem tokenize_takes_each_argument_glued :
    checkArguments "\x7b?a\x7d ?\x7b?d\x7d ??".toList [Value.list [], .skip, .null].length = .ok 3 ∧
      ∃ s,
        Assembly.after ⟨.default, backslashEscaper⟩ [.list [], .skip, .null]
            (tokenize "\x7b?a\x7d ?\x7b?d\x7d ??".toList) = .ok s ∧
          s.index = 3 ∧ s.remaining = [] ∧ " ? ?NULL".toList = s.closeBlock.query := by
  have hcheck :
      checkArguments "\x7b?a\x7d ?\x7b?d\x7d ??".toList [Value.list [], .skip, .null].length =
        .ok 3 := by
    decide +kernel
  have hassemble : assemble ⟨.default, backslashEscaper⟩
      (tokenize "\x7b?a\x7d ?\x7b?d\x7d ??".toList) [.list [], .skip, .null] =
        (⟨3, 1, 1⟩, .ok " ? ?NULL".toList) := by
    decide +kernel
  exact ⟨hcheck, ((tokenize_takes_each_argument _).2.2 _ _ 3 hcheck).2.2.1 _ _ hassemble⟩

end QueryTemplate
