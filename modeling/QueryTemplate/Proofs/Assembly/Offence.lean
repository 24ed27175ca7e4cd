import Mathlib.Data.List.Induction
import Mathlib.Data.Nat.Find
import QueryTemplate.Proofs.Assembly.Step
import QueryTemplate.Proofs.Template.Tiling

/-!
# What stops an assembly

Whether a token stops an assembly can be told from the tokens before it: how many of them are
placeholders says which argument is due, and the last brace among them says whether a block is open.
Nothing of what was rendered before matters. An assembly stops at the first token that offends, with
the error of that offence, and goes through if no token does.
-/

namespace QueryTemplate

namespace Token

/-- Whether a block is open behind a token, given whether one is open before it. -/
def blockAfter (inside : Bool) (t : Token) : Bool :=
  match t.lexeme with
  | .blockOpen => true
  | .blockClose => false
  | _ => inside

/-- Whether a block is open behind tokens: the last brace among them opens one. -/
def inBlock (tokens : List Token) : Bool := tokens.foldl blockAfter false

@[simp] theorem inBlock_literal (before : List Token) (text : Text) (position : Nat) :
    inBlock (before ++ [⟨.literal text, position⟩]) = inBlock before := by
  rw [inBlock, List.foldl_append]
  rfl

@[simp] theorem inBlock_placeholder (before : List Token) (kind : Option Placeholder)
    (position : Nat) : inBlock (before ++ [⟨.placeholder kind, position⟩]) = inBlock before := by
  rw [inBlock, List.foldl_append]
  rfl

@[simp] theorem inBlock_blockOpen (before : List Token) (position : Nat) :
    inBlock (before ++ [⟨.blockOpen, position⟩]) = true := by
  rw [inBlock, List.foldl_append]
  rfl

@[simp] theorem inBlock_blockClose (before : List Token) (position : Nat) :
    inBlock (before ++ [⟨.blockClose, position⟩]) = false := by
  rw [inBlock, List.foldl_append]
  rfl

end Token

namespace Assembly

/-- What is wrong with an argument at its placeholder. The skip marker is out of place outside of
every block, unless the options leave it out there; every other value needs a text. -/
def argumentOffence? (r : Renderer) (inBlock : Bool) (index position : Nat)
    (kind : Option Placeholder) (v : Value) : Option AssemblyError :=
  if v.isSkip then
    if inBlock || r.options.skipOutsideBlock = .leaveOut then none
    else some (.argument index .skipOutsideBlock)
  else
    match kind with
    | none => some (.kindlessPlaceholder position)
    | some k =>
      match r.render k v with
      | .ok _ => none
      | .error fault => some (.argument index fault)

/-- What is wrong with the token `t` behind the tokens `before`. -/
def offence? (r : Renderer) (args : List Value) (before : List Token) (t : Token) :
    Option AssemblyError :=
  match t.lexeme with
  | .literal _ => none
  | .blockOpen => if Token.inBlock before then some (.nestedBlock t.position) else none
  | .blockClose => if Token.inBlock before then none else some (.unmatchedClose t.position)
  | .placeholder kind =>
    let index := (Token.kinds before).length
    match args[index]? with
    | none => some .missingArgument
    | some v => argumentOffence? r (Token.inBlock before) index t.position kind v

/-- What is wrong with the token of index `j`. -/
def offenceAt (r : Renderer) (args : List Value) (tokens : List Token) (j : Nat) :
    Option AssemblyError :=
  tokens[j]?.bind (offence? r args (tokens.take j))

/-- What an assembly has of the tokens behind it: as many arguments are taken as there are
placeholders, from the front, and a block is open if the last brace opened one. -/
structure Behind (args : List Value) (before : List Token) (s : Assembly) : Prop where
  index_eq : s.index = (Token.kinds before).length
  remaining_eq : s.remaining = args.drop s.index
  isInside_eq : s.isInside = Token.inBlock before

/-- At the beginning nothing is behind. -/
theorem Behind.start (args : List Value) : Behind args [] (start args) where
  index_eq := rfl
  remaining_eq := List.drop_zero.symm
  isInside_eq := rfl

variable {r : Renderer} {args : List Value} {before : List Token} {s s' : Assembly} {t : Token}

/-- The argument that is due is the one that the placeholders behind have left. -/
theorem Behind.due (h : Behind args before s) {v : Value} {rest : List Value}
    (hdue : s.remaining = v :: rest) :
    args[s.index]? = some v ∧ rest = args.drop (s.index + 1) := by
  have hdrop : args.drop s.index = v :: rest := h.remaining_eq ▸ hdue
  constructor
  · rw [← List.head?_drop, hdrop, List.head?_cons]
  · rw [← List.tail_drop, hdrop, List.tail_cons]

/-- The argument that is due has the index that the placeholders behind have left. -/
theorem Behind.argument (h : Behind args before s) {v : Value} {rest : List Value}
    (hdue : s.remaining = v :: rest) : args[(Token.kinds before).length]? = some v := by
  rw [← h.index_eq]
  exact (h.due hdue).1

/-- A step puts its token behind. -/
theorem Behind.step (h : Behind args before s) (hstep : s.step r t = .ok s') :
    Behind args (before ++ [t]) s' := by
  have hindex := h.index_eq
  have hremaining := h.remaining_eq
  have hinside := h.isInside_eq
  cases step_eq_ok_iff.mp hstep with
  | literal text position =>
    exact ⟨by simpa using hindex, by simpa using hremaining, by simpa using hinside⟩
  | opened position outside => exact ⟨by simpa using hindex, hremaining, by simp [isInside]⟩
  | closed position inside =>
    exact ⟨by simpa using hindex, by simpa using hremaining, by simp [isInside_eq_false_iff]⟩
  | marked position due inside =>
    refine ⟨by simpa using hindex, (h.due due).2, ?_⟩
    rw [Token.inBlock_placeholder, ← hinside, isInside_eq_true_iff.mpr ⟨_, _, inside⟩]
    rfl
  | leftOut position due outside policy =>
    exact ⟨by simpa using hindex, (h.due due).2, by simpa using hinside⟩
  | filled position due noSkip rendered =>
    exact ⟨by simpa using hindex, by simpa using (h.due due).2, by simpa using hinside⟩

/-- An argument that does not offend does not stop the assembly. -/
theorem substitute_of_noOffence {kind : Option Placeholder} {position : Nat} {v : Value}
    (rest : List Value)
    (hnone : argumentOffence? r s.isInside s.index position kind v = none) :
    ∃ s', s.substitute r kind position v rest = .ok s' := by
  unfold argumentOffence? at hnone
  unfold substitute
  split at hnone
  · rename_i hskip
    rw [if_pos hskip]
    cases hregion : s.region with
    | outside =>
      cases hpolicy : r.options.skipOutsideBlock with
      -- the one place where a skip marker offends is excluded
      | refuse => simp [isInside, hregion, hpolicy] at hnone
      | leaveOut => exact ⟨s.take rest, by simp [skip, hregion, hpolicy]⟩
    | inside pieces suppressed =>
      exact ⟨{ s.take rest with region := .inside pieces true }, by
        simp only [skip, take_region, hregion]⟩
  · rename_i hskip
    rw [if_neg hskip]
    cases kind with
    | none => cases hnone
    | some k =>
      cases hrender : r.render k v with
      | ok piece => exact ⟨(s.take rest).put piece, by simp only [hrender]⟩
      | error fault => simp [hrender] at hnone

/-- An argument that offends stops the assembly with its offence. -/
theorem substitute_of_offence {kind : Option Placeholder} {position : Nat} {v : Value}
    {e : AssemblyError} (rest : List Value)
    (hsome : argumentOffence? r s.isInside s.index position kind v = some e) :
    ∃ stats, s.substitute r kind position v rest = .error (stats, e) := by
  unfold argumentOffence? at hsome
  unfold substitute
  split at hsome
  · rename_i hskip
    rw [if_pos hskip]
    split at hsome
    · cases hsome
    · rename_i hplace
      simp only [Bool.or_eq_true, decide_eq_true_eq, not_or, Bool.not_eq_true,
        isInside_eq_false_iff] at hplace
      -- outside of every block, and where it is not left out: the step refuses it there
      obtain ⟨hregion, hpolicy⟩ := hplace
      have hrefuse : r.options.skipOutsideBlock = .refuse := by
        cases h : r.options.skipOutsideBlock with
        | refuse => rfl
        | leaveOut => exact absurd h hpolicy
      rw [← Option.some.inj hsome]
      exact ⟨(s.take rest).stats, by simp only [skip, take_region, hregion, hrefuse]⟩
  · rename_i hskip
    rw [if_neg hskip]
    cases kind with
    | none => exact ⟨(s.take rest).stats, by rw [← Option.some.inj hsome]⟩
    | some k =>
      cases hrender : r.render k v with
      | ok piece => simp [hrender] at hsome
      | error fault =>
        simp only [hrender, Option.some.injEq] at hsome
        exact ⟨(s.take rest).stats, by simp only [hrender, hsome]⟩

/-- Where no argument is left, the argument that is due is missing. -/
theorem Behind.due_none (h : Behind args before s) (hdue : s.remaining = []) :
    args[s.index]? = none := by
  rw [← List.head?_drop, ← h.remaining_eq, hdue, List.head?_nil]

/-- A token that does not offend does not stop the assembly. -/
theorem step_of_noOffence (h : Behind args before s) (hnone : offence? r args before t = none) :
    ∃ s', s.step r t = .ok s' := by
  obtain ⟨lexeme, position⟩ := t
  -- what the tokens before say of the index and of the block, the state says as well
  simp only [offence?, ← h.index_eq, ← h.isInside_eq] at hnone
  cases lexeme with
  | literal text => exact ⟨_, rfl⟩
  | blockOpen =>
    have hregion : s.region = .outside := by
      rw [← isInside_eq_false_iff]
      simpa using hnone
    exact ⟨_, step_eq_ok_iff.mpr (.opened position hregion)⟩
  | blockClose =>
    have hinside : s.isInside = true := by simpa using hnone
    exact ⟨_, step_eq_ok_iff.mpr (.closed position hinside)⟩
  | placeholder kind =>
    simp only [step]
    cases hdue : s.remaining with
    | nil => simp [h.due_none hdue] at hnone
    | cons v rest =>
      simp only [(h.due hdue).1] at hnone
      exact substitute_of_noOffence rest hnone

/-- A token that offends stops the assembly with its offence. -/
theorem step_of_offence (h : Behind args before s) {e : AssemblyError}
    (hsome : offence? r args before t = some e) : ∃ stats, s.step r t = .error (stats, e) := by
  obtain ⟨lexeme, position⟩ := t
  -- the offence is asked of the tokens before, and the step looks at the state
  simp only [offence?, ← h.index_eq, ← h.isInside_eq] at hsome
  cases lexeme with
  | literal text => cases hsome
  | blockOpen =>
    cases hinside : s.isInside with
    | false => simp [hinside] at hsome
    | true =>
      obtain ⟨pieces, suppressed, hregion⟩ := isInside_eq_true_iff.mp hinside
      simp only [hinside, if_true, Option.some.injEq] at hsome
      exact ⟨s.stats, by simp only [step, hregion, hsome]⟩
  | blockClose =>
    cases hinside : s.isInside with
    | true => simp [hinside] at hsome
    | false =>
      have hregion := isInside_eq_false_iff.mp hinside
      simp only [hinside, Bool.false_eq_true, if_false, Option.some.injEq] at hsome
      exact ⟨s.stats, by simp only [step, hregion, hsome]⟩
  | placeholder kind =>
    simp only [step]
    cases hdue : s.remaining with
    | nil =>
      -- the arguments ran out
      simp only [h.due_none hdue, Option.some.injEq] at hsome
      exact ⟨s.stats, by rw [← hsome]⟩
    | cons v rest =>
      simp only [(h.due hdue).1] at hsome
      exact substitute_of_offence rest hsome

/-! ## Several tokens -/

/-- The state after tokens, or what stopped the assembly among them. -/
def after (r : Renderer) (args : List Value) (tokens : List Token) : Except Stopped Assembly :=
  tokens.foldlM (Assembly.step r) (Assembly.start args)

/-- The tokens before the last one, and then the last one. -/
theorem after_concat (r : Renderer) (args : List Value) (tokens : List Token) (t : Token) :
    after r args (tokens ++ [t]) = (after r args tokens).bind (Assembly.step r · t) := by
  rw [after, List.foldlM_append]
  cases h : tokens.foldlM (Assembly.step r) (Assembly.start args) with
  | error stopped =>
    rw [after, h]
    rfl
  | ok s =>
    rw [after, h]
    show [t].foldlM (Assembly.step r) s = s.step r t
    rw [List.foldlM_cons]
    cases s.step r t <;> rfl

/-- What stops an assembly stops it whatever follows. -/
theorem after_append_of_error {stopped : Stopped} {tokens : List Token}
    (h : after r args tokens = .error stopped) (more : List Token) :
    after r args (tokens ++ more) = .error stopped := by
  unfold after at h
  rw [after, List.foldlM_append, h]
  rfl

/-- What holds at the beginning, and behind a token if it holds before it, holds behind all tokens
that go through. -/
theorem after_induction {P : List Token → Assembly → Prop} (hstart : P [] (start args))
    (hstep : ∀ {before s t s'}, P before s → s.step r t = .ok s' → P (before ++ [t]) s')
    {tokens : List Token} (h : after r args tokens = .ok s) : P tokens s := by
  induction tokens using List.reverseRec generalizing s with
  | nil =>
    rw [← Except.ok.inj h]
    exact hstart
  | append_singleton tokens t ih =>
    rw [after_concat] at h
    cases hmid : after r args tokens with
    | error stopped =>
      rw [hmid] at h
      cases h
    | ok mid =>
      rw [hmid] at h
      exact hstep (ih hmid) h

/-- Every state that is reached has behind it the tokens that led to it. -/
theorem behind_of_after {tokens : List Token} (h : after r args tokens = .ok s) :
    Behind args tokens s :=
  after_induction (.start args) Behind.step h

/-- What follows a token has no part in its offence. -/
theorem offenceAt_append_left {tokens : List Token} {j : Nat} (hj : j < tokens.length)
    (more : List Token) : offenceAt r args (tokens ++ more) j = offenceAt r args tokens j := by
  rw [offenceAt, offenceAt, List.getElem?_append_left hj,
    List.take_append_of_le_length (Nat.le_of_lt hj)]

/-- The offence of the token behind the first ones. -/
theorem offenceAt_length (tokens : List Token) (t : Token) (more : List Token) :
    offenceAt r args (tokens ++ t :: more) tokens.length = offence? r args tokens t := by
  rw [offenceAt, List.getElem?_append_right (Nat.le_refl _), Nat.sub_self, List.take_left]
  rfl

/-- Tokens that do not offend do not stop the assembly. -/
theorem after_of_noOffence {tokens : List Token}
    (hnone : ∀ j < tokens.length, offenceAt r args tokens j = none) :
    ∃ s, after r args tokens = .ok s := by
  -- the induction is on the last token, as its offence depends on those before it
  induction tokens using List.reverseRec with
  | nil => exact ⟨_, rfl⟩
  | append_singleton tokens t ih =>
    have hbefore : ∀ j < tokens.length, offenceAt r args tokens j = none := by
      intro j hj
      rw [← offenceAt_append_left hj [t]]
      exact hnone j (by rw [List.length_append]; omega)
    obtain ⟨mid, hmid⟩ := ih hbefore
    have hlast : offence? r args tokens t = none := by
      rw [← offenceAt_length tokens t []]
      exact hnone _ (by rw [List.length_append, List.length_singleton]; omega)
    obtain ⟨s, hs⟩ := step_of_noOffence (behind_of_after hmid) hlast
    exact ⟨s, by rw [after_concat, hmid]; exact hs⟩

/-- The first token that offends stops the assembly with its offence. -/
theorem after_of_offence {tokens : List Token} {j : Nat} {e : AssemblyError}
    (hsome : offenceAt r args tokens j = some e)
    (hfirst : ∀ i < j, offenceAt r args tokens i = none) :
    ∃ stats, after r args tokens = .error (stats, e) := by
  obtain ⟨t, ht, hoffence⟩ := Option.bind_eq_some_iff.mp hsome
  obtain ⟨hj, rfl⟩ := List.getElem?_eq_some_iff.mp ht
  have hsplit : tokens.take j ++ [tokens[j]] ++ tokens.drop (j + 1) = tokens := by
    rw [List.append_assoc, List.singleton_append, List.getElem_cons_drop,
      List.take_append_drop]
  have hbefore : ∀ i < (tokens.take j).length, offenceAt r args (tokens.take j) i = none := by
    intro i hi
    have hij : i < j := by
      rw [List.length_take] at hi
      omega
    rw [← offenceAt_append_left hi (tokens.drop j), List.take_append_drop]
    exact hfirst i hij
  -- the tokens before go through, this one stops the assembly, and what follows is not looked at
  obtain ⟨mid, hmid⟩ := after_of_noOffence hbefore
  obtain ⟨stats, hstop⟩ := step_of_offence (behind_of_after hmid) hoffence
  refine ⟨stats, ?_⟩
  have herror : after r args (tokens.take j ++ [tokens[j]]) = .error (stats, e) := by
    rw [after_concat, hmid]
    exact hstop
  rw [← hsplit]
  exact after_append_of_error herror _

/-- Either no token offends, or one of them is the first that does. -/
theorem noOffence_or_first (r : Renderer) (args : List Value) (tokens : List Token) :
    (∀ j, offenceAt r args tokens j = none) ∨
      ∃ j e, offenceAt r args tokens j = some e ∧
        ∀ i < j, offenceAt r args tokens i = none := by
  by_cases hall : ∀ j, offenceAt r args tokens j = none
  · exact .inl hall
  · right
    push Not at hall
    classical
    obtain ⟨e, he⟩ := Option.ne_none_iff_exists'.mp (Nat.find_spec hall)
    exact ⟨Nat.find hall, e, he, fun i hi => not_not.mp (Nat.find_min hall hi)⟩

/-- An assembly goes through unless one of its tokens offends. -/
theorem after_eq_ok_iff {tokens : List Token} :
    (∃ s, after r args tokens = .ok s) ↔ ∀ j, offenceAt r args tokens j = none := by
  constructor
  · rintro ⟨s, hs⟩
    rcases noOffence_or_first r args tokens with hnone | ⟨j, e, he, hfirst⟩
    · exact hnone
    · obtain ⟨stats, hstop⟩ := after_of_offence he hfirst
      rw [hs] at hstop
      cases hstop
  · intro hnone
    exact after_of_noOffence fun j _ => hnone j

/-- What stops an assembly is the offence of one of its tokens. -/
theorem exists_offenceAt {tokens : List Token} {stats : Stats} {e : AssemblyError}
    (h : after r args tokens = .error (stats, e)) : ∃ j, offenceAt r args tokens j = some e := by
  rcases noOffence_or_first r args tokens with hnone | ⟨j, first, hsome, hfirst⟩
  · obtain ⟨s, hs⟩ := after_eq_ok_iff.mpr hnone
    rw [hs] at h
    cases h
  · obtain ⟨counted, hstop⟩ := after_of_offence hsome hfirst
    rw [hstop] at h
    cases h
    exact ⟨j, hsome⟩

/-- Where nothing was counted before, an assembly begins as one by itself. -/
theorem resume_zero (args : List Value) : resume .zero args = start args := rfl

end Assembly

/-- An assembly that goes through ends in a query. -/
theorem assemble_of_after {r : Renderer} {args : List Value} {tokens : List Token} {s : Assembly}
    (h : Assembly.after r args tokens = .ok s) :
    assemble r tokens args = (s.closeBlock.stats, .ok s.closeBlock.query) := by
  unfold Assembly.after at h
  rw [assemble, assembleFrom, Assembly.run, Assembly.resume_zero, h]
  rfl

/-- An assembly that is stopped ends in the error. -/
theorem assemble_of_stopped {r : Renderer} {args : List Value} {tokens : List Token}
    {stats : Stats} {e : AssemblyError} (h : Assembly.after r args tokens = .error (stats, e)) :
    assemble r tokens args = (stats, .error e) := by
  unfold Assembly.after at h
  rw [assemble, assembleFrom, Assembly.run, Assembly.resume_zero, h]
  rfl

/-- An assembly that ends in a query went through. -/
theorem after_of_assemble_ok {r : Renderer} {args : List Value} {tokens : List Token}
    {stats : Stats} {sql : Text} (h : assemble r tokens args = (stats, .ok sql)) :
    ∃ s, Assembly.after r args tokens = .ok s ∧ sql = s.closeBlock.query := by
  cases hafter : Assembly.after r args tokens with
  | ok s =>
    rw [assemble_of_after hafter] at h
    cases h
    exact ⟨s, rfl, rfl⟩
  | error stopped =>
    obtain ⟨counted, found⟩ := stopped
    rw [assemble_of_stopped hafter] at h
    cases h

/-- An error of an assembly is what stopped it. -/
theorem after_of_assemble_error {r : Renderer} {args : List Value} {tokens : List Token}
    {stats : Stats} {e : AssemblyError} (h : assemble r tokens args = (stats, .error e)) :
    Assembly.after r args tokens = .error (stats, e) := by
  cases hafter : Assembly.after r args tokens with
  | ok s =>
    rw [assemble_of_after hafter] at h
    cases h
  | error stopped =>
    obtain ⟨counted, found⟩ := stopped
    rw [assemble_of_stopped hafter] at h
    cases h
    rfl

end QueryTemplate
