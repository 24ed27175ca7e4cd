import QueryTemplate.Proofs.Assembly.Segments
import QueryTemplate.Proofs.Compile.FirstOffence
import QueryTemplate.Proofs.Containment.Rendering

/-!
# Arguments stay within their quotes

A template without quotes is compiled twice, with arguments that differ in quoted contents only. The
two queries have the same skeleton, and in both every quote is closed: no text that is given for an
argument reaches beyond the quotes around it.

The two queries are compared segment by segment. A block that is left out of one is left out of the
other, as the skip markers are the same; the literals between the placeholders come from the
template; and what is rendered for two alike arguments has the same skeleton.
-/

namespace QueryTemplate

namespace Item

/-- Two items whose texts have the same skeleton, and of which both or none has got the skip
marker. -/
inductive Alike (r : Renderer) : Item → Item → Prop
  /-- Text of the template. -/
  | literal {t : Text} : t.IsPlain → Alike r (.literal t) (.literal t)
  /-- Two arguments of one placeholder. -/
  | argument {k : Placeholder} {v w : Value} : v.isSkip = w.isSkip →
      SameSkeleton (Item.text r (.argument (some k) (some v)))
        (Item.text r (.argument (some k) (some w))) →
      Alike r (.argument (some k) (some v)) (.argument (some k) (some w))
  /-- The beginning of a block. -/
  | blockOpen : Alike r .blockOpen .blockOpen
  /-- The end of a block. -/
  | blockClose : Alike r .blockClose .blockClose

variable {r : Renderer} {x y : Item}

theorem Alike.isSkip_eq (h : Alike r x y) : x.isSkip = y.isSkip := by
  cases h with
  | argument hskip _ => exact hskip
  | _ => rfl

theorem Alike.text (h : Alike r x y) : SameSkeleton (x.text r) (y.text r) := by
  cases h with
  | literal hplain => exact SameSkeleton.of_isPlain hplain
  | argument _ htext => exact htext
  | _ => exact SameSkeleton.of_isPlain Text.IsPlain.nil

/-- Alike arguments that are skip markers or have texts are alike items. -/
theorem Alike.of_render (h : r.IsGuarded) {k : Placeholder} {v w : Value} (hvw : v.Alike k w)
    (hv : v.isSkip = false → ∃ s, r.render k v = .ok s)
    (hw : w.isSkip = false → ∃ t, r.render k w = .ok t) :
    Alike r (.argument (some k) (some v)) (.argument (some k) (some w)) := by
  refine .argument hvw.isSkip_eq ?_
  have hskip := hvw.isSkip_eq
  show SameSkeleton (if v.isSkip then [] else (r.render k v).toOption.getD [])
    (if w.isSkip then [] else (r.render k w).toOption.getD [])
  by_cases hmark : v.isSkip = true
  · rw [if_pos hmark, if_pos (hskip ▸ hmark)]
    exact SameSkeleton.of_isPlain Text.IsPlain.nil
  · rw [Bool.not_eq_true] at hmark
    obtain ⟨s, hs⟩ := hv hmark
    obtain ⟨t, ht⟩ := hw (hskip ▸ hmark)
    rw [hmark, ← hskip, hmark, hs, ht]
    exact Renderer.render_sameSkeleton h hvw hs ht

end Item

namespace Segment

/-- Two segments of alike items, both outside of every block or both a block. -/
inductive Alike (r : Renderer) : Segment → Segment → Prop
  /-- Outside of every block. -/
  | outside {xs ys : List Item} : List.Forall₂ (Item.Alike r) xs ys →
      Alike r (.outside xs) (.outside ys)
  /-- Two blocks. -/
  | block {xs ys : List Item} : List.Forall₂ (Item.Alike r) xs ys → Alike r (.block xs) (.block ys)

variable {r : Renderer} {here there : Segment}

theorem Alike.push (h : Alike r here there) {x y : Item} (hxy : Item.Alike r x y) :
    Alike r (here.push x) (there.push y) := by
  have hlast : List.Forall₂ (Item.Alike r) [x] [y] := .cons hxy .nil
  cases h with
  | outside hitems => exact .outside (List.rel_append hitems hlast)
  | block hitems => exact .block (List.rel_append hitems hlast)

/-- Alike items are cut into alike segments. -/
theorem cut_alike {xs ys : List Item} (h : List.Forall₂ (Item.Alike r) xs ys)
    (hhere : Alike r here there) :
    List.Forall₂ (Alike r) (here.cut xs) (there.cut ys) := by
  induction h generalizing here there with
  | nil => exact .cons hhere .nil
  | @cons x y xs ys hxy hrest ih =>
    cases hxy with
    -- a brace ends both segments at once, anything else lengthens both
    | literal hplain => exact ih (hhere.push (.literal hplain))
    | argument hskip htext => exact ih (hhere.push (.argument hskip htext))
    | blockOpen => exact .cons hhere (ih (.block .nil))
    | blockClose => exact .cons hhere (ih (.outside .nil))

/-- Of two blocks of alike items, both or none have got a skip marker. -/
theorem any_isSkip_eq {xs ys : List Item} (h : List.Forall₂ (Item.Alike r) xs ys) :
    xs.any Item.isSkip = ys.any Item.isSkip := by
  induction h with
  | nil => rfl
  | cons hxy hrest ih => rw [List.any_cons, List.any_cons, hxy.isSkip_eq, ih]

/-- Alike segments have texts of the same skeleton. -/
theorem Alike.text (h : Alike r here there) : SameSkeleton (here.text r) (there.text r) := by
  have hflat : ∀ {xs ys : List Item}, List.Forall₂ (Item.Alike r) xs ys →
      SameSkeleton (xs.flatMap (Item.text r)) (ys.flatMap (Item.text r)) :=
    fun hitems => SameSkeleton.flatMap (fun x y hxy => hxy.text) hitems
  cases h with
  | outside hitems => exact hflat hitems
  | block hitems =>
    rw [Segment.text, Segment.text, any_isSkip_eq hitems]
    split
    · exact SameSkeleton.of_isPlain Text.IsPlain.nil
    · exact hflat hitems

end Segment

/-- At a placeholder behind which an assembly goes on, an argument that is no skip marker has a
text. -/
theorem Assembly.exists_render_of_after {r : Renderer} {args : List Value}
    {tokens before after : List Token} {k : Placeholder} {position : Nat} {v : Value} {s : Assembly}
    (h : Assembly.after r args tokens = .ok s)
    (hsplit : tokens = before ++ ⟨.placeholder (some k), position⟩ :: after)
    (hv : args[(Token.kinds before).length]? = some v) (hskip : v.isSkip = false) :
    ∃ text, r.render k v = .ok text := by
  have hnone := Assembly.after_eq_ok_iff.mp ⟨s, h⟩ before.length
  rw [hsplit, Assembly.offenceAt_length] at hnone
  simp only [Assembly.offence?, hv, Assembly.argumentOffence?, hskip] at hnone
  cases hrender : r.render k v with
  | ok text => exact ⟨text, rfl⟩
  | error fault => simp [hrender] at hnone

section Compilation

variable {r : Renderer} {template : Text} {args args' : List Value}

/-- A template compiles into the texts of its segments, if its assembly goes through. -/
theorem segmentText_of_compile {sql : Text} (h : compile r template args = .ok sql) :
    countPlaceholders template = args.length ∧
      ∃ s, Assembly.after r args (tokenize template) = .ok s ∧
        sql = (segmentText r args (tokenize template)).trimEnd := by
  by_cases hcount : countPlaceholders template = args.length
  · refine ⟨hcount, ?_⟩
    rw [compile_of_match hcount] at h
    cases hafter : Assembly.after r args (tokenize template) with
    | error stopped =>
      rw [assemble_of_stopped hafter] at h
      cases h
    | ok s =>
      rw [assemble_of_after hafter] at h
      refine ⟨s, rfl, ?_⟩
      rw [← Except.ok.inj h, Assembly.query, Assembly.text_of_after hafter]
  · rw [compile_of_mismatch hcount] at h
    cases h

/-- A literal of a template without quotes is plain. -/
theorem isPlain_of_literal_mem_tokenize (hplain : template.IsPlain) {text : Text} {position : Nat}
    (h : ⟨.literal text, position⟩ ∈ tokenize template) : text.IsPlain := by
  rcases tokenize_positions h with hpart | hseparator
  · exact hplain.subset hpart.subset
  · rw [Lexeme.literal.inj hseparator]
    decide

/-- From any token on, alike arguments make alike items. The induction is on the tokens to come, and
the placeholders among those before it are the arguments already paired. -/
theorem itemsFrom_alike (h : r.IsGuarded) (hplain : template.IsPlain)
    (halike : AlikeArguments template args args')
    (hcount : countPlaceholders template = args.length)
    (hcount' : countPlaceholders template = args'.length) {s s' : Assembly}
    (hafter : Assembly.after r args (tokenize template) = .ok s)
    (hafter' : Assembly.after r args' (tokenize template) = .ok s') {before rest : List Token}
    (hsplit : tokenize template = before ++ rest) :
    List.Forall₂ (Item.Alike r) (itemsFrom args (Token.kinds before).length rest)
      (itemsFrom args' (Token.kinds before).length rest) := by
  induction rest generalizing before with
  | nil => exact .nil
  | cons t rest ih =>
    have hmore : tokenize template = (before ++ [t]) ++ rest := by
      rw [hsplit, List.append_cons]
    have hnext := ih hmore
    have hmem : t ∈ tokenize template := by
      rw [hsplit]
      exact List.mem_append_right before List.mem_cons_self
    obtain ⟨lexeme, position⟩ := t
    cases lexeme with
    | literal text =>
      rw [Token.kinds_append, Token.kinds_literal, List.append_nil] at hnext
      exact .cons (.literal (isPlain_of_literal_mem_tokenize hplain hmem)) hnext
    | blockOpen =>
      rw [Token.kinds_append, Token.kinds_blockOpen, List.append_nil] at hnext
      exact .cons .blockOpen hnext
    | blockClose =>
      rw [Token.kinds_append, Token.kinds_blockClose, List.append_nil] at hnext
      exact .cons .blockClose hnext
    | placeholder kind =>
      rw [Token.kinds_append, Token.kinds_placeholder, List.length_append] at hnext
      obtain ⟨k, rfl⟩ := kind_of_mem_tokenize hmem
      obtain ⟨v, hv⟩ := exists_argument hcount hsplit
      obtain ⟨w, hw⟩ := exists_argument hcount' hsplit
      -- the relation of the arguments speaks of the kinds that are counted
      have hkind := placeholders_getElem? hsplit
      have hitem := Item.Alike.of_render h (halike _ k v w hkind hv hw)
        (Assembly.exists_render_of_after hafter hsplit hv)
        (Assembly.exists_render_of_after hafter' hsplit hw)
      show List.Forall₂ _ (Item.argument (some k) args[(Token.kinds before).length]? :: _)
        (Item.argument (some k) args'[(Token.kinds before).length]? :: _)
      rw [hv, hw]
      exact .cons hitem hnext

end Compilation

/-- A template without quotes, compiled with the escaping of this library and with checked names,
twice with alike arguments: the queries have the same skeleton, and in both every quote is closed.
-/
theorem compile_sameSkeleton {options : Options} (hchecked : options.validateIdentifiers = true)
    {template : Text} (hplain : template.IsPlain) {args args' : List Value}
    (halike : AlikeArguments template args args') {sql sql' : Text}
    (h : compile ⟨options, backslashEscaper⟩ template args = .ok sql)
    (h' : compile ⟨options, backslashEscaper⟩ template args' = .ok sql') :
    scan sql = .outside ∧ scan sql' = .outside ∧ skeleton sql = skeleton sql' := by
  have hguarded : Renderer.IsGuarded ⟨options, backslashEscaper⟩ := ⟨rfl, hchecked⟩
  obtain ⟨hcount, s, hafter, rfl⟩ := segmentText_of_compile h
  obtain ⟨hcount', s', hafter', rfl⟩ := segmentText_of_compile h'
  have hsplit : tokenize template = [] ++ tokenize template := rfl
  have hitems := itemsFrom_alike hguarded hplain halike hcount hcount' hafter hafter' hsplit
  have hsegments := Segment.cut_alike hitems (.outside .nil)
  -- the blanks at the end are cut off last, when all quotes are closed
  have htexts := SameSkeleton.flatMap (fun here there hseg => hseg.text) hsegments
  obtain ⟨hleft, hright, heq⟩ := htexts.trimEnd
  exact ⟨hleft, hright, heq⟩

/-- Contents that would end a literal or an identifier, or that look like a placeholder or a
comment, stay within their quotes. -/
theorem compile_sameSkeleton_hostile :
    scan "SELECT `' --` WHERE x = '\\'; \\\\' AND `?d` = '` \\\\\\''".toList = .outside ∧
      skeleton "SELECT `a` WHERE x = 'y' AND `k` = 'v'".toList =
        skeleton "SELECT `' --` WHERE x = '\\'; \\\\' AND `?d` = '` \\\\\\''".toList := by
  have hplain : Text.IsPlain "SELECT ?# WHERE x = ? \x7bAND ?a\x7d".toList := by
    decide
  have hkinds : placeholders "SELECT ?# WHERE x = ? \x7bAND ?a\x7d".toList =
      [.identifier, .generic, .array] := by
    decide +kernel
  have halike : AlikeArguments "SELECT ?# WHERE x = ? \x7bAND ?a\x7d".toList
      [.text "a".toList, .text "y".toList, .map [(.text "k".toList, .text "v".toList)]]
      [.text "' --".toList, .text "'; \\".toList,
        .map [(.text "?d".toList, .text "` \\'".toList)]] := by
    have htext : ∀ s t, Value.SameButText (.text s) (.text t) :=
      fun s t => .inr ⟨⟨s, rfl⟩, ⟨t, rfl⟩⟩
    intro i k v w hk hv hw
    rw [hkinds] at hk
    rcases i with _ | _ | _ | i
    · cases hk
      cases hv
      cases hw
      exact .name ⟨_, rfl⟩ ⟨_, rfl⟩ (Value.hasPlainName_text _) (Value.hasPlainName_text _)
    · cases hk
      cases hv
      cases hw
      exact .text ⟨_, rfl⟩ ⟨_, rfl⟩
    · cases hk
      cases hv
      cases hw
      exact Value.alike_map (.cons ⟨htext _ _, htext _ _⟩ .nil)
    · cases hv
  have hsql : compile ⟨.default, backslashEscaper⟩ "SELECT ?# WHERE x = ? \x7bAND ?a\x7d".toList
      [.text "a".toList, .text "y".toList, .map [(.text "k".toList, .text "v".toList)]] =
        .ok "SELECT `a` WHERE x = 'y' AND `k` = 'v'".toList := by
    decide +kernel
  have hsql' : compile ⟨.default, backslashEscaper⟩ "SELECT ?# WHERE x = ? \x7bAND ?a\x7d".toList
      [.text "' --".toList, .text "'; \\".toList,
        .map [(.text "?d".toList, .text "` \\'".toList)]] =
        .ok "SELECT `' --` WHERE x = '\\'; \\\\' AND `?d` = '` \\\\\\''".toList := by
    decide +kernel
  exact (compile_sameSkeleton rfl hplain halike hsql hsql').2

end QueryTemplate
