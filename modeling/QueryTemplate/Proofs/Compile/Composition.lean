import QueryTemplate.Proofs.Assembly.Reading
import QueryTemplate.Proofs.Compile.ErrorClass
import QueryTemplate.Proofs.Compile.Trimming
import QueryTemplate.Proofs.Template.Words

/-!
# Templates compiled together

Two templates with blanks between them are compiled one after the other, unless the first leaves a
block open. The tokens are those of both, and so the assembly of the second goes on behind that of
the first with the arguments that are left. The query is both queries with spaces between them, as
many as were cut off at the end of the first; an error of the second is the same further to the
right.
-/

namespace QueryTemplate

section Composition

variable {r : Renderer} {first second w : Text} {args args' : List Value} {s t : Assembly}

/-- Behind a template that leaves no block open the assembly stands outside. -/
theorem region_of_after (hclosed : first.endsInBlock = false)
    (h : Assembly.after r args (tokenize first) = .ok s) : s.region = .outside := by
  rw [← Assembly.isInside_eq_false_iff, (Assembly.behind_of_after h).isInside_eq, inBlock_tokenize]
  exact hclosed

/-- The second template is assembled behind the first. -/
theorem after_append_blanks (hcount : countPlaceholders first = args.length)
    (hclosed : first.endsInBlock = false)
    (h : Assembly.after r args (tokenize first) = .ok s) (hw : w ≠ [])
    (hblank : ∀ c ∈ w, isBlank c = true) (second : Text) (args' : List Value) :
    Assembly.after r (args ++ args') (tokenize (first ++ w ++ second)) =
      Assembly.continued s (first.length + w.length)
        (Assembly.after r args' (tokenize second)) := by
  have hregion := region_of_after hclosed h
  have htaken : args.length = (Lexeme.kinds ((tokenize first).map Token.lexeme)).length := by
    rw [Lexeme.kinds_map_lexeme, length_kinds_tokenize, hcount]
  have hremaining : (Assembly.start args).remaining = args ++ [] := (List.append_nil args).symm
  -- the first template takes its arguments and leaves the others
  have hfirst : (tokenize first).foldlM (Assembly.step r) (Assembly.start (args ++ args')) =
      .ok (s.withArguments args') := by
    have hreads := Assembly.foldlM_eq_ok_iff_reads.mp h
    exact Assembly.foldlM_eq_ok_iff_reads.mpr ((hreads.withArguments hremaining htaken).2 args')
  rw [tokenize_append_blanks hw hblank, Assembly.after, List.foldlM_append, hfirst,
    ← Assembly.onto_start hregion]
  exact Assembly.foldlM_onto s (Assembly.start args') (tokenize second) _

/-- Behind a template that is not blank, the last text emitted is a separator. -/
theorem exists_text_eq_concat (hclosed : first.endsInBlock = false)
    (h : Assembly.after r args (tokenize first) = .ok s) (hsolid : ∃ c ∈ first, isBlank c = false) :
    ∃ before, s.text = before ++ [' '] := by
  obtain ⟨before, position, htokens⟩ := tokenize_eq_concat_separator hsolid
  obtain ⟨mid, hlast⟩ : ∃ mid, s = Assembly.put mid Token.separator := by
    rw [htokens, Assembly.after_concat] at h
    cases hmid : Assembly.after r args before with
    | error stopped =>
      rw [hmid] at h
      cases h
    | ok mid =>
      rw [hmid] at h
      exact ⟨mid, (Except.ok.inj h).symm⟩
  have hmid : mid.region = .outside := by
    rw [← Assembly.isInside_eq_false_iff, ← Assembly.put_isInside mid Token.separator, ← hlast,
      Assembly.isInside_eq_false_iff]
    exact region_of_after hclosed h
  refine ⟨mid.text, ?_⟩
  rw [hlast, Assembly.text_put_of_outside mid _ hmid]
  rfl

/-- At the end of what a template emits outside of blocks, only spaces are cut off: one at least,
if the template is not blank. -/
theorem exists_spaces (hclosed : first.endsInBlock = false)
    (h : Assembly.after r args (tokenize first) = .ok s) :
    ∃ k, s.text = s.text.trimEnd ++ Text.filled k ' ' ∧
      ((∃ c ∈ first, isBlank c = false) → 1 ≤ k) := by
  have hclose : s.closeBlock = s := by
    simp only [Assembly.closeBlock, region_of_after hclosed h]
  have hsegments : s.text = segmentText r args (tokenize first) := by
    rw [← Assembly.text_of_after h, hclose]
  obtain ⟨kept, cut, -, htrim, hflat, -⟩ := exists_trimEnd_segmentText_eq r args first
  rw [← hsegments] at htrim hflat
  rw [← htrim] at hflat
  refine ⟨cut.countP Item.isSeparator, hflat, fun hsolid => ?_⟩
  obtain ⟨before, htext⟩ := exists_text_eq_concat hclosed h hsolid
  -- the separator at the end is cut off
  by_contra hzero
  have hnone : s.text.trimEnd = s.text := by
    conv_rhs => rw [hflat, Nat.eq_zero_of_not_pos hzero]
    exact (List.append_nil _).symm
  exact Text.dropEndWhile_ne_concat (by decide) _ _ (hnone.trans htext)

/-- The query of an assembly behind another one, of which `k` spaces are cut off at the end. -/
theorem query_onto {k : Nat} (hregion : s.region = .outside)
    (hk : s.text = s.text.trimEnd ++ Text.filled k ' ') (t : Assembly) :
    (Assembly.onto s t).closeBlock.query =
      if t.closeBlock.query = [] then s.closeBlock.query
      else s.closeBlock.query ++ Text.filled k ' ' ++ t.closeBlock.query := by
  have hclose : s.closeBlock = s := by
    simp only [Assembly.closeBlock, hregion]
  rw [Assembly.closeBlock_onto, Assembly.query, Assembly.text_onto, Text.trimEnd_append, hclose]
  by_cases hnone : t.closeBlock.text.trimEnd = []
  · rw [if_pos hnone, Assembly.query, Assembly.query, if_pos hnone]
  · rw [if_neg hnone, Assembly.query, Assembly.query, if_neg hnone, ← hk]

end Composition

/-- Two templates with blanks between them, under the escaping of this library. The tokens are those
of the first and then those of the second, moved by what stands in front of them. If the first
template compiles and leaves no block open, both together compile if the second does, into the first
query alone if the second is empty, and otherwise into both with spaces between them, whose number
the first template and its arguments decide: at least one, if the first template is not blank. If
the second does not compile, both together do not either, and the error is reported in the same way,
its index moved by the arguments of the first and its position by what stands in front. -/
theorem compile_append_blanks (options : Options) (first : Text) :
    let r : Renderer := ⟨options, backslashEscaper⟩
    (∀ w second, w ≠ [] → (∀ c ∈ w, isBlank c = true) →
      tokenize (first ++ w ++ second) =
        tokenize first ++ (tokenize second).map (Token.shifted (first.length + w.length))) ∧
    ∀ args sql, compile r first args = .ok sql → first.endsInBlock = false →
      ∃ k, ((∃ c ∈ first, isBlank c = false) → 1 ≤ k) ∧
        ∀ w second args', w ≠ [] → (∀ c ∈ w, isBlank c = true) →
          countPlaceholders second = args'.length →
            (∀ sql', compile r second args' = .ok sql' →
              compile r (first ++ w ++ second) (args ++ args') =
                .ok (if sql' = [] then sql else sql ++ Text.filled k ' ' ++ sql')) ∧
            ∀ e, compile r second args' = .error e →
              let e' := e.shifted args.length (first.length + w.length)
              compile r (first ++ w ++ second) (args ++ args') = .error e' ∧
                e'.errorClass = e.errorClass ∧
                e'.index? = e.index?.map (· + args.length) ∧
                e'.position? = e.position?.map (· + (first.length + w.length)) := by
  intro r
  refine ⟨fun w second hw hblank => tokenize_append_blanks hw hblank first second, ?_⟩
  intro args sql hsql hclosed
  obtain ⟨hcount, s, hafter, rfl⟩ := compile_eq_ok_iff_after.mp hsql
  -- the number of spaces is that of the separators cut off behind the first query
  obtain ⟨k, hk, hpositive⟩ := exists_spaces hclosed hafter
  refine ⟨k, hpositive, ?_⟩
  intro w second args' hw hblank hcount'
  -- the assembly of both templates is that of the second, moved behind that of the first
  have hboth := after_append_blanks hcount hclosed hafter hw hblank second args'
  have hcounts : countPlaceholders (first ++ w ++ second) = (args ++ args').length := by
    rw [countPlaceholders_append_blanks hw hblank, List.length_append, hcount, hcount']
  constructor
  · intro sql' hsql'
    obtain ⟨-, t, hafter', rfl⟩ := compile_eq_ok_iff_after.mp hsql'
    rw [hafter'] at hboth
    refine compile_eq_ok_iff_after.mpr ⟨hcounts, Assembly.onto s t, hboth, ?_⟩
    exact (query_onto (region_of_after hclosed hafter) hk t).symm
  · intro e he
    rcases compile_eq_error_iff_after.mp he with ⟨hne, -⟩ | ⟨-, stats, error, hafter', rfl⟩
    -- the number of arguments is right
    · exact absurd hcount' hne
    · rw [hafter'] at hboth
      have hindex : s.index = args.length := by
        rw [(Assembly.behind_of_after hafter).index_eq, length_kinds_tokenize, hcount]
      -- no fault carries an index of its own, so that the index in the error is that of the
      -- argument
      have hown : ∀ i fault, CompileError.assembly error = .assembly (.argument i fault) →
          fault.ownIndex? = none := by
        intro i fault heq
        rw [heq] at he
        exact (fault_isOwn_of_compile he).ownIndex?
      refine ⟨?_, CompileError.errorClass_shifted _ _ _, CompileError.index?_shifted _ _ hown,
        CompileError.position?_shifted _ _ _⟩
      rw [← hindex]
      exact compile_eq_error_iff_after.mpr (.inr ⟨hcounts, _, _, hboth, rfl⟩)

/-- Behind a template whose last argument is an empty list: a query with spaces in front, a brace
out of place, and an argument that is refused. -/
theorem compile_append_blanks_empty_list :
    ∃ k, 1 ≤ k ∧
      compile ⟨.default, backslashEscaper⟩
          ("a = ? ?a".toList ++ ['\t', '\n'] ++ "\x7bb ?d".toList)
          ([.null, .list []] ++ [.int 5]) =
        .ok ("a = NULL".toList ++ Text.filled k ' ' ++ "b 5".toList) ∧
      compile ⟨.default, backslashEscaper⟩
          ("a = ? ?a".toList ++ ['\t', '\n'] ++ "c ?d \x7d".toList)
          ([.null, .list []] ++ [.int 5]) = .error (.assembly (.unmatchedClose 15)) ∧
      compile ⟨.default, backslashEscaper⟩
          ("a = ? ?a".toList ++ ['\t', '\n'] ++ "?#".toList)
          ([.null, .list []] ++ [.text []]) =
        .error (.assembly (.argument 2 .emptyIdentifier)) := by
  have hfirst : compile ⟨.default, backslashEscaper⟩ "a = ? ?a".toList [.null, .list []] =
      .ok "a = NULL".toList := by
    decide +kernel
  have hclosed : Text.endsInBlock "a = ? ?a".toList = false := by decide +kernel
  have hsolid : ∃ c ∈ "a = ? ?a".toList, isBlank c = false := ⟨'a', by decide +kernel, by decide⟩
  obtain ⟨k, hk, hboth⟩ := (compile_append_blanks .default _).2 _ _ hfirst hclosed
  have hw : ['\t', '\n'] ≠ [] := by decide
  have hblank : ∀ c ∈ ['\t', '\n'], isBlank c = true :=
    List.forall_mem_cons.mpr ⟨by decide, List.forall_mem_singleton.mpr (by decide)⟩
  refine ⟨k, hk hsolid, ?_, ?_, ?_⟩
  · have hcount : countPlaceholders "\x7bb ?d".toList = [Value.int 5].length := by decide +kernel
    have hsecond : compile ⟨.default, backslashEscaper⟩ "\x7bb ?d".toList [.int 5] =
        .ok "b 5".toList := by
      decide +kernel
    exact (hboth _ _ _ hw hblank hcount).1 _ hsecond
  · have hcount : countPlaceholders "c ?d \x7d".toList = [Value.int 5].length := by decide +kernel
    have hsecond : compile ⟨.default, backslashEscaper⟩ "c ?d \x7d".toList [.int 5] =
        .error (.assembly (.unmatchedClose 5)) := by
      decide +kernel
    have hplace : "a = ? ?a".toList.length + ['\t', '\n'].length = 10 := by decide +kernel
    have herror := ((hboth _ _ _ hw hblank hcount).2 _ hsecond).1
    rw [hplace] at herror
    exact herror
  · have hcount : countPlaceholders "?#".toList = [Value.text []].length := by decide +kernel
    have hsecond : compile ⟨.default, backslashEscaper⟩ "?#".toList [.text []] =
        .error (.assembly (.argument 0 .emptyIdentifier)) := by
      decide +kernel
    exact ((hboth _ _ _ hw hblank hcount).2 _ hsecond).1

end QueryTemplate
