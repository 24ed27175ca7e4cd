import QueryTemplate.Proofs.Assembly.Segments
import QueryTemplate.Proofs.Compile.FirstOffence
import QueryTemplate.Proofs.Render.Characters
import QueryTemplate.Proofs.Template.Words

/-!
# The end of a query

A query is put together from pieces, and the blanks at its end are cut off. What is cut off are
whole pieces.
-/

namespace QueryTemplate

/-!
## What is emitted and what is cut off

The pieces that an assembly emits are the texts of literals and of rendered arguments, outside of
every block and in the blocks that are not dropped. A literal of a template is a separator or holds
no blank, and no rendered argument ends in a blank. So the blanks that are cut off at the end of the
query are separators, each of them as a whole.
-/

section

namespace Segment

/-- The literals and arguments of a segment. -/
def items : Segment → List Item
  | outside items => items
  | block items => items

/-- Those of which the texts are emitted: of a block in which a placeholder has got the skip marker,
none. -/
def emitted : Segment → List Item
  | outside items => items
  | block items => if items.any Item.isSkip then [] else items

theorem emitted_subset (here : Segment) : here.emitted ⊆ here.items := by
  cases here with
  | outside items => exact List.Subset.refl _
  | block items =>
    by_cases h : items.any Item.isSkip = true
    · rw [emitted, if_pos h]
      exact List.nil_subset _
    · rw [emitted, if_neg h]
      exact List.Subset.refl _

theorem items_push (here : Segment) (item : Item) :
    (here.push item).items = here.items ++ [item] := by
  cases here <;> rfl

theorem text_eq_flatMap_emitted (r : Renderer) (here : Segment) :
    here.text r = here.emitted.flatMap (Item.text r) := by
  cases here with
  | outside items => rfl
  | block items =>
    by_cases h : items.any Item.isSkip = true
    · rw [text, emitted, if_pos h, if_pos h]
      rfl
    · rw [text, emitted, if_neg h, if_neg h]

/-- What is emitted of the segments of items is what the first segment has, or one of the items. -/
theorem mem_of_mem_emitted_cut {item : Item} {here : Segment} {xs : List Item}
    (h : item ∈ (here.cut xs).flatMap emitted) : item ∈ here.items ∨ item ∈ xs := by
  fun_induction cut here xs with
  | case1 here =>
    rw [List.flatMap_singleton] at h
    exact .inl (here.emitted_subset h)
  | case2 here rest ih | case3 here rest ih =>
    -- a brace ends the segment, and the next one begins with nothing
    rw [List.flatMap_cons, List.mem_append] at h
    rcases h with h | h
    · exact .inl (here.emitted_subset h)
    · rcases ih h with hnone | hrest
      · cases hnone
      · exact .inr (List.mem_cons_of_mem _ hrest)
  | case4 here first rest _ _ ih =>
    rcases ih h with hhere | hrest
    · rw [items_push, List.mem_append, List.mem_singleton] at hhere
      rcases hhere with hhere | rfl
      · exact .inl hhere
      · exact .inr List.mem_cons_self
    · exact .inr (List.mem_cons_of_mem first hrest)

end Segment

namespace Item

/-- Whether an item is the literal behind a chunk. -/
def isSeparator : Item → Bool
  | literal text => text = Token.separator
  | _ => false

theorem text_of_isSeparator (r : Renderer) {item : Item} (h : item.isSeparator = true) :
    item.text r = [' '] := by
  cases item with
  | literal text => exact of_decide_eq_true h
  | _ => cases h

end Item

/-- The literals and the arguments of which the texts are emitted, in their order. -/
def emittedItems (args : List Value) (tokens : List Token) : List Item :=
  (segments args tokens).flatMap Segment.emitted

/-- The texts of all segments are those of the items that are emitted. -/
theorem segmentText_eq_flatMap_emittedItems (r : Renderer) (args : List Value)
    (tokens : List Token) :
    segmentText r args tokens = (emittedItems args tokens).flatMap (Item.text r) := by
  rw [segmentText, emittedItems, List.flatMap_assoc]
  exact List.flatMap_congr fun here _ => here.text_eq_flatMap_emitted r

/-- A literal among the items is one of the tokens. -/
theorem exists_mem_of_literal_mem_itemsFrom {args : List Value} {i : Nat} {tokens : List Token}
    {text : Text} (h : .literal text ∈ itemsFrom args i tokens) :
    ∃ position, ⟨.literal text, position⟩ ∈ tokens := by
  induction tokens generalizing i with
  | nil => cases h
  | cons t rest ih =>
    obtain ⟨lexeme, position⟩ := t
    cases lexeme with
    | literal text' =>
      rcases List.mem_cons.mp h with heq | h
      · rw [Item.literal.inj heq]
        exact ⟨position, List.mem_cons_self⟩
      · exact (ih h).imp fun _ => List.mem_cons_of_mem _
    | placeholder kind | blockOpen | blockClose =>
      rcases List.mem_cons.mp h with heq | h
      · cases heq
      · exact (ih h).imp fun _ => List.mem_cons_of_mem _

variable (r : Renderer) (args : List Value) (template : Text)

/-- The text of an argument is empty or does not end in a blank. -/
theorem Item.eq_nil_or_endsSolid_of_argument (kind : Option Placeholder) (value : Option Value) :
    (argument kind value).text r = [] ∨ ((argument kind value).text r).EndsSolid := by
  unfold Item.text
  split
  · rename_i heq
    cases heq
  · rename_i k v heq
    split
    · exact .inl rfl
    · cases hrender : r.render k v with
      | error fault => exact .inl rfl
      | ok text => exact Renderer.eq_nil_or_endsSolid_of_render hrender
  · exact .inl rfl

/-- Of a template, what is emitted is a separator, or has no text, or ends in another character than
a blank. -/
theorem ending_of_mem_emittedItems {item : Item}
    (h : item ∈ emittedItems args (tokenize template)) :
    item.text r = [] ∨ (item.text r).EndsSolid ∨ item.isSeparator = true := by
  have hitem : item ∈ itemsFrom args 0 (tokenize template) := by
    rcases Segment.mem_of_mem_emitted_cut h with hnone | hitem
    · cases hnone
    · exact hitem
  cases item with
  | literal text =>
    obtain ⟨position, hmem⟩ := exists_mem_of_literal_mem_itemsFrom hitem
    rcases solid_of_mem_tokenize hmem with rfl | hsolid
    · exact .inr (.inr rfl)
    · exact (Text.eq_nil_or_endsSolid hsolid).imp_right .inl
  | argument kind value => exact (Item.eq_nil_or_endsSolid_of_argument r kind value).imp_right .inl
  | blockOpen | blockClose => exact .inl rfl

/-- The blanks at the end of what is emitted are separators. -/
theorem exists_trimEnd_segmentText_eq :
    ∃ kept cut, emittedItems args (tokenize template) = kept ++ cut ∧
      (segmentText r args (tokenize template)).trimEnd = kept.flatMap (Item.text r) ∧
      segmentText r args (tokenize template) =
        kept.flatMap (Item.text r) ++ Text.filled (cut.countP Item.isSeparator) ' ' ∧
      ∀ item ∈ cut, item.text r = [] ∨ item.isSeparator = true := by
  rw [segmentText_eq_flatMap_emittedItems]
  exact Text.exists_trimEnd_flatMap_eq (fun _ => Item.text_of_isSeparator r)
    fun _ => ending_of_mem_emittedItems r args template

end

/-!
## What is cut off at the end of a query

At the end of a compiled query blanks are cut off, without regard to where they come from. They all
come from separators: literals hold no blanks, and of the arguments none is rendered into a text
that ends in a blank, as what ends in one is quoted.
-/

section

variable {r : Renderer} {template : Text} {args : List Value} {sql : Text}

/-- A query is what the assembly of its template has emitted, with the blanks at the end cut off. -/
theorem exists_run_of_compile (h : compile r template args = .ok sql) :
    ∃ s, Assembly.run r .zero (tokenize template) args = .ok s ∧ sql = s.text.trimEnd ∧
      s.text = segmentText r args (tokenize template) := by
  obtain ⟨-, s, hafter, rfl⟩ := compile_eq_ok_iff_after.mp h
  refine ⟨s.closeBlock, ?_, rfl, Assembly.text_of_after hafter⟩
  rw [Assembly.run, Assembly.resume_zero]
  exact congrArg (Except.map Assembly.closeBlock) hafter

/-- A compiled query does not end in a blank. Of the literals and the arguments that are emitted for
it, the first ones are the query as they are, and the others were cut off: separators, each of which
is a space, and items without a text. So what was emitted is the query and as many spaces as there
are separators among the others. -/
theorem compile_cuts_separators (h : compile r template args = .ok sql) :
    (∀ before c, sql = before ++ [c] → isBlank c = false) ∧
    ∃ s kept cut, Assembly.run r .zero (tokenize template) args = .ok s ∧
      emittedItems args (tokenize template) = kept ++ cut ∧
      s.text = (kept ++ cut).flatMap (Item.text r) ∧
      sql = kept.flatMap (Item.text r) ∧
      s.text = sql ++ Text.filled (cut.countP Item.isSeparator) ' ' ∧
      ∀ item ∈ cut, item.text r = [] ∨ item.isSeparator = true := by
  obtain ⟨s, hrun, rfl, htext⟩ := exists_run_of_compile h
  obtain ⟨kept, cut, hitems, htrim, hflat, hcut⟩ := exists_trimEnd_segmentText_eq r args template
  have hall : s.text = (kept ++ cut).flatMap (Item.text r) := by
    rw [htext, segmentText_eq_flatMap_emittedItems, hitems]
  rw [← htext] at htrim hflat
  refine ⟨fun before c heq => ?_, s, kept, cut, hrun, hitems, hall, htrim, ?_, hcut⟩
  · by_contra hblank
    exact Text.dropEndWhile_ne_concat (eq_true_of_ne_false hblank) _ _ heq
  · rw [htrim]
    exact hflat

/-- An identifier that ends in a blank, and behind it a dropped block, an empty list in a block that
is left open, and three separators. -/
theorem compile_cuts_separators_identifier :
    ∃ s kept cut, Assembly.run ⟨⟨.loose, .refuse, false⟩, backslashEscaper⟩ .zero
        (tokenize "?# \x7b?d\x7d \x7b?a".toList) [.text "n\t".toList, .skip, .list []] = .ok s ∧
      emittedItems [.text "n\t".toList, .skip, .list []]
        (tokenize "?# \x7b?d\x7d \x7b?a".toList) = kept ++ cut ∧
      "`n\t`".toList =
        kept.flatMap (Item.text ⟨⟨.loose, .refuse, false⟩, backslashEscaper⟩) ∧
      s.text = "`n\t`".toList ++ Text.filled (cut.countP Item.isSeparator) ' ' ∧
      cut.countP Item.isSeparator = 3 := by
  have hcount : countPlaceholders "?# \x7b?d\x7d \x7b?a".toList = 3 := by decide +kernel
  have htokens : tokenize "?# \x7b?d\x7d \x7b?a".toList =
      [⟨.placeholder (some .identifier), 0⟩, ⟨.literal Token.separator, 2⟩, ⟨.blockOpen, 3⟩,
        ⟨.placeholder (some .integer), 4⟩, ⟨.blockClose, 6⟩, ⟨.literal Token.separator, 7⟩,
        ⟨.blockOpen, 8⟩, ⟨.placeholder (some .array), 9⟩, ⟨.literal Token.separator, 11⟩] := by
    decide +kernel
  have hquery : compile ⟨⟨.loose, .refuse, false⟩, backslashEscaper⟩
      "?# \x7b?d\x7d \x7b?a".toList [.text "n\t".toList, .skip, .list []] =
      .ok "`n\t`".toList := by
    rw [compile_of_match hcount, htokens]
    rfl
  have hemitted : (emittedItems [.text "n\t".toList, .skip, .list []]
      (tokenize "?# \x7b?d\x7d \x7b?a".toList)).flatMap
        (Item.text ⟨⟨.loose, .refuse, false⟩, backslashEscaper⟩) =
      "`n\t`".toList ++ Text.filled 3 ' ' := by
    rw [htokens]
    rfl
  obtain ⟨-, s, kept, cut, hrun, hitems, hall, hkept, htext, -⟩ := compile_cuts_separators hquery
  refine ⟨s, kept, cut, hrun, hitems, hkept, htext, ?_⟩
  -- what was cut off is what is left of the emitted text behind the query
  rw [← hitems, hemitted, htext] at hall
  exact (List.replicate_inj.mp (List.append_cancel_left hall)).1

end

end QueryTemplate
