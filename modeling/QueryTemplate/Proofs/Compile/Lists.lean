import QueryTemplate.Proofs.Assembly.Reading
import QueryTemplate.Proofs.Compile.FirstOffence
import QueryTemplate.Proofs.Render.Names
import QueryTemplate.Proofs.Value
import QueryTemplate.Render

/-!
# Tuples and mappings in the place of lists

A tuple or a mapping that is a list may be replaced by that list. What is rendered stays the same,
and so does what is assembled and compiled.
-/

namespace QueryTemplate

/-!
## What is rendered for tuples and mappings

Every placeholder looks at the shape of its argument and of the values one level inside, and at
nothing else of them. A list in the place of a tuple or of a mapping that is a list is therefore
rendered alike, or refused alike. A mapping with other keys is never rendered as a list: an array
placeholder renders it pair by pair, and every other placeholder refuses it for its type.
-/

/-- No placeholder tells the two arguments apart, neither by the text nor by the fault. -/
structure Value.RendersAlike (r : Renderer) (v w : Value) : Prop where
  isSkip_eq : w.isSkip = v.isSkip
  render_eq : ∀ k, r.render k w = r.render k v

/-- Related items of which a computation makes the same are the same to it altogether. -/
theorem mapM_congr_of_forall₂ {ε α β : Type} {R : α → α → Prop} {f : α → Except ε β}
    (hf : ∀ x y, R x y → f y = f x) {xs ys : List α} (h : List.Forall₂ R xs ys) :
    ys.mapM f = xs.mapM f := by
  induction h with
  | nil => rfl
  | @cons x y xs ys hxy _ ih => rw [List.mapM_cons, List.mapM_cons, hf x y hxy, ih]

namespace Renderer

variable {r : Renderer} {v w : Value}

/-! ### Lists in the place of other values -/

theorem scalar_congr (h : w.shape = v.shape) : r.scalar w = r.scalar v := by
  rw [scalar, scalar, h]

theorem listedIdentifier_congr (h : w.shape = v.shape) :
    r.listedIdentifier w = r.listedIdentifier v := by
  rw [listedIdentifier, listedIdentifier, h]

theorem render_congr (h : w.shape = v.shape) (k : Placeholder) : r.render k w = r.render k v := by
  cases k <;> simp only [render, scalar, integer, float, identifier, array, h]

/-- A pair has nothing of its value but the shape. -/
theorem pair_congr {e f : Value × Value} (h : Value.ListedEntry e f) : r.pair f = r.pair e := by
  obtain ⟨hkey, hvalue⟩ := h
  rw [pair, pair, ← hkey, scalar_congr hvalue.shape_eq]

/-- An argument that is relisted is rendered as before, or refused as before. -/
theorem render_of_relisted (h : v.shape.Relisted w.shape) (k : Placeholder) :
    r.render k w = r.render k v := by
  generalize hv : v.shape = s at h
  generalize hw : w.shape = s' at h
  cases h with
  | same => exact render_congr (hw.trans hv.symm) k
  | @items xs ys hitems =>
    -- what is rendered for an item depends on its shape, which stays the same one level inside
    have hscalars : ys.mapM r.scalar = xs.mapM r.scalar :=
      mapM_congr_of_forall₂ (fun _ _ hlisted => scalar_congr hlisted.shape_eq) hitems
    have hnames : ys.mapM r.listedIdentifier = xs.mapM r.listedIdentifier :=
      mapM_congr_of_forall₂ (fun _ _ hlisted => listedIdentifier_congr hlisted.shape_eq) hitems
    cases k with
    | generic => simp only [render, scalar, hv, hw, Shape.describe, Shape.kind]
    | integer => simp only [render, integer, hv, hw, Shape.describe, Shape.kind]
    | float => simp only [render, float, hv, hw, Shape.describe, Shape.kind]
    | identifier => simp only [render, identifier, hv, hw, hnames]
    | array => simp only [render, array, hv, hw, hscalars]
  | @entries es fs hentries =>
    have hpairs : fs.mapM r.pair = es.mapM r.pair :=
      mapM_congr_of_forall₂ (fun _ _ hentry => pair_congr hentry) hentries
    cases k with
    | generic => simp only [render, scalar, hv, hw, Shape.describe, Shape.kind]
    | integer => simp only [render, integer, hv, hw, Shape.describe, Shape.kind]
    | float => simp only [render, float, hv, hw, Shape.describe, Shape.kind]
    | identifier => simp only [render, identifier, hv, hw, Shape.describe, Shape.kind]
    | array => simp only [render, array, hv, hw, hpairs]

/-- No placeholder tells an argument from what it is relisted as. -/
theorem rendersAlike_of_relisted (r : Renderer) (h : v.Relisted w) : v.RendersAlike r w where
  isSkip_eq := by
    rw [Bool.eq_iff_iff, Value.isSkip_iff_shape, Value.isSkip_iff_shape]
    exact h.shape.skip_iff
  render_eq := render_of_relisted h.shape

/-! ### Mappings of pairs -/

/-- The text of an entry: its key as a quoted name, and behind the sign of equality its value as a
scalar. -/
def IsPairText (r : Renderer) (entry : Value × Value) (t : Text) : Prop :=
  ∃ name value, entry.1.keyText? = some name ∧ r.scalar entry.2 = .ok value ∧
    t = quotedName name ++ " = ".toList ++ value

/-- Whether or not names are checked, a name that is accepted is put between backticks. -/
theorem eq_quotedName_of_quoteIdentifier {name t : Text} (h : r.quoteIdentifier name = .ok t) :
    t = quotedName name := by
  unfold quoteIdentifier quoteName at h
  split_ifs at h
  exact (Except.ok.inj h).symm

theorem isPairText_of_pair {entry : Value × Value} {t : Text} (h : r.pair entry = .ok t) :
    r.IsPairText entry t := by
  obtain ⟨name, hname, h⟩ := exists_of_bind_eq_ok h
  obtain ⟨column, hcolumn, h⟩ := exists_of_bind_eq_ok h
  obtain ⟨value, hvalue, h⟩ := exists_of_bind_eq_ok h
  refine ⟨name, value, ?_, hvalue, ?_⟩
  · unfold keyName at hname
    split at hname
    · rename_i found hfound
      rw [hfound, Except.ok.inj hname]
    · cases hname
  · rw [← Except.ok.inj h, eq_quotedName_of_quoteIdentifier hcolumn]
    rfl

/-- Where a mapping of pairs is rendered, its text is that of its entries in their order. -/
theorem forall₂_isPairText_of_array {es : List (Value × Value)} {t : Text}
    (hshape : v.shape = .entries es) (h : r.array v = .ok t) :
    ∃ ts, List.Forall₂ r.IsPairText es ts ∧ t = Text.joined ", ".toList ts := by
  rw [array, hshape] at h
  obtain ⟨ts, hts, ht⟩ := exists_of_bind_eq_ok h
  exact ⟨ts, (mapM_eq_ok_iff.mp hts).imp fun _ _ => isPairText_of_pair, (Except.ok.inj ht).symm⟩

/-- No other placeholder takes a mapping of pairs. -/
theorem render_of_entries {es : List (Value × Value)} (hshape : v.shape = .entries es)
    {k : Placeholder} (hk : k ≠ .array) :
    r.render k v = .error (.notAllowed (Kind.text .assoc) k) := by
  cases k with
  | generic => rw [render, scalar, hshape]; rfl
  | integer => rw [render, integer, hshape]; rfl
  | float => rw [render, float, hshape]; rfl
  | identifier => rw [render, identifier, hshape]; rfl
  | array => exact absurd rfl hk

end Renderer

/-!
## Arguments that are rendered alike

An assembly looks at an argument twice: whether it is the skip marker, and what is rendered for it.
Two lists of arguments that are alike in both, one by one, take it through the same states but for
the arguments still to come, or stop it at the same token with the same error.
-/

section

namespace Assembly

/-- The same assembly but for the arguments to come, which are rendered alike. -/
def SameButArguments (r : Renderer) (s s' : Assembly) : Prop :=
  ∃ args, List.Forall₂ (Value.RendersAlike r) s.remaining args ∧ s' = s.withArguments args

/-- Both go on, as the same assembly but for the arguments to come, or both stop with the same
counts and the same error. -/
inductive SameCourse (r : Renderer) : Except Stopped Assembly → Except Stopped Assembly → Prop
  /-- Both go on. -/
  | goesOn {s s' : Assembly} : SameButArguments r s s' → SameCourse r (.ok s) (.ok s')
  /-- Both stop. -/
  | stops (stopped : Stopped) : SameCourse r (.error stopped) (.error stopped)

variable {r : Renderer} {s s' : Assembly}

theorem SameButArguments.put (h : SameButArguments r s s') (piece : Text) :
    SameButArguments r (s.put piece) (s'.put piece) := by
  obtain ⟨args, hargs, rfl⟩ := h
  exact ⟨args, by rwa [put_remaining], put_withArguments s piece args⟩

theorem SameButArguments.closeBlock (h : SameButArguments r s s') :
    SameButArguments r s.closeBlock s'.closeBlock := by
  obtain ⟨args, hargs, rfl⟩ := h
  exact ⟨args, by rwa [closeBlock_remaining], closeBlock_withArguments s args⟩

/-- A skip marker does the same whatever arguments are to come. -/
theorem skip_sameCourse (h : SameButArguments r s s') :
    (∃ t t', s.skip r = .ok t ∧ s'.skip r = .ok t' ∧ SameButArguments r t t') ∨
      ∃ fault, s.skip r = .error fault ∧ s'.skip r = .error fault := by
  obtain ⟨args, hargs, rfl⟩ := h
  unfold skip
  rw [withArguments_region]
  cases s.region with
  | inside pieces suppressed => exact .inl ⟨_, _, rfl, rfl, args, hargs, rfl⟩
  | outside =>
    cases r.options.skipOutsideBlock with
    | leaveOut => exact .inl ⟨_, _, rfl, rfl, args, hargs, rfl⟩
    | refuse => exact .inr ⟨_, rfl, rfl⟩

/-- A placeholder does the same with two arguments that are rendered alike. -/
theorem substitute_sameCourse (kind : Option Placeholder) (position : Nat) {v w : Value}
    (hvw : v.RendersAlike r w) {rest rest' args : List Value}
    (hrest : List.Forall₂ (Value.RendersAlike r) rest rest') :
    SameCourse r (s.substitute r kind position v rest)
      ((s.withArguments args).substitute r kind position w rest') := by
  -- the two arguments agree in being the skip marker and in what is rendered for them
  have htaken : SameButArguments r (s.take rest) ((s.withArguments args).take rest') :=
    ⟨rest', hrest, rfl⟩
  unfold substitute
  rw [hvw.isSkip_eq]
  by_cases hskip : v.isSkip = true
  · rw [if_pos hskip, if_pos hskip]
    rcases skip_sameCourse htaken with ⟨t, t', ht, ht', hsame⟩ | ⟨fault, ht, ht'⟩
    · rw [ht, ht']
      exact .goesOn hsame
    · rw [ht, ht']
      exact .stops _
  · rw [if_neg hskip, if_neg hskip]
    cases kind with
    | none => exact .stops _
    | some k =>
      simp only [hvw.render_eq k]
      cases r.render k v with
      | ok piece => exact .goesOn (htaken.put piece)
      | error fault => exact .stops _

/-- A token does the same with arguments that are rendered alike. -/
theorem step_sameCourse (h : SameButArguments r s s') (t : Token) :
    SameCourse r (s.step r t) (s'.step r t) := by
  obtain ⟨args, hargs, rfl⟩ := h
  have hsame : SameButArguments r s (s.withArguments args) := ⟨args, hargs, rfl⟩
  obtain ⟨lexeme, position⟩ := t
  cases lexeme with
  | literal text => exact .goesOn (hsame.put text)
  | blockOpen =>
    simp only [step, withArguments_region]
    cases s.region with
    | outside => exact .goesOn ⟨args, hargs, rfl⟩
    | inside pieces suppressed => exact .stops _
  | blockClose =>
    simp only [step, withArguments_region]
    cases s.region with
    | outside => exact .stops _
    | inside pieces suppressed => exact .goesOn hsame.closeBlock
  | placeholder kind =>
    simp only [step, withArguments_remaining]
    -- either both lists of arguments are used up or neither is
    generalize s.remaining = remaining at hargs
    cases hargs with
    | nil => exact .stops _
    | cons hvw hrest => exact substitute_sameCourse kind position hvw hrest

/-- Tokens do the same with arguments that are rendered alike. -/
theorem foldlM_sameCourse (h : SameButArguments r s s') (tokens : List Token) :
    SameCourse r (tokens.foldlM (step r) s) (tokens.foldlM (step r) s') := by
  induction tokens generalizing s s' with
  | nil => exact .goesOn h
  | cons t rest ih =>
    rw [List.foldlM_cons, List.foldlM_cons]
    have hstep := step_sameCourse h t
    generalize s.step r t = x at hstep
    generalize s'.step r t = y at hstep
    cases hstep with
    | goesOn hnext => exact ih hnext
    | stops stopped => exact .stops stopped

end Assembly

open Assembly

/-- An assembly has the same outcome and the same counts with arguments that are rendered alike. -/
theorem assembleFrom_of_rendersAlike {r : Renderer} {args args' : List Value}
    (h : List.Forall₂ (Value.RendersAlike r) args args') (before : Stats) (tokens : List Token) :
    assembleFrom r before tokens args' = assembleFrom r before tokens args := by
  have hstart : SameButArguments r (resume before args) (resume before args') := ⟨args', h, rfl⟩
  have hcourse := foldlM_sameCourse hstart tokens
  unfold assembleFrom run
  generalize tokens.foldlM (step r) (resume before args) = x at hcourse
  generalize tokens.foldlM (step r) (resume before args') = y at hcourse
  cases hcourse with
  | goesOn hsame =>
    obtain ⟨rest, -, hclosed⟩ := hsame.closeBlock
    show ((closeBlock _).stats, Except.ok (closeBlock _).query) = _
    rw [hclosed]
    rfl
  | stops stopped => rfl

end

/-!
## Tuples and mappings compiled as lists

A compilation does not tell a tuple from the list of its items, nor a mapping from the list of its
values if its keys are the positions of its entries: neither as an argument nor one level inside of
one, and neither by the query and its counts nor by the error. Any other mapping is one of pairs.
-/

/-- Arguments that are rendered alike have the same report, or the same error. -/
theorem compileWithReport_of_rendersAlike {r : Renderer} {args args' : List Value}
    (h : List.Forall₂ (Value.RendersAlike r) args args') (template : Text) :
    compileWithReport r template args' = compileWithReport r template args := by
  unfold compileWithReport assemble
  rw [assembleFrom_of_rendersAlike h, h.length_eq]

/-- Which mappings are lists, and what this means for a compilation. A mapping is a list exactly if
its keys in their order are the positions from zero on. If some arguments that are tuples or such
mappings are replaced by the lists of their items, or some such values one level inside of arguments
are, then every template has the same query with the same counts, or the same error; and so has
every assembly of tokens. A mapping with other keys is never a list: only an array placeholder takes
it, and renders it as one pair for each entry in their order, and every other one refuses it for its
type. -/
theorem compile_of_relisted (r : Renderer) :
    (∀ es, Value.isAssociative es = false ↔ es.map Prod.fst = Value.positions es.length) ∧
    (∀ args args', List.Forall₂ Value.Relisted args args' →
      (∀ template, compileWithReport r template args' = compileWithReport r template args ∧
        compile r template args' = compile r template args) ∧
      ∀ before tokens, assembleFrom r before tokens args' = assembleFrom r before tokens args) ∧
    ∀ v es, v.entries? = some es → es.map Prod.fst ≠ Value.positions es.length →
      v.kind = .assoc ∧
      (∀ k, k ≠ .array → ∃ fault, r.render k v = .error fault ∧ fault.refusal? = some .type) ∧
      ∀ t, r.render .array v = .ok t →
        ∃ ts, List.Forall₂ r.IsPairText es ts ∧ t = Text.joined ", ".toList ts := by
  refine ⟨fun es => Value.isAssociative_eq_false_iff, ?_, ?_⟩
  · intro args args' hargs
    have halike := hargs.imp fun v w => Renderer.rendersAlike_of_relisted r
    refine ⟨fun template => ?_, assembleFrom_of_rendersAlike halike⟩
    have hreport := compileWithReport_of_rendersAlike halike template
    exact ⟨hreport, congrArg (Except.map Report.sql) hreport⟩
  · intro v es hes hkeys
    have hshape := Value.shape_of_keys_ne_positions hes hkeys
    refine ⟨?_, ?_, fun t => Renderer.forall₂_isPairText_of_array hshape⟩
    · rw [Value.kind, hshape]
      rfl
    · intro k hk
      exact ⟨_, Renderer.render_of_entries hshape hk, rfl⟩

/-- A tuple of names, and a mapping that is a list and holds another one, which is refused as a list
is; and a mapping whose keys are equal to positions, but are truth values. -/
theorem compile_of_relisted_nested :
    compile ⟨.default, backslashEscaper⟩ "?# ?a".toList
        [.list [.text "a".toList, .text "b".toList], .list [.bool true, .list [.null]]] =
      .error (.assembly (.argument 1 (.notAllowed (Kind.text .list) .generic))) ∧
    (∃ fault, (Renderer.mk .default backslashEscaper).render .identifier
        (.map [(.bool false, .text "a".toList), (.bool true, .null)]) = .error fault ∧
      fault.refusal? = some .type) ∧
    ∃ ts, (Renderer.mk .default backslashEscaper).render .array
        (.map [(.bool false, .text "a".toList), (.bool true, .null)]) =
          .ok (Text.joined ", ".toList ts) ∧ ts.length = 2 := by
  obtain ⟨-, hlists, hpairs⟩ := compile_of_relisted ⟨.default, backslashEscaper⟩
  let inner : List (Value × Value) := [(.int 0, .null)]
  let outer : List (Value × Value) := [(.int 0, .bool true), (.int 1, .orderedMap inner)]
  let pairs : List (Value × Value) := [(.bool false, .text "a".toList), (.bool true, .null)]
  have hkeys : pairs.map Prod.fst ≠ Value.positions pairs.length := by
    intro h
    cases h
  have hmap : (Value.map pairs).entries? = some pairs := rfl
  refine ⟨?_, (hpairs _ _ hmap hkeys).2.1 .identifier (by decide), ?_⟩
  · have hgiven : compile ⟨.default, backslashEscaper⟩ "?# ?a".toList
        [.tuple [.text "a".toList, .text "b".toList], .map outer] =
        .error (.assembly (.argument 1 (.notAllowed (Kind.text .list) .generic))) := by
      have hcount : countPlaceholders "?# ?a".toList = 2 := by decide +kernel
      have htokens : tokenize "?# ?a".toList =
          [⟨.placeholder (some .identifier), 0⟩, ⟨.literal Token.separator, 2⟩,
            ⟨.placeholder (some .array), 3⟩, ⟨.literal Token.separator, 5⟩] := by
        decide +kernel
      rw [compile_of_match hcount, htokens]
      rfl
    have hnames : Value.Relisted (.tuple [.text "a".toList, .text "b".toList])
        (.list [.text "a".toList, .text "b".toList]) := ⟨_, .same _, .tuple _⟩
    have hinner : Value.ListedAs (.orderedMap inner) (.list (inner.map Prod.snd)) :=
      .mapping rfl rfl
    -- first the inner mapping is replaced by a list, then the outer one
    let outer' : List (Value × Value) := [(.int 0, .bool true), (.int 1, .list [.null])]
    have hwithin : Value.ListedWithin (.map outer) (.map outer') :=
      .map (.cons ⟨rfl, .same _⟩ (.cons ⟨rfl, hinner⟩ .nil))
    have houter : Value.ListedAs (.map outer') (.list (outer'.map Prod.snd)) := .mapping rfl rfl
    have hargs : List.Forall₂ Value.Relisted
        [.tuple [.text "a".toList, .text "b".toList], .map outer]
        [.list [.text "a".toList, .text "b".toList], .list [.bool true, .list [.null]]] :=
      .cons hnames (.cons ⟨_, hwithin, houter⟩ .nil)
    rw [((hlists _ _ hargs).1 _).2]
    exact hgiven
  · have hgiven : (Renderer.mk .default backslashEscaper).render .array (.map pairs) =
        .ok "`False` = 'a', `True` = NULL".toList := by
      decide +kernel
    obtain ⟨ts, hts, ht⟩ := (hpairs _ _ hmap hkeys).2.2 _ hgiven
    exact ⟨ts, by rw [hgiven, ht], hts.length_eq.symm⟩

end QueryTemplate
