import Mathlib.Data.Char
import Mathlib.Data.List.Lex
import Mathlib.Data.List.Perm.Basic
import QueryTemplate.Proofs.Schema.Offence
import QueryTemplate.Settings

/-!
# The order of keys

A mapping that is loaded at a record may have its keys in any order, and so may the mappings that
are given for records in it. The fields are loaded in the order of their declaration, and the keys
that name no field are sorted before they are listed, so neither what is loaded nor the error
depends on the order of the keys.
-/

namespace QueryTemplate

/-! ## Sorted texts -/

/-- A text does not come before another if the other is less, character by character. -/
theorem Text.le_eq_false_iff {s t : Text} : le s t = false ↔ List.Lex (· < ·) t s := by
  fun_induction le s t with
  | case1 t => simp
  | case2 c s => simp
  | case3 s d t ih => rw [ih, List.lex_cons_iff]
  | case4 c s d t hne =>
    have hnumbers : c.toNat ≠ d.toNat := fun heq => hne (Char.toNat_inj.mp heq)
    have hless : d < c ↔ d.toNat < c.toNat := Iff.rfl
    simp only [decide_eq_false_iff_not, List.cons_lex_cons_iff, Ne.symm hne, false_and, or_false,
      hless]
    omega

/-- So the order of texts is the linear order of the lists of their characters. -/
theorem Text.le_eq_true_iff {s t : Text} : le s t = true ↔ s ≤ t := by
  rw [← not_lt, ← Bool.not_eq_false, le_eq_false_iff]
  exact Iff.rfl

/-- Texts that are sorted do not depend on the order in which they were. -/
theorem mergeSort_eq_of_perm {xs ys : List Text} (h : xs.Perm ys) :
    xs.mergeSort Text.le = ys.mergeSort Text.le := by
  have hsorted (zs : List Text) :
      (zs.mergeSort Text.le).Pairwise fun s t => Text.le s t = true := by
    refine List.pairwise_mergeSort ?_ ?_ zs <;> simp only [Bool.or_eq_true, Text.le_eq_true_iff]
    · exact fun _ _ _ => le_trans
    · exact le_total
  refine List.Perm.eq_of_pairwise ?_ (hsorted xs) (hsorted ys) ?_
  · intro s t _ _ hst hts
    exact le_antisymm (Text.le_eq_true_iff.mp hst) (Text.le_eq_true_iff.mp hts)
  · exact (List.mergeSort_perm xs _).trans (h.trans (List.mergeSort_perm ys _).symm)

/-! ## Entries in another order -/

/-- Steps in another order give the same results in another order, or none. -/
theorem map_mergeSort_mapM_eq_of_perm {α : Type} {f : α → Option Text} {xs ys : List α}
    (h : xs.Perm ys) :
    (xs.mapM f).map (fun ts => ts.mergeSort Text.le) =
      (ys.mapM f).map (fun ts => ts.mergeSort Text.le) := by
  cases hx : xs.mapM f with
  | none =>
    obtain ⟨x, hx, hnone⟩ := mapM_eq_none_iff.mp hx
    rw [mapM_eq_none_iff.mpr ⟨x, h.mem_iff.mp hx, hnone⟩]
  | some ss =>
    cases hy : ys.mapM f with
    | none =>
      obtain ⟨y, hy, hnone⟩ := mapM_eq_none_iff.mp hy
      rw [mapM_eq_none_iff.mpr ⟨y, h.mem_iff.mpr hy, hnone⟩] at hx
      cases hx
    | some ts =>
      have hperm : (ss.map some).Perm (ts.map some) := by
        rw [← mapM_eq_some_iff.mp hx, ← mapM_eq_some_iff.mp hy]
        exact h.map f
      have hsorted := (List.map_perm_map_iff (Option.some_injective Text)).mp hperm
      rw [Option.map_some, Option.map_some, mergeSort_eq_of_perm hsorted]

/-- The keys that name no field are listed in the same order. -/
theorem unknownKeys_eq_of_perm (names : List Text) {es fs : List (Value × Value)}
    (h : (es.map Prod.fst).Perm (fs.map Prod.fst)) : unknownKeys names fs = unknownKeys names es :=
  map_mergeSort_mapM_eq_of_perm (h.symm.filter _)

/-- Whether a field is given depends on the keys alone, in any order. -/
theorem entryNamed?_eq_none_iff_of_perm (name : Text) {es fs : List (Value × Value)}
    (h : (es.map Prod.fst).Perm (fs.map Prod.fst)) :
    entryNamed? name fs = none ↔ entryNamed? name es = none := by
  have hkeys (entries : List (Value × Value)) : entryNamed? name entries = none ↔
      ∀ key ∈ entries.map Prod.fst, key.asText? ≠ some name := by
    rw [entryNamed?_eq_none_iff, List.forall_mem_map]
  rw [hkeys, hkeys]
  simp only [h.mem_iff]

/-- No two keys of a mapping have the same name. -/
def DistinctNames (entries : List (Value × Value)) : Prop :=
  (entries.filterMap fun e => e.1.asText?).Nodup

theorem entryNamed?_cons (name : Text) (e : Value × Value) (rest : List (Value × Value)) :
    entryNamed? name (e :: rest) =
      if e.1.asText? = some name then some e.2 else entryNamed? name rest := by
  rw [entryNamed?, List.find?_cons]
  by_cases he : e.1.asText? = some name
  · rw [decide_eq_true he, if_pos he]
    rfl
  · rw [decide_eq_false he, if_neg he]
    rfl

theorem DistinctNames.perm {es fs : List (Value × Value)} (hdistinct : DistinctNames es)
    (h : es.Perm fs) : DistinctNames fs := (h.filterMap _).nodup hdistinct

/-- A name leads to the same value if the entries of a mapping stand in another order. -/
theorem entryNamed?_eq_of_perm (name : Text) {es fs : List (Value × Value)} (h : es.Perm fs)
    (hdistinct : DistinctNames es) : entryNamed? name fs = entryNamed? name es := by
  induction h with
  | nil => rfl
  | @cons e es fs _ ih =>
    have htail : DistinctNames es := ((List.sublist_cons_self e es).filterMap _).nodup hdistinct
    rw [entryNamed?_cons, entryNamed?_cons, ih htail]
  | swap e e' rest =>
    simp only [entryNamed?_cons]
    -- of two entries that change places, one at most has the name
    by_cases he : e.1.asText? = some name
    · have he' : e'.1.asText? ≠ some name := by
        intro he'
        simp [DistinctNames, he, he'] at hdistinct
      rw [if_pos he, if_neg he', if_pos he]
    · rw [if_neg he, if_neg he]
  | trans h _ ih ih' => rw [ih' (hdistinct.perm h), ih hdistinct]

namespace Schema

/-- Two values that differ in the order of the keys of mappings at most: of a mapping that is loaded
at a record, and of those that are given for records in it. What is given for any other field is the
same. -/
inductive Reordered : Schema → Value → Value → Prop
  /-- The same value. -/
  | same (s : Schema) (v : Value) : Reordered s v v
  /-- Mappings with the same keys in any order, and under the name of each field with values that
  differ in the order of keys at most. -/
  | mapping {name : Text} {fields : List (Field Schema)} {undefined? : Option Text} {v w : Value}
      {es fs : List (Value × Value)} : v.entries? = some es → w.entries? = some fs →
      (es.map Prod.fst).Perm (fs.map Prod.fst) →
      (∀ f ∈ fields, ∀ x y, entryNamed? f.name es = some x → entryNamed? f.name fs = some y →
        Reordered f.schema x y) →
      Reordered (.record name fields undefined?) v w

variable {s : Schema} {v w : Value} {es fs : List (Value × Value)}

/-- The same entries in another order. -/
theorem Reordered.of_perm (name : Text) (fields : List (Field Schema)) (undefined? : Option Text)
    (hv : v.entries? = some es) (hw : w.entries? = some fs) (h : es.Perm fs)
    (hdistinct : DistinctNames es) : Reordered (.record name fields undefined?) v w := by
  refine .mapping hv hw (h.map _) fun f _ x y hx hy => ?_
  rw [entryNamed?_eq_of_perm f.name h hdistinct, hx] at hy
  rw [← Option.some.inj hy]
  exact .same f.schema x

/-- Fields that are loaded alike one by one are loaded alike. -/
theorem loadFields_congr {path : Text} {fields : List (Field Schema)}
    (h : ∀ f ∈ fields, loadField path fs f = loadField path es f) :
    loadFields path fs fields = loadFields path es fields := by
  induction fields with
  | nil => rfl
  | cons f rest ih =>
    rw [loadFields_cons, loadFields_cons, h f List.mem_cons_self,
      ih fun g hg => h g (List.mem_cons_of_mem f hg)]

/-- The keys of a mapping are refused alike in any order. -/
theorem checkKeys_eq_of_perm (path : Text) (names : List Text)
    (h : (es.map Prod.fst).Perm (fs.map Prod.fst)) :
    checkKeys path names fs = checkKeys path names es := by
  rw [checkKeys, checkKeys, unknownKeys_eq_of_perm names h]

/-- So are the fields that are given and are no parameters. -/
theorem checkParameters_eq_of_perm (name : Text) (fields : List (Field Schema))
    (h : (es.map Prod.fst).Perm (fs.map Prod.fst)) :
    checkParameters name fields fs = checkParameters name fields es := by
  have hgiven (f : Field Schema) :
      (entryNamed? f.name fs).isSome = (entryNamed? f.name es).isSome := by
    rw [Bool.eq_iff_iff, Option.isSome_iff_ne_none, Option.isSome_iff_ne_none, Ne, Ne,
      entryNamed?_eq_none_iff_of_perm f.name h]
  simp only [checkParameters, hgiven]

/-- A field is loaded alike if it is left out of both mappings, or its values are loaded alike. -/
theorem loadField_congr {path : Text} {f : Field Schema}
    (hgiven : entryNamed? f.name fs = none ↔ entryNamed? f.name es = none)
    (hvalue : ∀ x y, entryNamed? f.name es = some x → entryNamed? f.name fs = some y →
      f.schema.load (fieldPath path f.name) y = f.schema.load (fieldPath path f.name) x) :
    loadField path fs f = loadField path es f := by
  unfold loadField
  cases hx : entryNamed? f.name es with
  | none => rw [hgiven.mpr hx]
  | some x =>
    cases hy : entryNamed? f.name fs with
    | none =>
      rw [hgiven.mp hy] at hx
      cases hx
    | some y => exact hvalue x y hx hy

/-- Values that differ in the order of keys are loaded alike. The induction is on the mappings that
differ, from the outermost one into the values of the fields. -/
theorem Reordered.load_eq (h : s.Reordered v w) (path : Text) : s.load path w = s.load path v := by
  induction h generalizing path with
  | same s v => rfl
  | @mapping name fields undefined? v w es fs hv hw hkeys _ ih =>
    have hfields : loadFields path fs fields = loadFields path es fields :=
      loadFields_congr fun f hf =>
        loadField_congr (entryNamed?_eq_none_iff_of_perm f.name hkeys)
          fun x y hx hy => ih f hf x y hx hy (fieldPath path f.name)
    rw [load_record_eq path name fields undefined? hv,
      load_record_eq path name fields undefined? hw, checkKeys_eq_of_perm path _ hkeys, hfields,
      checkParameters_eq_of_perm name fields hkeys]

end Schema

/-- Mappings with the same entries in another order differ in the order of keys, and so do those
that hold such mappings for fields that are records. Values that differ in the order of keys are
loaded alike at every schema: they give the same, or fail with the same error, which says all that
its message does. So do the options that they give. -/
theorem load_of_reordered :
    (∀ name fields undefined? v w es fs, v.entries? = some es → w.entries? = some fs →
      es.Perm fs → DistinctNames es → (Schema.record name fields undefined?).Reordered v w) ∧
    (∀ s v w, Schema.Reordered s v w → ∀ path, s.load path w = s.load path v) ∧
    ∀ v w, Options.schema.Reordered v w → Options.ofValue w = Options.ofValue v := by
  refine ⟨?_, fun s v w h path => h.load_eq path, fun v w h => ?_⟩
  · intro name fields undefined? v w es fs hv hw h hdistinct
    exact .of_perm name fields undefined? hv hw h hdistinct
  · rw [Options.ofValue, Options.ofValue, h.load_eq]

/-- Options within a record, with two keys that name no option, before and behind another field. -/
theorem load_of_reordered_nested :
    let settings : Schema := .record "Settings".toList
      [⟨"options".toList, Options.schema, none, true⟩, ⟨"level".toList, .int, none, true⟩] none
    settings.load Options.rootPath (.map [(.text "level".toList, .int 3),
        (.text "options".toList, .orderedMap [(.int 1, .null), (.text "a".toList, .null)])]) =
      settings.load Options.rootPath (.map [(.text "options".toList,
        .map [(.text "a".toList, .null), (.int 1, .null)]), (.text "level".toList, .int 3)]) := by
  intro settings
  obtain ⟨hperm, hload, -⟩ := load_of_reordered
  refine hload settings _ _ (.mapping rfl rfl ?_ (List.forall_mem_cons.mpr ⟨fun x y hx hy => ?_,
    List.forall_mem_singleton.mpr fun x y hx hy => ?_⟩)) _
  · exact .swap _ _ _
  · rw [← Option.some.inj hx, ← Option.some.inj hy]
    refine hperm _ _ _ _ _ _ _ rfl rfl (.swap _ _ _) ?_
    simp [DistinctNames, Value.asText?]
  · rw [← Option.some.inj hx, ← Option.some.inj hy]
    exact .same _ _

end QueryTemplate
