import QueryTemplate.Json
import QueryTemplate.Proofs.Value

/-!
# JSON data and the skip marker

Where the marker stands in the value of JSON data can be told from the data alone, although a value
is made from inside out.
-/

namespace QueryTemplate.Json

/-!
## The skip marker in JSON data

JSON data becomes a value from inside out: when the values of its members are there, an object is
finished to a mapping, and a mapping that equals that of the object `$skip: true` is replaced by the
skip marker at once. An object around a replaced one sees the marker in its place. This has the same
result as looking at the data alone: a marker is equal to no truth value, so no object is replaced
for what was replaced inside of it. But the number one is equal to the truth value true, and so an
object of `$skip` with it is replaced too.
-/

/-! ### From inside out -/

mutual

/-- JSON data as a value, from inside out: `finish` makes a value of the entries of an object when
these are values themselves. -/
def decode (finish : List (Value × Value) → Value) : Json → Value
  | null => .null
  | bool b => .bool b
  | int i => .int i
  | float x => .float x
  | text t => .text t
  | array items => .list (decodeAll finish items)
  | object members => finish (decodeMembers finish members)

/-- The items of an array as values. -/
def decodeAll (finish : List (Value × Value) → Value) : List Json → List Value
  | [] => []
  | j :: rest => decode finish j :: decodeAll finish rest

/-- The members of an object as entries of a mapping. -/
def decodeMembers (finish : List (Value × Value) → Value) :
    List (Text × Json) → List (Value × Value)
  | [] => []
  | (name, j) :: rest => (.text name, decode finish j) :: decodeMembers finish rest

end

/-- JSON data as a value without any marker: every object is a mapping. -/
def plain (j : Json) : Value := j.decode .map

/-- The mapping of the object that stands for the skip marker. -/
def skipMapping : List (Value × Value) := [(.text skipName, .bool true)]

/-- Whether a mapping equals another one, of which the values are scalars: it has as many entries,
and each of them equals an entry of the other. -/
def sameEntries (es fs : List (Value × Value)) : Bool :=
  es.length = fs.length && es.all fun e => fs.any fun f => e.1.equals f.1 && e.2.equals f.2

/-- A mapping, or the skip marker in the place of the one that stands for it. -/
def finishObject (entries : List (Value × Value)) : Value :=
  if sameEntries entries skipMapping then .skip else .map entries

/-! ### Objects that stand for the marker -/

/-- An object whose only member is `$skip` with the word `true` or with the number one, written with
or without a point. -/
def IsSkipObject (j : Json) : Prop :=
  ∃ value, j = .object [(skipName, value)] ∧
    (value = .bool true ∨ value = .int 1 ∨ value = .float Binary64.one)

theorem isTrue_iff (j : Json) :
    j.isTrue = true ↔ j = .bool true ∨ j = .int 1 ∨ j = .float Binary64.one := by
  cases j with
  | float x =>
    have hone : x.bits = 0x3FF0000000000000 ↔ x = Binary64.one := by
      cases x
      exact (Binary64.mk.injEq _ _).symm ▸ Iff.rfl
    simp [isTrue, hone]
  | _ => simp [isTrue]

theorem isSkipMarker_iff (members : List (Text × Json)) :
    isSkipMarker members = true ↔ IsSkipObject (.object members) := by
  unfold isSkipMarker
  split
  · rw [Bool.and_eq_true, decide_eq_true_eq, isTrue_iff]
    simp [IsSkipObject]
  · rename_i hother
    constructor
    · intro h
      cases h
    · rintro ⟨value, hmembers, -⟩
      cases hmembers
      exact absurd rfl (hother skipName value)

/-! ### The two ways -/

/-- A value that data becomes is equal to the truth value true if the data counts as true. -/
theorem equals_toValue_true (j : Json) : (toValue j).equals (.bool true) = j.isTrue := by
  rw [Bool.eq_iff_iff, Value.equals_true_iff, isTrue_iff]
  cases j with
  | object members =>
    rw [toValue]
    split <;> simp
  | _ => simp [toValue]

/-- The comparison of mappings finds the objects that stand for the marker, whatever was replaced
inside of them. -/
theorem sameEntries_toEntries (members : List (Text × Json)) :
    sameEntries (toEntries members) skipMapping = isSkipMarker members := by
  match members with
  | [] => rfl
  | [(name, value)] =>
    have hname : (Value.text name).equals (.text skipName) = decide (name = skipName) := rfl
    simp [sameEntries, toEntries, skipMapping, isSkipMarker, hname, equals_toValue_true]
  | _ :: _ :: _ => simp [sameEntries, toEntries, skipMapping, isSkipMarker]

mutual

/-- Looking at the data alone has the same result as finishing each object to a mapping, from inside
out, and comparing the mapping. -/
theorem toValue_eq_decode : ∀ j : Json, j.toValue = j.decode finishObject
  | null | bool _ | int _ | float _ | text _ => by simp only [toValue, decode]
  | array items => by
    rw [toValue, decode, toValues_eq_decodeAll items]
  | object members => by
    rw [toValue, decode, ← toEntries_eq_decodeMembers members, finishObject,
      sameEntries_toEntries]

theorem toValues_eq_decodeAll : ∀ items : List Json,
    toValues items = decodeAll finishObject items
  | [] => rfl
  | j :: rest => by
    rw [toValues, decodeAll, toValue_eq_decode j, toValues_eq_decodeAll rest]

theorem toEntries_eq_decodeMembers : ∀ members : List (Text × Json),
    toEntries members = decodeMembers finishObject members
  | [] => rfl
  | (name, j) :: rest => by
    rw [toEntries, decodeMembers, toValue_eq_decode j, toEntries_eq_decodeMembers rest]

end

end QueryTemplate.Json

namespace QueryTemplate

/-!
## The places of the skip marker

A place in a value or in JSON data is the list of the numbers of the parts that lead to it from the
outside. The marker is at exactly the places of the objects that stand for it. At every other place
that is not inside of such an object the value has the form that it has without any marker: a
mapping has the same keys in the same order, a list has the same length, and a scalar is the same.
-/

namespace Value

/-- The values directly inside of a value: the items of a list, and the values of a mapping. -/
def parts : Value → List Value
  | .list items | .tuple items => items
  | .map entries | .orderedMap entries => entries.map Prod.snd
  | _ => []

/-- The value at a place inside of a value. -/
def partAt? : List Nat → Value → Option Value
  | [], v => some v
  | i :: place, v => v.parts[i]?.bind (partAt? place)

/-- The form of a value: the value with null in the place of all its parts. -/
def frame : Value → Value
  | .list items => .list (items.map fun _ => .null)
  | .tuple items => .tuple (items.map fun _ => .null)
  | .map entries => .map (entries.map fun entry => (entry.1, .null))
  | .orderedMap entries => .orderedMap (entries.map fun entry => (entry.1, .null))
  | v => v

end Value

namespace Json

/-! ### Places in JSON data -/

/-- The data directly inside of JSON data: the items of an array, and the values of an object. -/
def parts : Json → List Json
  | array items => items
  | object members => members.map Prod.snd
  | _ => []

/-- The data at a place inside of JSON data. -/
def partAt? : List Nat → Json → Option Json
  | [], j => some j
  | i :: place, j => j.parts[i]?.bind (partAt? place)

/-- At this place is an object that stands for the marker. -/
def SkipsAt (j : Json) (place : List Nat) : Prop :=
  ∃ k, j.partAt? place = some k ∧ k.IsSkipObject

theorem skipsAt_nil (j : Json) : j.SkipsAt [] ↔ j.IsSkipObject := by
  simp [SkipsAt, partAt?]

theorem skipsAt_cons (j : Json) (i : Nat) (place : List Nat) :
    j.SkipsAt (i :: place) ↔ ∃ k, j.parts[i]? = some k ∧ k.SkipsAt place := by
  simp only [SkipsAt, partAt?, Option.bind_eq_some_iff]
  constructor
  · rintro ⟨l, ⟨k, hk, hl⟩, hskip⟩
    exact ⟨k, hk, l, hl, hskip⟩
  · rintro ⟨k, hk, l, hl, hskip⟩
    exact ⟨l, ⟨k, hk, hl⟩, hskip⟩

/-- Nothing inside of an object that stands for the marker stands for it. -/
theorem IsSkipObject.not_skipsAt_cons {j : Json} (h : j.IsSkipObject) (i : Nat) (place : List Nat) :
    ¬ j.SkipsAt (i :: place) := by
  obtain ⟨value, rfl, hvalue⟩ := h
  rw [skipsAt_cons]
  rintro ⟨k, hk, l, hl, hskip⟩
  obtain rfl : value = k := by
    have hmem : k ∈ [value] := List.mem_of_getElem? hk
    exact (List.mem_singleton.mp hmem).symm
  -- The value of the only member is a scalar: there is no place inside of it.
  have hnone : value.parts = [] := by
    obtain rfl | rfl | rfl := hvalue <;> rfl
  cases place with
  | nil =>
    obtain rfl : value = l := Option.some.inj hl
    obtain ⟨_, hobject, -⟩ := hskip
    rw [hobject] at hvalue
    simp at hvalue
  | cons i place => simp [partAt?, hnone] at hl

/-! ### One step inside -/

theorem decodeAll_eq_map (finish : List (Value × Value) → Value) (items : List Json) :
    decodeAll finish items = items.map (decode finish) := by
  induction items with
  | nil => rfl
  | cons j rest ih => rw [decodeAll, ih, List.map_cons]

theorem decodeMembers_eq_map (finish : List (Value × Value) → Value)
    (members : List (Text × Json)) :
    decodeMembers finish members = members.map fun m => (.text m.1, m.2.decode finish) := by
  induction members with
  | nil => rfl
  | cons m rest ih =>
    obtain ⟨name, j⟩ := m
    rw [decodeMembers, ih, List.map_cons]

theorem toValues_eq_map (items : List Json) : toValues items = items.map toValue := by
  rw [toValues_eq_decodeAll, decodeAll_eq_map]
  exact List.map_congr_left fun j _ => (toValue_eq_decode j).symm

theorem toEntries_eq_map (members : List (Text × Json)) :
    toEntries members = members.map fun m => (.text m.1, m.2.toValue) := by
  rw [toEntries_eq_decodeMembers, decodeMembers_eq_map]
  exact List.map_congr_left fun m _ => by rw [toValue_eq_decode]

theorem toValue_object_of_not_isSkipObject {members : List (Text × Json)}
    (h : ¬ IsSkipObject (.object members)) :
    toValue (.object members) = .map (toEntries members) := by
  rw [toValue, if_neg fun hmarker => h ((isSkipMarker_iff members).mp hmarker)]

/-- The marker comes from the objects that stand for it. -/
theorem toValue_eq_skip_iff (j : Json) : j.toValue = .skip ↔ j.IsSkipObject := by
  cases j with
  | object members =>
    by_cases h : IsSkipObject (.object members)
    · rw [toValue, if_pos ((isSkipMarker_iff members).mpr h)]
      exact iff_of_true rfl h
    · rw [toValue_object_of_not_isSkipObject h]
      exact iff_of_false (fun hskip => by cases hskip) h
  | _ => simp [toValue, IsSkipObject]

/-- The parts of what other data becomes are what its parts become. -/
theorem parts_toValue {j : Json} (h : ¬ j.IsSkipObject) :
    j.toValue.parts = j.parts.map toValue := by
  cases j with
  | array items =>
    rw [toValue, toValues_eq_map]
    rfl
  | object members =>
    rw [toValue_object_of_not_isSkipObject h, toEntries_eq_map]
    simp [Value.parts, parts]
  | _ => simp [toValue, Value.parts, parts]

theorem parts_plain (j : Json) : j.plain.parts = j.parts.map plain := by
  cases j with
  | array items =>
    rw [plain, decode, decodeAll_eq_map]
    rfl
  | object members =>
    rw [plain, decode, decodeMembers_eq_map]
    simp [Value.parts, parts, plain]
  | _ => simp [plain, decode, Value.parts, parts]

/-- Other data keeps its form. -/
theorem frame_toValue {j : Json} (h : ¬ j.IsSkipObject) : j.toValue.frame = j.plain.frame := by
  cases j with
  | array items =>
    rw [toValue, plain, decode, toValues_eq_map, decodeAll_eq_map]
    simp [Value.frame]
  | object members =>
    rw [toValue_object_of_not_isSkipObject h, plain, decode, toEntries_eq_map,
      decodeMembers_eq_map]
    simp [Value.frame]
  | _ => simp [toValue, plain, decode]

/-! ### Any place -/

/-- The marker is at the places of the objects that stand for it. -/
theorem partAt?_toValue_eq_skip_iff (j : Json) (place : List Nat) :
    j.toValue.partAt? place = some .skip ↔ j.SkipsAt place := by
  induction place generalizing j with
  | nil => rw [Value.partAt?, Option.some_inj, toValue_eq_skip_iff, skipsAt_nil]
  | cons i place ih =>
    rw [Value.partAt?]
    by_cases hskip : j.IsSkipObject
    · have hnone : j.toValue.parts = [] := by
        rw [(toValue_eq_skip_iff j).mpr hskip]
        rfl
      simp [hnone, hskip.not_skipsAt_cons]
    · rw [skipsAt_cons, parts_toValue hskip, List.getElem?_map, Option.bind_map,
        Option.bind_eq_some_iff]
      exact exists_congr fun k => and_congr_right fun _ => ih k

/-- At a place that is neither that of an object that stands for the marker nor inside of one, the
value has the form that it has without any marker. -/
theorem frame_partAt?_toValue (j : Json) (place : List Nat)
    (h : ∀ start, start <+: place → ¬ j.SkipsAt start) :
    (j.toValue.partAt? place).map Value.frame = (j.plain.partAt? place).map Value.frame := by
  have hskip : ¬ j.IsSkipObject := fun hskip =>
    h [] List.nil_prefix ((skipsAt_nil j).mpr hskip)
  induction place generalizing j with
  | nil => simp only [Value.partAt?, Option.map_some, frame_toValue hskip]
  | cons i place ih =>
    rw [Value.partAt?, Value.partAt?, parts_toValue hskip, parts_plain, List.getElem?_map,
      List.getElem?_map]
    cases hk : j.parts[i]? with
    | none => rfl
    | some k =>
      have hinside : ∀ start, start <+: place → ¬ k.SkipsAt start := fun start hstart hskip =>
        h (i :: start) (List.cons_prefix_cons.mpr ⟨rfl, hstart⟩)
          ((skipsAt_cons j i start).mpr ⟨k, hk, hskip⟩)
      exact ih k hinside fun hskip => hinside [] List.nil_prefix ((skipsAt_nil k).mpr hskip)

end Json

end QueryTemplate
