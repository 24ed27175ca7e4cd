import QueryTemplate.Proofs.Binary64.Bits
import QueryTemplate.Proofs.Results
import QueryTemplate.Proofs.Value
import QueryTemplate.Schema

/-!
# What keeps a value from being loaded

A value offends a schema where it has the wrong type, is no member of a choice or no mapping, has
keys that name no field, lacks a field that must be given, or stands where nothing can be loaded;
and a mapping offends where the value of a field does. The place is told by the fields on the way
down to it. A value loads if nothing in it offends, and otherwise the error is that of an offence at
its place.

Some offences are not reported under their place. An integer beyond the digit limit cannot be shown,
neither as the value that is no member of a choice, nor as what a member stands for, nor as a key
that names no field. An integer where a number with a point is wanted may be beyond the largest one.
And a declaration may be at fault: a choice has no members, a record names a type that does not
exist, or a field that is given is no parameter of its record.
-/

namespace QueryTemplate

/-- The key of an entry is or stands for one of the texts. -/
def Value.IsOneOf (names : List Text) (key : Value) : Prop :=
  ∃ t, key.asText? = some t ∧ t ∈ names

/-- What is wrong at a place, and whether it can be reported there. -/
inductive Trouble where
  /-- A fault that is reported under the path of the place. -/
  | reported (fault : LoadFault)
  /-- An integer beyond the digit limit would have to be shown. -/
  | tooManyDigits
  /-- An integer is beyond the largest number with a point. -/
  | outOfFloatRange
  /-- The choice of this name has no members. -/
  | noMembers (choice : Text)
  /-- The record names a type of this name, and there is none. -/
  | undefinedName (name : Text)
  /-- The field of this name is given and is no parameter of its record. -/
  | notAParameter (record field : Text)

/-- The error of a trouble at the place with this path. -/
def Trouble.error (path : Text) : Trouble → LoadError
  | reported fault => .at path fault
  | tooManyDigits => .tooManyDigits
  | outOfFloatRange => .outOfFloatRange
  | noMembers choice => .noMembers choice
  | undefinedName name => .undefinedName name
  | notAParameter record field => .notAParameter record field

/-- The value gives this member of a choice. -/
inductive GivesMember (choice : Text) (declared : List (Text × Value)) (v : Value) :
    Text × Value → Prop
  /-- It is the member. -/
  | itself {m : Text × Value} : m ∈ choiceMembers declared → v.asMember? = some (choice, m.1) →
      GivesMember choice declared v m
  /-- It equals what the member stands for. -/
  | value {m : Text × Value} : m ∈ choiceMembers declared → m.2.equals v = true →
      GivesMember choice declared v m
  /-- It is the name of the member. -/
  | name {m : Text × Value} : m ∈ choiceMembers declared → v.asText? = some m.1 →
      GivesMember choice declared v m
  /-- It is a second name of the member. -/
  | secondName {m : Text × Value} {second : Text × Value} : m ∈ choiceMembers declared →
      second ∈ declared → second.2.equals m.2 = true → v.asText? = some second.1 →
      GivesMember choice declared v m

namespace Schema

/-- The name of the type that a schema without parts asks for. -/
def scalarName? : Schema → Option Text
  | text => some "str".toList
  | int => some "int".toList
  | float => some "float".toList
  | bool => some "bool".toList
  | _ => none

/-- The value has the type that a schema without parts asks for. -/
inductive Takes : Schema → Value → Prop
  /-- A text. -/
  | text (t : Text) : Takes .text (.text t)
  /-- A member of a choice, which stands for a text. -/
  | member (m : Member) : Takes .text (.member m)
  /-- An integer. -/
  | int (i : Int) : Takes .int (.int i)
  /-- A number with a point. -/
  | float (x : Binary64) : Takes .float (.float x)
  /-- An integer in the place of a number with a point. -/
  | whole (i : Int) : Takes .float (.int i)
  /-- A truth value. -/
  | bool (b : Bool) : Takes .bool (.bool b)

/-- Something is wrong with a value for a schema: the fields on the way down to the place, and what
it is. -/
inductive Offence : Schema → Value → List Text → Trouble → Prop
  /-- A value of another type. -/
  | wrongType {s : Schema} {wanted : Text} {v : Value} : s.scalarName? = some wanted →
      ¬ Takes s v → Offence s v [] (.reported (.wrongType wanted v.typeName))
  /-- An integer that has no nearest number with a point. -/
  | outOfFloatRange {i : Int} : 2 ^ 1024 - 2 ^ 970 ≤ i.natAbs →
      Offence .float (.int i) [] .outOfFloatRange
  /-- No member of a choice. -/
  | notAMember {choice : Text} {declared : List (Text × Value)} {v : Value} {allowed : List Text}
      {shown : Text} : declared ≠ [] → (∀ m, ¬ GivesMember choice declared v m) →
      allowedValues? declared = some allowed → v.display? = some shown →
      Offence (.choice choice declared) v [] (.reported (.notAMember allowed shown))
  /-- No member of a choice, and it cannot be shown, or what a member stands for cannot. -/
  | longMember {choice : Text} {declared : List (Text × Value)} {v : Value} : declared ≠ [] →
      (∀ m, ¬ GivesMember choice declared v m) →
      v.CannotBeShown ∨ (∃ m ∈ choiceMembers declared, m.2.CannotBeShown) →
      Offence (.choice choice declared) v [] .tooManyDigits
  /-- A choice without members. -/
  | noMembers (choice : Text) (v : Value) : Offence (.choice choice []) v [] (.noMembers choice)
  /-- A schema of which nothing can be loaded. -/
  | unsupported (name : Text) (v : Value) :
      Offence (.unsupported name) v [] (.reported (.unsupported name))
  /-- No mapping. -/
  | notARecord {name : Text} {fields : List (Field Schema)} {undefined? : Option Text} {v : Value} :
      v.entries? = none →
      Offence (.record name fields undefined?) v [] (.reported (.notARecord name v.typeName))
  /-- A record that names a type that does not exist. -/
  | undefinedName {name undefined : Text} {fields : List (Field Schema)} {v : Value} :
      v.entries?.isSome →
      Offence (.record name fields (some undefined)) v [] (.undefinedName undefined)
  /-- Keys that name no field. -/
  | unknownKeys {name : Text} {fields : List (Field Schema)} {undefined? : Option Text} {v : Value}
      {entries : List (Value × Value)} {keys : List Text} : v.entries? = some entries →
      QueryTemplate.unknownKeys (fields.map Field.name) entries = some keys → keys ≠ [] →
      Offence (.record name fields undefined?) v [] (.reported (.unknownKeys keys))
  /-- A key that names no field, and it cannot be shown. -/
  | longKey {name : Text} {fields : List (Field Schema)} {undefined? : Option Text} {v : Value}
      {entries : List (Value × Value)} {entry : Value × Value} : v.entries? = some entries →
      entry ∈ entries → ¬ entry.1.IsOneOf (fields.map Field.name) → entry.1.CannotBeWritten →
      Offence (.record name fields undefined?) v [] .tooManyDigits
  /-- A field that must be given is left out. -/
  | missingField {name : Text} {fields : List (Field Schema)} {undefined? : Option Text} {v : Value}
      {entries : List (Value × Value)} {f : Field Schema} : v.entries? = some entries →
      f ∈ fields → f.default? = none → entryNamed? f.name entries = none →
      Offence (.record name fields undefined?) v [f.name] (.reported .missingField)
  /-- The value of a field offends. -/
  | inField {name : Text} {fields : List (Field Schema)} {undefined? : Option Text} {v w : Value}
      {entries : List (Value × Value)} {f : Field Schema} {steps : List Text}
      {trouble : Trouble} : v.entries? = some entries → f ∈ fields →
      entryNamed? f.name entries = some w → Offence f.schema w steps trouble →
      Offence (.record name fields undefined?) v (f.name :: steps) trouble
  /-- A field that is given and is no parameter of the record. -/
  | notAParameter {name : Text} {fields : List (Field Schema)} {undefined? : Option Text}
      {v : Value} {entries : List (Value × Value)} {f : Field Schema} :
      v.entries? = some entries → f ∈ fields → f.isParameter = false →
      entryNamed? f.name entries ≠ none →
      Offence (.record name fields undefined?) v [] (.notAParameter name f.name)

/-- The path of the place that fields lead to. -/
def placePath (path : Text) (steps : List Text) : Text := steps.foldl fieldPath path

end Schema

/-! ## Keys of fields -/

/-- A field is left out exactly if no key is its name. -/
theorem entryNamed?_eq_none_iff {name : Text} {entries : List (Value × Value)} :
    entryNamed? name entries = none ↔ ∀ entry ∈ entries, entry.1.asText? ≠ some name := by
  simp [entryNamed?]

/-! ## Keys that name no field -/

/-- Of several steps, all give a result or one does not. -/
theorem mapM_eq_none_iff {α β : Type} {f : α → Option β} {xs : List α} :
    xs.mapM f = none ↔ ∃ x ∈ xs, f x = none := by
  induction xs with
  | nil => simp
  | cons x rest ih =>
    simp only [List.mapM_cons, List.mem_cons, exists_eq_or_imp, ← ih]
    cases f x with
    | none => simp
    | some y => cases rest.mapM f <;> simp

/-- If all steps give a result, the results are those of the steps one by one. -/
theorem mapM_eq_some_iff {α β : Type} {f : α → Option β} {xs : List α} {ys : List β} :
    xs.mapM f = some ys ↔ xs.map f = ys.map some := by
  induction xs generalizing ys with
  | nil => cases ys <;> simp
  | cons x rest ih =>
    rw [List.mapM_cons]
    cases ys with
    | nil => cases f x <;> cases rest.mapM f <;> simp
    | cons y others =>
      rw [List.map_cons, List.map_cons, List.cons.injEq, ← ih]
      cases f x <;> cases rest.mapM f <;> simp

/-- The test that `unknownKeys` makes. -/
theorem isUnknown_iff {names : List Text} {key : Value} :
    (match key.asText? with
      | some t => !names.contains t
      | none => true) = true ↔ ¬ key.IsOneOf names := by
  unfold Value.IsOneOf
  cases key.asText? with
  | none => simp
  | some t => simp

/-- The keys that name no field can be listed unless one of them cannot be shown. -/
theorem unknownKeys_eq_none_iff {names : List Text} {entries : List (Value × Value)} :
    unknownKeys names entries = none ↔
      ∃ entry ∈ entries, ¬ entry.1.IsOneOf names ∧ entry.1.CannotBeWritten := by
  rw [unknownKeys, Option.map_eq_none_iff, mapM_eq_none_iff]
  simp only [List.mem_filter, List.mem_map, Value.keyText?_eq_none_iff]
  constructor
  · rintro ⟨_, ⟨⟨entry, hentry, rfl⟩, hunknown⟩, hlong⟩
    exact ⟨entry, hentry, isUnknown_iff.mp hunknown, hlong⟩
  · rintro ⟨entry, hentry, hunknown, hlong⟩
    exact ⟨entry.1, ⟨⟨entry, hentry, rfl⟩, isUnknown_iff.mpr hunknown⟩, hlong⟩

/-- If every key names a field, there are none to be listed. -/
theorem unknownKeys_of_isOneOf {names : List Text} {entries : List (Value × Value)}
    (h : ∀ entry ∈ entries, entry.1.IsOneOf names) : unknownKeys names entries = some [] := by
  rw [unknownKeys, List.filter_eq_nil_iff.mpr]
  · simp
  · intro key hkey hunknown
    obtain ⟨entry, hentry, rfl⟩ := List.mem_map.mp hkey
    exact isUnknown_iff.mp hunknown (h entry hentry)

/-- There are none to be listed only if every key names a field. -/
theorem unknownKeys_eq_some_nil_iff {names : List Text} {entries : List (Value × Value)} :
    unknownKeys names entries = some [] ↔ ∀ entry ∈ entries, entry.1.IsOneOf names := by
  refine ⟨fun h entry hentry => ?_, unknownKeys_of_isOneOf⟩
  obtain ⟨keys, hkeys, hsorted⟩ := Option.map_eq_some_iff.mp h
  have hlength := congrArg List.length hsorted
  rw [List.length_mergeSort, List.length_nil] at hlength
  have hnone := List.length_eq_zero_iff.mp hlength
  rw [hnone, mapM_eq_some_iff, List.map_nil, List.map_eq_nil_iff, List.filter_eq_nil_iff] at hkeys
  by_contra hunknown
  exact hkeys entry.1 (List.mem_map_of_mem hentry) (isUnknown_iff.mpr hunknown)

namespace Schema

variable {path : Text} {s : Schema} {v : Value} {e : LoadError}

/-! ## Schemas without parts -/

/-- A value of the right type loads, unless it is an integer that is wanted with a point and too
large for it. -/
theorem load_of_takes (path : Text) (h : Takes s v) :
    (∃ loaded, s.load path v = .ok loaded) ∨
      s.load path v = .error .outOfFloatRange ∧
        ∃ i, s = .float ∧ v = .int i ∧ 2 ^ 1024 - 2 ^ 970 ≤ i.natAbs := by
  cases h with
  | text t => exact .inl ⟨.text t, rfl⟩
  | member m => exact .inl ⟨.member m.choice m.name (.text m.value), rfl⟩
  | int i => exact .inl ⟨.int i, rfl⟩
  | float x => exact .inl ⟨.float x, rfl⟩
  | bool b => exact .inl ⟨.bool b, rfl⟩
  | whole i =>
    cases hrounded : Binary64.ofInt? i with
    | some x =>
      refine .inl ⟨.float x, ?_⟩
      rw [load, loadFloat, hrounded]
    | none =>
      refine .inr ⟨?_, i, rfl, rfl, Binary64.ofInt?_eq_none_iff.mp hrounded⟩
      rw [load, loadFloat, hrounded]

/-- A value of another type does not. -/
theorem load_of_not_takes (path : Text) {wanted : Text} (hname : s.scalarName? = some wanted)
    (h : ¬ Takes s v) : s.load path v = .error (.at path (.wrongType wanted v.typeName)) := by
  cases s with
  | text =>
    cases hname
    cases v with
    -- the values that the schema takes are excluded
    | text t => exact absurd (.text t) h
    | member m => exact absurd (.member m) h
    | _ => rfl
  | int =>
    cases hname
    cases v with
    | int i => exact absurd (.int i) h
    | _ => rfl
  | float =>
    cases hname
    cases v with
    | float x => exact absurd (.float x) h
    | int i => exact absurd (.whole i) h
    | _ => rfl
  | bool =>
    cases hname
    cases v with
    | bool b => exact absurd (.bool b) h
    | _ => rfl
  | choice | record | unsupported => cases hname

/-! ## Choices -/

/-- Of the items of a list without repetitions each is one of the list. -/
theorem mem_of_mem_eraseDupsBy {α : Type} {r : α → α → Bool} {x : α} {xs : List α}
    (h : x ∈ xs.eraseDupsBy r) : x ∈ xs := by
  cases xs with
  | nil => exact h
  | cons y rest =>
    rw [List.eraseDupsBy_cons, List.mem_cons] at h
    rcases h with rfl | h
    · exact List.mem_cons_self
    · exact List.mem_cons_of_mem y (List.mem_filter.mp (mem_of_mem_eraseDupsBy h)).1
termination_by xs.length
decreasing_by
  subst_vars
  exact Nat.lt_succ_of_le (List.length_filter_le _ _)

/-- What is left out of a list as a repetition is so of an item that is kept. -/
theorem mem_eraseDupsBy_or {α : Type} {r : α → α → Bool} {x : α} {xs : List α} (h : x ∈ xs) :
    x ∈ xs.eraseDupsBy r ∨ ∃ y ∈ xs.eraseDupsBy r, r x y = true := by
  cases xs with
  | nil => cases h
  | cons y rest =>
    rw [List.eraseDupsBy_cons]
    rcases List.mem_cons.mp h with rfl | hrest
    · exact .inl List.mem_cons_self
    · by_cases hrepeated : r x y = true
      · exact .inr ⟨y, List.mem_cons_self, hrepeated⟩
      · have hkept : x ∈ rest.filter fun b => decide (r b y = false) :=
          List.mem_filter.mpr ⟨hrest, decide_eq_true (Bool.eq_false_of_not_eq_true hrepeated)⟩
        rcases mem_eraseDupsBy_or (r := r) hkept with hx | ⟨z, hz, hxz⟩
        · exact .inl (List.mem_cons_of_mem y hx)
        · exact .inr ⟨z, List.mem_cons_of_mem y hz, hxz⟩
termination_by xs.length
decreasing_by
  subst_vars
  exact Nat.lt_succ_of_le (List.length_filter_le _ _)

section Choices

variable {choice : Text} {declared : List (Text × Value)}

/-- The member of which a text is a name is one of the choice, and the text is its first name or a
second one. -/
theorem givesMember_of_memberOfName? {t : Text} {m : Text × Value} (ht : v.asText? = some t)
    (h : memberOfName? declared t = some m) : GivesMember choice declared v m := by
  obtain ⟨named, hnamed, rfl⟩ := Option.map_eq_some_iff.mp h
  have hdeclared := List.mem_of_find?_eq_some hnamed
  have htext := List.find?_some hnamed
  have hname : named.1 = t := of_decide_eq_true htext
  cases hfirst : (choiceMembers declared).find? fun m' => named.2.equals m'.2 with
  | some first =>
    have hequal := List.find?_some hfirst
    exact .secondName (List.mem_of_find?_eq_some hfirst) hdeclared hequal (hname ▸ ht)
  | none =>
    -- no member stands for an equal value, so the name is that of a member
    rcases mem_eraseDupsBy_or (r := fun later earlier => later.2.equals earlier.2) hdeclared with
      hmember | ⟨first, hmem, hequal⟩
    · exact .name hmember (hname ▸ ht)
    · exact absurd hequal (List.find?_eq_none.mp hfirst first hmem)

/-- The member that is found is one that the value gives. -/
theorem givesMember_of_memberGiven? {m : Text × Value}
    (h : memberGiven? choice declared v = some m) : GivesMember choice declared v m := by
  simp only [memberGiven?, Option.orElse_eq_orElse, Option.orElse_eq_or, Option.or_eq_some_iff] at h
  rcases h with hitself | ⟨-, hvalue | ⟨-, hname⟩⟩
  · obtain ⟨⟨c, n⟩, hmember, hfound⟩ := Option.bind_eq_some_iff.mp hitself
    split at hfound
    · rename_i hchoice
      have htext := List.find?_some hfound
      have hn : m.1 = n := of_decide_eq_true htext
      refine .itself (List.mem_of_find?_eq_some hfound) ?_
      rw [hmember, hn, ← hchoice]
    · cases hfound
  · have hequal := List.find?_some hvalue
    exact .value (List.mem_of_find?_eq_some hvalue) hequal
  · obtain ⟨t, ht, hfound⟩ := Option.bind_eq_some_iff.mp hname
    exact givesMember_of_memberOfName? ht hfound

/-- If a value gives a member, one is found. -/
theorem memberGiven?_ne_none {m : Text × Value} (h : GivesMember choice declared v m) :
    memberGiven? choice declared v ≠ none := by
  simp only [memberGiven?, Option.orElse_eq_orElse, Option.orElse_eq_or, Ne, Option.or_eq_none_iff]
  rintro ⟨hitself, hvalue, hname⟩
  have hnotNamed {n : Text × Value} (hn : n ∈ declared) (ht : v.asText? = some n.1) : False := by
    rw [ht, Option.bind_some, memberOfName?, Option.map_eq_none_iff] at hname
    exact List.find?_eq_none.mp hname n hn (decide_eq_true rfl)
  cases h with
  | itself hm hmember =>
    rw [memberItself?, hmember, Option.bind_some, if_pos rfl] at hitself
    exact List.find?_eq_none.mp hitself m hm (decide_eq_true rfl)
  | value hm hequal => exact List.find?_eq_none.mp hvalue m hm hequal
  | name hm ht => exact hnotNamed (mem_of_mem_eraseDupsBy hm) ht
  | secondName _ hsecond _ ht => exact hnotNamed hsecond ht

theorem memberGiven?_eq_none_iff :
    memberGiven? choice declared v = none ↔ ∀ m, ¬ GivesMember choice declared v m := by
  constructor
  · intro hnone m h
    exact memberGiven?_ne_none h hnone
  · intro hno
    by_contra hsome
    obtain ⟨m, hm⟩ := Option.ne_none_iff_exists'.mp hsome
    exact hno m (givesMember_of_memberGiven? hm)

/-- What the members stand for can be shown unless one of it cannot. -/
theorem allowedValues?_eq_none_iff :
    allowedValues? declared = none ↔ ∃ m ∈ choiceMembers declared, m.2.CannotBeShown := by
  simp only [allowedValues?, mapM_eq_none_iff, Value.display?_eq_none_iff]

/-- What gives a member is loaded as a member that it gives. -/
theorem loadChoice_eq_ok_iff {l : Loaded} :
    loadChoice path choice declared v = .ok l ↔
      ∃ m, memberGiven? choice declared v = some m ∧ l = .member choice m.1 m.2 := by
  unfold loadChoice
  cases memberGiven? choice declared v with
  | none => simp
  | some m => simp [eq_comm]

/-- What gives none is refused. -/
theorem loadChoice_of_not_givesMember (path : Text) (h : ∀ m, ¬ GivesMember choice declared v m) :
    loadChoice path choice declared v = .error (notAMember path choice declared v) := by
  rw [loadChoice, memberGiven?_eq_none_iff.mpr h]

end Choices

/-! ## Records -/

/-- The schema of a field is smaller than that of the record. -/
theorem sizeOf_schema_lt {f : Field Schema} {fields : List (Field Schema)} (hf : f ∈ fields)
    (name : Text) (undefined? : Option Text) :
    sizeOf f.schema < sizeOf (record name fields undefined?) := by
  have hsize := List.sizeOf_lt_of_mem hf
  obtain ⟨fieldName, schema, default?, isParameter⟩ := f
  simp only [Field.mk.sizeOf_spec, record.sizeOf_spec] at hsize ⊢
  omega

/-- What a field of a record is loaded as. -/
def loadField (path : Text) (entries : List (Value × Value)) (f : Field Schema) :
    Except LoadError Loaded :=
  match entryNamed? f.name entries, f.default? with
  | some v, _ => load (fieldPath path f.name) f.schema v
  | none, some d => .ok d
  | none, none => .error (.at (fieldPath path f.name) .missingField)

theorem loadFields_cons (path : Text) (entries : List (Value × Value)) (f : Field Schema)
    (rest : List (Field Schema)) :
    loadFields path entries (f :: rest) = do
      let loaded ← loadField path entries f
      return (f.name, loaded) :: (← loadFields path entries rest) := by
  obtain ⟨name, schema, default?, isParameter⟩ := f
  cases hgiven : entryNamed? name entries with
  | some w => simp only [loadFields, loadField, hgiven]
  | none => cases default? <;> simp only [loadFields, loadField, hgiven]

/-- The fields are loaded one by one. -/
theorem loadFields_eq_mapM (path : Text) (entries : List (Value × Value))
    (fields : List (Field Schema)) :
    loadFields path entries fields =
      fields.mapM fun f => (loadField path entries f).map fun x => (f.name, x) := by
  induction fields with
  | nil => rfl
  | cons f rest ih =>
    rw [loadFields_cons, List.mapM_cons, ih]
    cases loadField path entries f <;> rfl

/-- The fields do not load because of one that does not. -/
theorem exists_loadField_eq_error {entries : List (Value × Value)} {fields : List (Field Schema)}
    (h : loadFields path entries fields = .error e) :
    ∃ f ∈ fields, loadField path entries f = .error e := by
  rw [loadFields_eq_mapM] at h
  obtain ⟨before, f, after, rfl, -, hf⟩ := mapM_eq_error_iff.mp h
  exact ⟨f, List.mem_append_right before List.mem_cons_self, map_eq_error_iff.mp hf⟩

/-- If one field does not load, the fields do not. -/
theorem exists_loadFields_eq_error {entries : List (Value × Value)} {fields : List (Field Schema)}
    {f : Field Schema} (hf : f ∈ fields) (h : loadField path entries f = .error e) :
    ∃ e', loadFields path entries fields = .error e' := by
  cases hfields : loadFields path entries fields with
  | error e' => exact ⟨e', rfl⟩
  | ok loaded =>
    rw [loadFields_eq_mapM] at hfields
    obtain ⟨x, hx⟩ := exists_mapM_eq_ok_iff.mp ⟨loaded, hfields⟩ f hf
    rw [h] at hx
    cases hx

/-- What the keys of a mapping are refused for. -/
theorem checkKeys_eq_error {names : List Text} {entries : List (Value × Value)}
    (h : checkKeys path names entries = .error e) :
    (e = .tooManyDigits ∧
        ∃ entry ∈ entries, ¬ entry.1.IsOneOf names ∧ entry.1.CannotBeWritten) ∨
      ∃ keys, e = .at path (.unknownKeys keys) ∧ unknownKeys names entries = some keys ∧
        keys ≠ [] := by
  unfold checkKeys at h
  cases hkeys : unknownKeys names entries with
  | none =>
    rw [hkeys] at h
    exact .inl ⟨(Except.error.inj h).symm, unknownKeys_eq_none_iff.mp hkeys⟩
  | some keys =>
    rw [hkeys] at h
    cases keys with
    | nil => cases h
    | cons key rest =>
      exact .inr ⟨_, (Except.error.inj h).symm, rfl, List.cons_ne_nil key rest⟩

theorem checkKeys_eq_ok_iff {names : List Text} {entries : List (Value × Value)} :
    checkKeys path names entries = .ok () ↔ ∀ entry ∈ entries, entry.1.IsOneOf names := by
  rw [← unknownKeys_eq_some_nil_iff, checkKeys]
  cases unknownKeys names entries with
  | none => simp
  | some keys => cases keys <;> simp

theorem checkParameters_eq_ok_iff {name : Text} {fields : List (Field Schema)}
    {entries : List (Value × Value)} :
    checkParameters name fields entries = .ok () ↔
      ∀ f ∈ fields, f.isParameter = false → entryNamed? f.name entries = none := by
  unfold checkParameters
  split
  · rename_i hnone
    simpa using hnone
  · rename_i f hf
    have htest := List.find?_some hf
    have hmem := List.mem_of_find?_eq_some hf
    simp only [Bool.and_eq_true, Bool.not_eq_eq_eq_not, Bool.not_true] at htest
    refine iff_of_false (by simp) fun h => ?_
    rw [h f hmem htest.1] at htest
    exact absurd htest.2 Bool.false_ne_true

/-- What a field is refused for that is no parameter: it is given. -/
theorem checkParameters_eq_error {name : Text} {fields : List (Field Schema)}
    {entries : List (Value × Value)} (h : checkParameters name fields entries = .error e) :
    ∃ f ∈ fields, f.isParameter = false ∧ entryNamed? f.name entries ≠ none ∧
      e = .notAParameter name f.name := by
  unfold checkParameters at h
  split at h
  · cases h
  · rename_i f hf
    have htest := List.find?_some hf
    simp only [Bool.and_eq_true, Bool.not_eq_eq_eq_not, Bool.not_true] at htest
    exact ⟨f, List.mem_of_find?_eq_some hf, htest.1, Option.isSome_iff_ne_none.mp htest.2,
      (Except.error.inj h).symm⟩

/-- The stages in which a mapping is loaded at a record. -/
theorem load_record_eq (path name : Text) (fields : List (Field Schema))
    (undefined? : Option Text) {entries : List (Value × Value)}
    (hentries : v.entries? = some entries) :
    (record name fields undefined?).load path v = (do
      checkDeclaration undefined?
      checkKeys path (fields.map Field.name) entries
      let loaded ← loadFields path entries fields
      checkParameters name fields entries
      return .record loaded) := by
  rw [load, hentries]

/-- A mapping that every stage lets pass is loaded at the record. -/
theorem load_record_of_stages (path name : Text) {fields : List (Field Schema)}
    {entries : List (Value × Value)} {loaded : List (Text × Loaded)}
    (hentries : v.entries? = some entries)
    (hkeys : checkKeys path (fields.map Field.name) entries = .ok ())
    (hloaded : loadFields path entries fields = .ok loaded)
    (hparameters : checkParameters name fields entries = .ok ()) :
    (record name fields none).load path v = .ok (.record loaded) := by
  rw [load_record_eq path name fields none hentries, checkDeclaration]
  simp only [hkeys, hloaded, hparameters]
  rfl

/-- What is loaded at a record has passed every stage. -/
theorem stages_of_load_record {name : Text} {fields : List (Field Schema)}
    {undefined? : Option Text} {l : Loaded}
    (h : (record name fields undefined?).load path v = .ok l) :
    ∃ entries loaded, v.entries? = some entries ∧ undefined? = none ∧
      checkKeys path (fields.map Field.name) entries = .ok () ∧
      loadFields path entries fields = .ok loaded ∧
      checkParameters name fields entries = .ok () ∧ l = .record loaded := by
  cases hentries : v.entries? with
  | none =>
    rw [load, hentries] at h
    cases h
  | some entries =>
    rw [load_record_eq path name fields undefined? hentries] at h
    obtain ⟨_, hdeclaration, h⟩ := exists_of_bind_eq_ok h
    obtain ⟨_, hkeys, h⟩ := exists_of_bind_eq_ok h
    obtain ⟨loaded, hloaded, h⟩ := exists_of_bind_eq_ok h
    obtain ⟨_, hparameters, h⟩ := exists_of_bind_eq_ok h
    refine ⟨entries, loaded, rfl, ?_, hkeys, hloaded, hparameters, (Except.ok.inj h).symm⟩
    cases undefined? with
    | none => rfl
    | some undefined => cases hdeclaration

/-! ## Errors and offences -/

/-- The error is that of an offence at its place. -/
def ErrorIsOffence (path : Text) (s : Schema) (v : Value) (e : LoadError) : Prop :=
  ∃ steps trouble, s.Offence v steps trouble ∧ e = trouble.error (placePath path steps)

theorem errorIsOffence_of_scalar {wanted : Text} (hname : s.scalarName? = some wanted)
    (h : s.load path v = .error e) : ErrorIsOffence path s v e := by
  by_cases htakes : Takes s v
  · rcases load_of_takes path htakes with ⟨loaded, hok⟩ | ⟨herror, i, rfl, rfl, hlarge⟩
    · rw [hok] at h
      cases h
    · rw [herror] at h
      exact ⟨[], _, .outOfFloatRange hlarge, (Except.error.inj h).symm⟩
  · rw [load_of_not_takes path hname htakes] at h
    exact ⟨[], _, .wrongType hname htakes, (Except.error.inj h).symm⟩

theorem errorIsOffence_of_choice {name : Text} {declared : List (Text × Value)}
    (h : (choice name declared).load path v = .error e) :
    ErrorIsOffence path (choice name declared) v e := by
  rw [load, loadChoice] at h
  cases hgiven : memberGiven? name declared v with
  | some m =>
    rw [hgiven] at h
    cases h
  | none =>
    rw [hgiven] at h
    have hno := memberGiven?_eq_none_iff.mp hgiven
    have he : notAMember path name declared v = e := Except.error.inj h
    subst he
    cases declared with
    | nil => exact ⟨[], _, .noMembers name v, rfl⟩
    | cons first rest =>
      have hne : first :: rest ≠ [] := List.cons_ne_nil first rest
      simp only [notAMember, List.isEmpty_cons, Bool.false_eq_true, if_false]
      -- the message shows what the members stand for, and then the value
      cases hallowed : allowedValues? (first :: rest) with
      | none =>
        exact ⟨[], _, .longMember hne hno (.inr (allowedValues?_eq_none_iff.mp hallowed)), rfl⟩
      | some allowed =>
        cases hshown : v.display? with
        | none =>
          exact ⟨[], _, .longMember hne hno (.inl (Value.display?_eq_none_iff.mp hshown)), rfl⟩
        | some shown => exact ⟨[], _, .notAMember hne hno hallowed hshown, rfl⟩

/-- A field that does not load is left out, or its value offends. -/
theorem errorIsOffence_of_loadField {name : Text} {fields : List (Field Schema)}
    {undefined? : Option Text}
    {entries : List (Value × Value)} {f : Field Schema} (hentries : v.entries? = some entries)
    (hf : f ∈ fields) (h : loadField path entries f = .error e)
    (hvalue : ∀ w, f.schema.load (fieldPath path f.name) w = .error e →
      ErrorIsOffence (fieldPath path f.name) f.schema w e) :
    ErrorIsOffence path (record name fields undefined?) v e := by
  unfold loadField at h
  cases hgiven : entryNamed? f.name entries with
  | some w =>
    rw [hgiven] at h
    obtain ⟨steps, trouble, hoffence, he⟩ := hvalue w h
    exact ⟨f.name :: steps, trouble, .inField hentries hf hgiven hoffence, he⟩
  | none =>
    cases hdefault : f.default? with
    | some d =>
      rw [hgiven, hdefault] at h
      cases h
    | none =>
      rw [hgiven, hdefault] at h
      exact ⟨[f.name], _, .missingField hentries hf hdefault hgiven, (Except.error.inj h).symm⟩

/-- A record that does not load offends by itself, or by a field that does not load. -/
theorem errorIsOffence_of_record {name : Text} {fields : List (Field Schema)}
    {undefined? : Option Text} (h : (record name fields undefined?).load path v = .error e)
    (hfield : ∀ f ∈ fields, ∀ w, f.schema.load (fieldPath path f.name) w = .error e →
      ErrorIsOffence (fieldPath path f.name) f.schema w e) :
    ErrorIsOffence path (record name fields undefined?) v e := by
  cases hentries : v.entries? with
  | none =>
    rw [load, hentries] at h
    exact ⟨[], _, .notARecord hentries, (Except.error.inj h).symm⟩
  | some entries =>
    rw [load_record_eq path name fields undefined? hentries] at h
    -- the stages one after the other: the first that fails gives the error
    rcases error_of_bind_eq_error h with hdeclaration | ⟨_, -, h⟩
    · cases undefined? with
      | none => cases hdeclaration
      | some undefined =>
        exact ⟨[], _, .undefinedName (hentries ▸ rfl), (Except.error.inj hdeclaration).symm⟩
    rcases error_of_bind_eq_error h with hkeys | ⟨_, -, h⟩
    · rcases checkKeys_eq_error hkeys with
        ⟨rfl, entry, hentry, hunknown, hlong⟩ | ⟨keys, rfl, hunknown, hne⟩
      · exact ⟨[], _, .longKey hentries hentry hunknown hlong, rfl⟩
      · exact ⟨[], _, .unknownKeys hentries hunknown hne, rfl⟩
    rcases error_of_bind_eq_error h with hfields | ⟨loaded, -, h⟩
    · obtain ⟨f, hf, herror⟩ := exists_loadField_eq_error hfields
      exact errorIsOffence_of_loadField hentries hf herror (hfield f hf)
    rcases error_of_bind_eq_error h with hparameters | ⟨_, -, h⟩
    · obtain ⟨f, hf, hparameter, hgiven, rfl⟩ := checkParameters_eq_error hparameters
      exact ⟨[], _, .notAParameter hentries hf hparameter hgiven, rfl⟩
    · cases h

/-- An error is that of an offence. The recursion is on the schema, into the field that does not
load. -/
theorem errorIsOffence_of_load (path : Text) (s : Schema) (v : Value)
    (h : s.load path v = .error e) : ErrorIsOffence path s v e := by
  cases s with
  | text => exact errorIsOffence_of_scalar rfl h
  | int => exact errorIsOffence_of_scalar rfl h
  | float => exact errorIsOffence_of_scalar rfl h
  | bool => exact errorIsOffence_of_scalar rfl h
  | unsupported name => exact ⟨[], _, .unsupported name v, (Except.error.inj h).symm⟩
  | choice name declared => exact errorIsOffence_of_choice h
  | record name fields undefined? =>
    refine errorIsOffence_of_record h fun f hf w hw => ?_
    exact errorIsOffence_of_load (fieldPath path f.name) f.schema w hw
termination_by sizeOf s
decreasing_by
  subst_vars
  exact sizeOf_schema_lt hf name undefined?

/-- A mapping does not load if one of the stages refuses it: from what passes all of them, nothing
can be wrong. -/
theorem exists_load_record_eq_error {name : Text} {fields : List (Field Schema)}
    {undefined? : Option Text} {entries : List (Value × Value)}
    (hentries : v.entries? = some entries)
    (h : undefined? = none → checkKeys path (fields.map Field.name) entries = .ok () →
      ∀ loaded, loadFields path entries fields = .ok loaded →
        checkParameters name fields entries = .ok () → False) :
    ∃ e, (record name fields undefined?).load path v = .error e := by
  cases hload : (record name fields undefined?).load path v with
  | error e => exact ⟨e, rfl⟩
  | ok l =>
    obtain ⟨entries', loaded, hentries', hdeclaration, hkeys, hloaded, hparameters, -⟩ :=
      stages_of_load_record hload
    rw [hentries] at hentries'
    cases hentries'
    exact (h hdeclaration hkeys loaded hloaded hparameters).elim

/-- Whatever offends does not load. -/
theorem Offence.exists_error {steps : List Text} {trouble : Trouble}
    (h : s.Offence v steps trouble) (path : Text) : ∃ e, s.load path v = .error e := by
  induction h generalizing path with
  | wrongType hname htakes => exact ⟨_, load_of_not_takes path hname htakes⟩
  | outOfFloatRange hlarge =>
    rw [load, loadFloat, Binary64.ofInt?_eq_none_iff.mpr hlarge]
    exact ⟨_, rfl⟩
  | notAMember _ hno | longMember _ hno => exact ⟨_, loadChoice_of_not_givesMember path hno⟩
  | noMembers choice v =>
    refine ⟨_, loadChoice_of_not_givesMember path fun m hm => ?_⟩
    cases hm with
    | itself hm | value hm | name hm | secondName hm => cases hm
  | unsupported name v => exact ⟨_, rfl⟩
  | notARecord hentries =>
    rw [load, hentries]
    exact ⟨_, rfl⟩
  | undefinedName hentries =>
    obtain ⟨entries, hentries⟩ := Option.isSome_iff_exists.mp hentries
    refine exists_load_record_eq_error hentries fun hdeclaration => ?_
    cases hdeclaration
  | @unknownKeys name fields undefined? v entries keys hentries hkeys hne =>
    refine exists_load_record_eq_error hentries fun _ hok => ?_
    rw [checkKeys_eq_ok_iff, ← unknownKeys_eq_some_nil_iff, hkeys] at hok
    exact absurd (Option.some.inj hok) hne
  | @longKey name fields undefined? v entries entry hentries hentry hunknown _ =>
    refine exists_load_record_eq_error hentries fun _ hok => ?_
    exact absurd (checkKeys_eq_ok_iff.mp hok entry hentry) hunknown
  | @missingField name fields undefined? v entries f hentries hf hdefault hgiven =>
    -- a field that does not load keeps the record from loading, whatever its error
    have hfield : loadField path entries f =
        .error (.at (fieldPath path f.name) .missingField) := by
      rw [loadField, hgiven, hdefault]
    obtain ⟨e, he⟩ := exists_loadFields_eq_error hf hfield
    refine exists_load_record_eq_error hentries fun _ _ loaded hloaded => ?_
    rw [he] at hloaded
    cases hloaded
  | @inField name fields undefined? v w entries f steps trouble hentries hf hgiven _ ih =>
    -- the offence inside the field keeps it from loading, by induction
    obtain ⟨e, he⟩ := ih (fieldPath path f.name)
    have hfield : loadField path entries f = .error e := by
      rw [loadField, hgiven]
      exact he
    obtain ⟨e', he'⟩ := exists_loadFields_eq_error hf hfield
    refine exists_load_record_eq_error hentries fun _ _ loaded hloaded => ?_
    rw [he'] at hloaded
    cases hloaded
  | @notAParameter name fields undefined? v entries f hentries hf hparameter hgiven =>
    refine exists_load_record_eq_error hentries fun _ _ _ _ hok => ?_
    exact hgiven (checkParameters_eq_ok_iff.mp hok f hf hparameter)

/-- A value loads exactly if nothing in it offends. -/
theorem load_eq_ok_iff (path : Text) (s : Schema) (v : Value) :
    (∃ loaded, s.load path v = .ok loaded) ↔ ∀ steps trouble, ¬ s.Offence v steps trouble := by
  constructor
  · rintro ⟨loaded, hok⟩ steps trouble hoffence
    obtain ⟨e, he⟩ := hoffence.exists_error path
    rw [hok] at he
    cases he
  · intro hnone
    cases hload : s.load path v with
    | ok loaded => exact ⟨loaded, rfl⟩
    | error e =>
      obtain ⟨steps, trouble, hoffence, -⟩ := errorIsOffence_of_load path s v hload
      exact absurd hoffence (hnone steps trouble)

end Schema

end QueryTemplate
