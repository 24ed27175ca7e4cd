import QueryTemplate.Proofs.Schema.Offence
import QueryTemplate.Settings

/-!
# What records are loaded as

A record loads from a mapping all of whose keys name fields, if every field without a default is
given and the value of every field that is given loads at its schema. Then the record has what these
values are loaded as, and the defaults of the other fields. Whatever is loaded inhabits its schema,
and is what the value says: a truth value is no integer and no number with a point, an integer is
one with a point where that is wanted, and a member of a choice is given as itself, by what it
stands for or by its name.

A record that does not load fails because the value is no mapping, then because of keys that name no
field, and then because of the first field in the order of declaration that is missing or does not
load.

This holds of the records whose declaration is in order: it names only types that exist, and all its
fields are parameters. What is loaded inhabits its schema in any case.
-/

namespace QueryTemplate

/-- A field is given exactly if the key of an entry is its name. -/
theorem entryNamed?_ne_none_iff {name : Text} {entries : List (Value × Value)} :
    entryNamed? name entries ≠ none ↔ ∃ entry ∈ entries, entry.1.asText? = some name := by
  rw [Ne, entryNamed?_eq_none_iff]
  push Not
  exact Iff.rfl

namespace Schema

mutual

/-- The loaded value is of the kind that the schema asks for, and is what the value says. -/
inductive Inhabits : Schema → Value → Loaded → Prop
  /-- A text. -/
  | text (t : Text) : Inhabits .text (.text t) (.text t)
  /-- A member of a choice of texts. -/
  | member (m : Member) :
      Inhabits .text (.member m) (.member m.choice m.name (.text m.value))
  /-- An integer. -/
  | int (i : Int) : Inhabits .int (.int i) (.int i)
  /-- A number with a point. -/
  | float (x : Binary64) : Inhabits .float (.float x) (.float x)
  /-- The number with a point that is nearest to an integer. -/
  | whole {i : Int} {x : Binary64} : Binary64.ofInt? i = some x →
      Inhabits .float (.int i) (.float x)
  /-- A truth value. -/
  | bool (b : Bool) : Inhabits .bool (.bool b) (.bool b)
  /-- A member of the choice that is given as itself, by what it stands for, or by a name. -/
  | choice {name : Text} {declared : List (Text × Value)} {v : Value} {m : Text × Value} :
      GivesMember name declared v m → Inhabits (.choice name declared) v (.member name m.1 m.2)
  /-- A record. -/
  | record {name : Text} {fields : List (Field Schema)} {undefined? : Option Text} {v : Value}
      {entries : List (Value × Value)} {loaded : List (Text × Loaded)} :
      v.entries? = some entries → FieldsInhabit entries fields loaded →
      Inhabits (.record name fields undefined?) v (.record loaded)

/-- The loaded fields are those of a record, one by one, and are what the entries of a mapping
say. -/
inductive FieldsInhabit :
    List (Value × Value) → List (Field Schema) → List (Text × Loaded) → Prop
  /-- No fields. -/
  | nil (entries : List (Value × Value)) : FieldsInhabit entries [] []
  /-- A field that is given. -/
  | given {entries : List (Value × Value)} {f : Field Schema} {w : Value} {x : Loaded}
      {rest : List (Field Schema)} {others : List (Text × Loaded)} :
      entryNamed? f.name entries = some w → Inhabits f.schema w x →
      FieldsInhabit entries rest others →
      FieldsInhabit entries (f :: rest) ((f.name, x) :: others)
  /-- A field that is left out. -/
  | leftOut {entries : List (Value × Value)} {f : Field Schema} {d : Loaded}
      {rest : List (Field Schema)} {others : List (Text × Loaded)} :
      entryNamed? f.name entries = none → f.default? = some d →
      FieldsInhabit entries rest others →
      FieldsInhabit entries (f :: rest) ((f.name, d) :: others)

end

/-- Why the keys of a mapping are refused for a record with fields of these names. -/
inductive KeysFail (path : Text) (names : List Text) (entries : List (Value × Value)) :
    LoadError → Prop
  /-- There are keys that name no field, and they are listed. -/
  | unknown {keys : List Text} : unknownKeys names entries = some keys → keys ≠ [] →
      KeysFail path names entries (.at path (.unknownKeys keys))
  /-- There are keys that name no field, and one of them cannot be shown. -/
  | long {entry : Value × Value} : entry ∈ entries → ¬ entry.1.IsOneOf names →
      entry.1.CannotBeWritten → KeysFail path names entries .tooManyDigits

/-- What a field of a record is loaded as, with its name. -/
inductive FieldLoads (path : Text) (entries : List (Value × Value)) (f : Field Schema) :
    Text × Loaded → Prop
  /-- The value that is given, loaded at the schema of the field. -/
  | given {w : Value} {x : Loaded} : entryNamed? f.name entries = some w →
      f.schema.load (fieldPath path f.name) w = .ok x → FieldLoads path entries f (f.name, x)
  /-- The default of a field that is left out. -/
  | leftOut {d : Loaded} : entryNamed? f.name entries = none → f.default? = some d →
      FieldLoads path entries f (f.name, d)

/-- Why a field of a record does not load. -/
inductive FieldFails (path : Text) (entries : List (Value × Value)) (f : Field Schema) :
    LoadError → Prop
  /-- It must be given and is left out. -/
  | missing : entryNamed? f.name entries = none → f.default? = none →
      FieldFails path entries f (.at (fieldPath path f.name) .missingField)
  /-- The value that is given does not load at the schema of the field. -/
  | given {w : Value} {e : LoadError} : entryNamed? f.name entries = some w →
      f.schema.load (fieldPath path f.name) w = .error e → FieldFails path entries f e

variable {path name : Text} {names : List Text} {entries : List (Value × Value)}
  {f : Field Schema} {fields : List (Field Schema)} {v : Value} {e : LoadError}

/-! ## Keys -/

theorem checkKeys_eq_error_iff :
    checkKeys path names entries = .error e ↔ KeysFail path names entries e := by
  constructor
  · intro h
    rcases checkKeys_eq_error h with ⟨rfl, entry, hentry, hunknown, hlong⟩ | ⟨keys, rfl, hkeys, hne⟩
    · exact .long hentry hunknown hlong
    · exact .unknown hkeys hne
  · intro h
    rw [checkKeys]
    cases h with
    | @unknown keys hkeys hne =>
      rw [hkeys]
      cases keys with
      | nil => exact absurd rfl hne
      | cons key rest => rfl
    | long hentry hunknown hlong =>
      rw [unknownKeys_eq_none_iff.mpr ⟨_, hentry, hunknown, hlong⟩]

/-! ## One field -/

/-- A field loads or fails. -/
theorem loadField_outcome (path : Text) (entries : List (Value × Value)) (f : Field Schema) :
    match loadField path entries f with
    | .ok x => FieldLoads path entries f (f.name, x)
    | .error e => FieldFails path entries f e := by
  cases hgiven : entryNamed? f.name entries with
  | some w =>
    simp only [loadField, hgiven]
    cases hload : f.schema.load (fieldPath path f.name) w with
    | ok x => exact .given hgiven hload
    | error e => exact .given hgiven hload
  | none =>
    cases hdefault : f.default? with
    | some d =>
      simp only [loadField, hgiven, hdefault]
      exact .leftOut hgiven hdefault
    | none =>
      simp only [loadField, hgiven, hdefault]
      exact .missing hgiven hdefault

theorem loadField_eq_ok_iff {x : Loaded} :
    loadField path entries f = .ok x ↔ FieldLoads path entries f (f.name, x) := by
  constructor
  · intro h
    have houtcome := loadField_outcome path entries f
    rw [h] at houtcome
    exact houtcome
  · rintro (⟨hgiven, h⟩ | ⟨hgiven, hdefault⟩)
    · rw [loadField, hgiven]
      exact h
    · rw [loadField, hgiven, hdefault]

theorem loadField_eq_error_iff :
    loadField path entries f = .error e ↔ FieldFails path entries f e := by
  constructor
  · intro h
    have houtcome := loadField_outcome path entries f
    rw [h] at houtcome
    exact houtcome
  · rintro (⟨hgiven, hdefault⟩ | ⟨hgiven, h⟩)
    · rw [loadField, hgiven, hdefault]
    · rw [loadField, hgiven]
      exact h

/-- A field with its name. -/
theorem map_loadField_eq_ok_iff {p : Text × Loaded} :
    (loadField path entries f).map (fun x => (f.name, x)) = .ok p ↔
      FieldLoads path entries f p := by
  constructor
  · intro h
    cases hload : loadField path entries f with
    | error e =>
      rw [hload] at h
      cases h
    | ok x =>
      rw [hload] at h
      cases h
      exact loadField_eq_ok_iff.mp hload
  · intro h
    obtain ⟨x, rfl⟩ : ∃ x, p = (f.name, x) := by
      cases h <;> exact ⟨_, rfl⟩
    rw [loadField_eq_ok_iff.mpr h]
    rfl

/-- A field loads if it is given where it must be, and its value loads where it is given. -/
theorem exists_fieldLoads_iff :
    (∃ p, FieldLoads path entries f p) ↔
      (f.default? = none → ∃ entry ∈ entries, entry.1.asText? = some f.name) ∧
        ∀ w, entryNamed? f.name entries = some w →
          ∃ x, f.schema.load (fieldPath path f.name) w = .ok x := by
  constructor
  · rintro ⟨_, ⟨hgiven, h⟩ | ⟨hgiven, hdefault⟩⟩
    · refine ⟨fun _ => entryNamed?_ne_none_iff.mp ?_, fun w hw => ?_⟩
      · rw [hgiven]
        exact Option.some_ne_none _
      · rw [hgiven] at hw
        cases hw
        exact ⟨_, h⟩
    · refine ⟨fun hmust => ?_, fun w hw => ?_⟩
      · rw [hmust] at hdefault
        cases hdefault
      · rw [hgiven] at hw
        cases hw
  · rintro ⟨hmust, hloads⟩
    cases hgiven : entryNamed? f.name entries with
    | some w =>
      obtain ⟨x, hx⟩ := hloads w hgiven
      exact ⟨_, .given hgiven hx⟩
    | none =>
      cases hdefault : f.default? with
      | some d => exact ⟨_, .leftOut hgiven hdefault⟩
      -- a field that must be given is given
      | none => exact absurd hgiven (entryNamed?_ne_none_iff.mpr (hmust hdefault))

/-! ## All fields -/

theorem loadFields_eq_ok_iff {loaded : List (Text × Loaded)} :
    loadFields path entries fields = .ok loaded ↔
      List.Forall₂ (FieldLoads path entries) fields loaded := by
  rw [loadFields_eq_mapM, mapM_eq_ok_iff]
  exact ⟨fun h => h.imp fun _ _ => map_loadField_eq_ok_iff.mp,
    fun h => h.imp fun _ _ => map_loadField_eq_ok_iff.mpr⟩

theorem loadFields_eq_error_iff :
    loadFields path entries fields = .error e ↔
      ∃ before f after, fields = before ++ f :: after ∧
        (∀ g ∈ before, ∃ p, FieldLoads path entries g p) ∧ FieldFails path entries f e := by
  rw [loadFields_eq_mapM, mapM_eq_error_iff]
  simp only [map_loadField_eq_ok_iff, map_eq_error_iff, loadField_eq_error_iff]

/-- All fields load if each of them does. -/
theorem exists_loadFields_eq_ok_iff :
    (∃ loaded, loadFields path entries fields = .ok loaded) ↔
      ∀ f ∈ fields, ∃ p, FieldLoads path entries f p := by
  simp only [loadFields_eq_mapM, exists_mapM_eq_ok_iff, map_loadField_eq_ok_iff]

/-! ## Records -/

/-- A record whose fields are all parameters. -/
theorem checkParameters_of_forall (name : Text) (entries : List (Value × Value))
    (hparameters : ∀ f ∈ fields, f.isParameter = true) :
    checkParameters name fields entries = .ok () := by
  refine checkParameters_eq_ok_iff.mpr fun f hf hparameter => ?_
  rw [hparameters f hf] at hparameter
  cases hparameter

theorem load_record_eq_ok_iff (hparameters : ∀ f ∈ fields, f.isParameter = true) {l : Loaded} :
    (record name fields none).load path v = .ok l ↔
      ∃ entries loaded, v.entries? = some entries ∧
        (∀ entry ∈ entries, entry.1.IsOneOf (fields.map Field.name)) ∧
        List.Forall₂ (FieldLoads path entries) fields loaded ∧ l = .record loaded := by
  constructor
  · intro h
    obtain ⟨entries, loaded, hentries, -, hkeys, hloaded, -, hl⟩ := stages_of_load_record h
    exact ⟨entries, loaded, hentries, checkKeys_eq_ok_iff.mp hkeys,
      loadFields_eq_ok_iff.mp hloaded, hl⟩
  · rintro ⟨entries, loaded, hentries, hkeys, hloaded, rfl⟩
    exact load_record_of_stages path name hentries (checkKeys_eq_ok_iff.mpr hkeys)
      (loadFields_eq_ok_iff.mpr hloaded) (checkParameters_of_forall name entries hparameters)

theorem load_record_eq_error_iff (hparameters : ∀ f ∈ fields, f.isParameter = true) :
    (record name fields none).load path v = .error e ↔
      (v.entries? = none ∧ e = .at path (.notARecord name v.typeName)) ∨
        ∃ entries, v.entries? = some entries ∧
          (KeysFail path (fields.map Field.name) entries e ∨
            (∀ entry ∈ entries, entry.1.IsOneOf (fields.map Field.name)) ∧
              ∃ before f after, fields = before ++ f :: after ∧
                (∀ g ∈ before, ∃ p, FieldLoads path entries g p) ∧
                FieldFails path entries f e) := by
  have hknown (entries : List (Value × Value)) :
      (∀ entry ∈ entries, entry.1.IsOneOf (fields.map Field.name)) ↔
        checkKeys path (fields.map Field.name) entries = .ok () := checkKeys_eq_ok_iff.symm
  simp only [← loadFields_eq_error_iff, ← checkKeys_eq_error_iff, hknown]
  constructor
  · intro h
    cases hentries : v.entries? with
    | none =>
      rw [load, hentries] at h
      exact .inl ⟨rfl, (Except.error.inj h).symm⟩
    | some entries =>
      rw [load_record_eq path name fields none hentries] at h
      refine .inr ⟨entries, rfl, ?_⟩
      -- the stages one after the other: the declaration is in order, and so are the parameters
      rcases error_of_bind_eq_error h with hdeclaration | ⟨_, -, h⟩
      · cases hdeclaration
      rcases error_of_bind_eq_error h with hkeys | ⟨_, hkeys, h⟩
      · exact .inl hkeys
      rcases error_of_bind_eq_error h with hfields | ⟨loaded, -, h⟩
      · exact .inr ⟨hkeys, hfields⟩
      · rw [checkParameters_of_forall name entries hparameters] at h
        cases h
  · rintro (⟨hentries, rfl⟩ | ⟨entries, hentries, hkeys | ⟨hkeys, hfields⟩⟩)
    · rw [load, hentries]
    · rw [load_record_eq path name fields none hentries, checkDeclaration]
      simp only [hkeys]
      rfl
    · rw [load_record_eq path name fields none hentries, checkDeclaration]
      simp only [hkeys, hfields]
      rfl

/-! ## What is loaded -/

theorem inhabits_of_loadChoice {declared : List (Text × Value)} {l : Loaded}
    (h : loadChoice path name declared v = .ok l) : (choice name declared).Inhabits v l := by
  obtain ⟨m, hgiven, rfl⟩ := loadChoice_eq_ok_iff.mp h
  exact .choice (givesMember_of_memberGiven? hgiven)

/-- The fields inhabit their schemas, if whatever is loaded for one of them does. -/
theorem fieldsInhabit_of_forall₂ {loaded : List (Text × Loaded)}
    (h : List.Forall₂ (FieldLoads path entries) fields loaded)
    (hvalue : ∀ f ∈ fields, ∀ w x, f.schema.load (fieldPath path f.name) w = .ok x →
      f.schema.Inhabits w x) : FieldsInhabit entries fields loaded := by
  induction h with
  | nil => exact .nil entries
  | @cons f p rest others hp _ ih =>
    have hothers := ih fun g hg => hvalue g (List.mem_cons_of_mem f hg)
    cases hp with
    | given hgiven hx => exact .given hgiven (hvalue f List.mem_cons_self _ _ hx) hothers
    | leftOut hgiven hdefault => exact .leftOut hgiven hdefault hothers

/-- What is loaded inhabits its schema. The recursion is on the schema, into the fields of a
record. -/
theorem inhabits_of_load (path : Text) (s : Schema) (v : Value) {l : Loaded}
    (h : s.load path v = .ok l) : s.Inhabits v l := by
  cases s with
  | text =>
    cases v with
    | text t =>
      cases h
      exact .text t
    | member m =>
      cases h
      exact .member m
    | _ => cases h
  | int =>
    cases v with
    | int i =>
      cases h
      exact .int i
    | _ => cases h
  | float =>
    cases v with
    | float x =>
      cases h
      exact .float x
    | int i =>
      -- an integer is rounded to a number with a point
      rw [load, loadFloat] at h
      cases hrounded : Binary64.ofInt? i with
      | some x =>
        rw [hrounded] at h
        cases h
        exact .whole hrounded
      | none =>
        rw [hrounded] at h
        cases h
    | _ => cases h
  | bool =>
    cases v with
    | bool b =>
      cases h
      exact .bool b
    | _ => cases h
  | choice name declared => exact inhabits_of_loadChoice h
  | unsupported name => cases h
  | record name fields undefined? =>
    -- what has passed all stages has loaded fields, each of which inhabits its schema
    obtain ⟨entries, loaded, hentries, -, -, hloaded, -, rfl⟩ := stages_of_load_record h
    have hfields := loadFields_eq_ok_iff.mp hloaded
    refine .record hentries (fieldsInhabit_of_forall₂ hfields fun f hf w x hx => ?_)
    exact inhabits_of_load (fieldPath path f.name) f.schema w hx
termination_by sizeOf s
decreasing_by
  subst_vars
  exact sizeOf_schema_lt hf name _

/-- What is loaded at a choice is one of its members. -/
theorem Inhabits.exists_member {name : Text} {declared : List (Text × Value)} {v : Value}
    {l : Loaded} (h : (Schema.choice name declared).Inhabits v l) :
    ∃ m ∈ declared, l = .member name m.1 m.2 := by
  cases h with
  | @choice _ _ _ m hm =>
    have hmem : m ∈ choiceMembers declared := by
      cases hm with
      | itself hmem | value hmem | name hmem | secondName hmem => exact hmem
    exact ⟨m, mem_of_mem_eraseDupsBy hmem, rfl⟩

/-- The first field is loaded from a value, or has its default. -/
theorem FieldsInhabit.exists_cons {entries : List (Value × Value)} {f : Field Schema}
    {rest : List (Field Schema)} {loaded : List (Text × Loaded)}
    (h : FieldsInhabit entries (f :: rest) loaded) :
    ∃ x others, loaded = (f.name, x) :: others ∧
      ((∃ w, f.schema.Inhabits w x) ∨ f.default? = some x) ∧
      FieldsInhabit entries rest others := by
  cases h with
  | given hgiven hx hrest => exact ⟨_, _, rfl, .inl ⟨_, hx⟩, hrest⟩
  | leftOut hgiven hdefault hrest => exact ⟨_, _, rfl, .inr hdefault, hrest⟩

end Schema

/-- A record whose fields are all parameters and whose declaration names only types that exist loads
exactly from a mapping whose keys all name fields, in which every field without a default is given,
and every value that is given for a field loads at its schema. What is loaded inhabits the schema
down to the last field, and has for each field, in the order of declaration, what its value is
loaded as, or its default where it is left out. A record does not load because the value is no
mapping, or else because of its keys, or else because of the first field that is missing or does not
load. -/
theorem load_record_sound_complete (path name : Text) (fields : List (Field Schema)) (v : Value)
    (hparameters : ∀ f ∈ fields, f.isParameter = true) :
    ((∃ l, (Schema.record name fields none).load path v = .ok l) ↔
      ∃ entries, v.entries? = some entries ∧
        (∀ entry ∈ entries, entry.1.IsOneOf (fields.map Field.name)) ∧
        ∀ f ∈ fields,
          (f.default? = none → ∃ entry ∈ entries, entry.1.asText? = some f.name) ∧
          ∀ w, entryNamed? f.name entries = some w →
            ∃ x, f.schema.load (Schema.fieldPath path f.name) w = .ok x) ∧
    (∀ l, (Schema.record name fields none).load path v = .ok l →
      (Schema.record name fields none).Inhabits v l ∧
        ∃ entries loaded, v.entries? = some entries ∧
          List.Forall₂ (Schema.FieldLoads path entries) fields loaded ∧ l = .record loaded) ∧
    (∀ e, (Schema.record name fields none).load path v = .error e ↔
      (v.entries? = none ∧ e = .at path (.notARecord name v.typeName)) ∨
        ∃ entries, v.entries? = some entries ∧
          (Schema.KeysFail path (fields.map Field.name) entries e ∨
            (∀ entry ∈ entries, entry.1.IsOneOf (fields.map Field.name)) ∧
              ∃ before f after, fields = before ++ f :: after ∧
                (∀ g ∈ before, ∃ p, Schema.FieldLoads path entries g p) ∧
                Schema.FieldFails path entries f e)) ∧
    ∀ s w l, Schema.load path s w = .ok l → s.Inhabits w l := by
  refine ⟨?_, fun l hl => ⟨Schema.inhabits_of_load path _ v hl, ?_⟩,
    fun e => Schema.load_record_eq_error_iff hparameters,
    fun s w l hl => Schema.inhabits_of_load path s w hl⟩
  -- what is said of a field is that it loads, and all fields load if each of them does
  · simp only [← Schema.exists_fieldLoads_iff, ← Schema.exists_loadFields_eq_ok_iff,
      Schema.load_record_eq_ok_iff hparameters, Schema.loadFields_eq_ok_iff]
    constructor
    · rintro ⟨_, entries, loaded, hentries, hkeys, hloaded, -⟩
      exact ⟨entries, hentries, hkeys, loaded, hloaded⟩
    · rintro ⟨entries, hentries, hkeys, loaded, hloaded⟩
      exact ⟨_, entries, loaded, hentries, hkeys, hloaded, rfl⟩
  · obtain ⟨entries, loaded, hentries, -, hloaded, hl⟩ :=
      (Schema.load_record_eq_ok_iff hparameters).mp hl
    exact ⟨entries, loaded, hentries, hloaded, hl⟩

/-- A record in a record, a field that is left out, a choice of numbers for which a truth value
stands, and a truth value that is no integer. -/
theorem load_record_sound_complete_nested :
    let priority : Schema := .choice "Priority".toList
      [("LOW".toList, .int 1), ("HIGH".toList, .int 2), ("YES".toList, .bool true)]
    let inner : Schema := .record "Mode".toList [⟨"priority".toList, priority, none, true⟩] none
    let fields : List (Field Schema) :=
      [⟨"level".toList, .int, none, true⟩, ⟨"ratio".toList, .float, some .null, true⟩,
        ⟨"mode".toList, inner, none, true⟩]
    let mode : Value := .map [(.text "priority".toList, .bool true)]
    let given (level : Value) : Value :=
      .map [(.text "mode".toList, mode), (.text "level".toList, level)]
    (∃ l, (Schema.record "Settings".toList fields none).load Options.rootPath (given (.int 3)) =
        .ok l ∧
      (Schema.record "Settings".toList fields none).Inhabits (given (.int 3)) l) ∧
    (Schema.record "Settings".toList fields none).load Options.rootPath (given (.bool true)) =
      .error (.at "$.level".toList (.wrongType "int".toList "bool".toList)) := by
  intro priority inner fields mode given
  have hparameters : ∀ f ∈ fields, f.isParameter = true :=
    List.forall_mem_cons.mpr
      ⟨rfl, List.forall_mem_cons.mpr ⟨rfl, List.forall_mem_singleton.mpr rfl⟩⟩
  have hkeys (level : Value) :
      ∀ entry ∈ [(Value.text "mode".toList, mode), (.text "level".toList, level)],
        entry.1.IsOneOf (fields.map Field.name) :=
    List.forall_mem_cons.mpr ⟨⟨_, rfl, by decide⟩,
      List.forall_mem_singleton.mpr ⟨_, rfl, by decide⟩⟩
  -- the inner record: the truth value equals what the first member stands for, the number one
  have hmode : inner.load "$.mode".toList mode =
      .ok (.record [("priority".toList, .member "Priority".toList "LOW".toList (.int 1))]) :=
    (Schema.load_record_eq_ok_iff (List.forall_mem_singleton.mpr rfl)).mpr ⟨_, _, rfl,
      List.forall_mem_singleton.mpr ⟨_, rfl, List.mem_singleton_self _⟩,
      .cons (.given rfl rfl) .nil, rfl⟩
  have hfields : ∀ f ∈ fields,
      (f.default? = none → ∃ entry ∈ [(Value.text "mode".toList, mode),
        (.text "level".toList, .int 3)], entry.1.asText? = some f.name) ∧
      ∀ w, entryNamed? f.name [(Value.text "mode".toList, mode), (.text "level".toList, .int 3)] =
        some w → ∃ x, f.schema.load (Schema.fieldPath Options.rootPath f.name) w = .ok x := by
    -- the field with a default is left out, and the other two are given
    refine List.forall_mem_cons.mpr ⟨⟨fun _ => ?_, fun w hw => ?_⟩,
      List.forall_mem_cons.mpr ⟨⟨fun hmust => ?_, fun w hw => ?_⟩,
        List.forall_mem_singleton.mpr ⟨fun _ => ?_, fun w hw => ?_⟩⟩⟩
    · exact ⟨_, List.mem_cons_of_mem _ List.mem_cons_self, rfl⟩
    · obtain rfl : Value.int 3 = w := Option.some.inj hw
      exact ⟨_, rfl⟩
    · cases hmust
    · cases hw
    · exact ⟨_, List.mem_cons_self, rfl⟩
    · obtain rfl : mode = w := Option.some.inj hw
      exact ⟨_, hmode⟩
  constructor
  · obtain ⟨hok, hinhabits, -⟩ :=
      load_record_sound_complete Options.rootPath "Settings".toList fields (given (.int 3))
        hparameters
    obtain ⟨l, hl⟩ := hok.mpr ⟨_, rfl, hkeys _, hfields⟩
    exact ⟨l, hl, (hinhabits l hl).1⟩
  · obtain ⟨-, -, herror, -⟩ :=
      load_record_sound_complete Options.rootPath "Settings".toList fields (given (.bool true))
        hparameters
    exact (herror _).mpr (.inr ⟨_, rfl, .inr ⟨hkeys _, [], _, _, rfl, List.forall_mem_nil _,
      .given rfl rfl⟩⟩)

end QueryTemplate
