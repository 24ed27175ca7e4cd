import QueryTemplate.Proofs.Results
import QueryTemplate.Proofs.Schema.Loading
import QueryTemplate.Settings

/-!
# Options that are not loaded

The options of a value are what is loaded, always a record of options. A file gives no options if
there is none, if it is no text, no YAML or no mapping, or if the mapping offends the schema of the
options. Most of this is reported as an error of the configuration; what is not is told by the file:
its octets are no text, the reader of YAML fails otherwise than with a text that is no YAML, or an
integer beyond the digit limit stands where it would have to be shown. All of this holds of any
reader of YAML.
-/

namespace QueryTemplate

namespace Options

theorem ofLoaded_toLoaded (o : Options) : ofLoaded o.toLoaded = o := by
  obtain ⟨c, p, b⟩ := o
  cases c <;> cases p <;> rfl

/-- What is loaded at the schema of the options is the record of some options. -/
theorem exists_eq_toLoaded {v : Value} {l : Loaded} (h : schema.Inhabits v l) :
    ∃ o : Options, l = o.toLoaded := by
  cases h with
  | record _ hfields =>
    -- the three fields, each of them loaded from a value or with its default
    obtain ⟨x, others, rfl, hx, hfields⟩ := hfields.exists_cons
    obtain ⟨y, others, rfl, hy, hfields⟩ := hfields.exists_cons
    obtain ⟨z, others, rfl, hz, hfields⟩ := hfields.exists_cons
    cases hfields
    obtain ⟨c, rfl⟩ : ∃ c : Coercion, x = c.toLoaded := by
      rcases hx with ⟨w, hx⟩ | hdefault
      · obtain ⟨m, hm, rfl⟩ := hx.exists_member
        obtain ⟨c, -, rfl⟩ := List.mem_map.mp hm
        exact ⟨c, rfl⟩
      · exact ⟨.loose, (Option.some.inj hdefault).symm⟩
    obtain ⟨p, rfl⟩ : ∃ p : SkipPolicy, y = p.toLoaded := by
      rcases hy with ⟨w, hy⟩ | hdefault
      · obtain ⟨m, hm, rfl⟩ := hy.exists_member
        obtain ⟨p, -, rfl⟩ := List.mem_map.mp hm
        exact ⟨p, rfl⟩
      · exact ⟨.refuse, (Option.some.inj hdefault).symm⟩
    obtain ⟨b, rfl⟩ : ∃ b : Bool, z = .bool b := by
      rcases hz with ⟨w, hz⟩ | hdefault
      · cases hz
        exact ⟨_, rfl⟩
      · exact ⟨true, (Option.some.inj hdefault).symm⟩
    exact ⟨⟨c, p, b⟩, rfl⟩

/-- The options of a value are those that are loaded: what is loaded is always the record of some
options, and none of it is left to the default options. -/
theorem ofValue_eq_ok_iff {v : Value} {o : Options} :
    ofValue v = .ok o ↔ schema.load rootPath v = .ok o.toLoaded := by
  unfold ofValue
  cases hload : schema.load rootPath v with
  | error e => simp [Except.map]
  | ok l =>
    obtain ⟨o', rfl⟩ := exists_eq_toLoaded (Schema.inhabits_of_load rootPath schema v hload)
    rw [Except.map, ofLoaded_toLoaded, Except.ok.injEq, Except.ok.injEq]
    refine ⟨congrArg toLoaded, fun h => ?_⟩
    rw [← ofLoaded_toLoaded o', h, ofLoaded_toLoaded]

/-- What is wrong with options is reported at its place, or is an integer beyond the digit limit: no
option is a number with a point, and the declarations are in order. -/
theorem reported_or_tooManyDigits {v : Value} {steps : List Text} {trouble : Trouble}
    (h : schema.Offence v steps trouble) :
    (∃ fault, trouble = .reported fault) ∨ trouble = .tooManyDigits := by
  unfold schema at h
  cases h with
  | notARecord | unknownKeys | missingField => exact .inl ⟨_, rfl⟩
  | longKey => exact .inr rfl
  | wrongType hname => cases hname
  | notAParameter hentries hf hparameter =>
    simp only [List.mem_cons, List.not_mem_nil, or_false] at hf
    rcases hf with rfl | rfl | rfl <;> cases hparameter
  | inField hentries hf hgiven hvalue =>
    simp only [List.mem_cons, List.not_mem_nil, or_false] at hf
    rcases hf with rfl | rfl | rfl <;> cases hvalue
    all_goals first
      | exact .inl ⟨_, rfl⟩
      | exact .inr rfl

/-- The error of options is that of loading their schema. -/
theorem ofValue_eq_error_iff {v : Value} {e : LoadError} :
    ofValue v = .error e ↔ schema.load rootPath v = .error e := by
  unfold ofValue
  cases schema.load rootPath v <;> simp [Except.map]

/-- Options from a value are refused at the place of an offence, or for an integer beyond the digit
limit. -/
theorem offence_of_ofValue {v : Value} {e : LoadError} (h : ofValue v = .error e) :
    (∃ steps fault, schema.Offence v steps (.reported fault) ∧
        e = .at (Schema.placePath rootPath steps) fault) ∨
      e = .tooManyDigits ∧ ∃ steps, schema.Offence v steps .tooManyDigits := by
  obtain ⟨steps, trouble, hoffence, rfl⟩ :=
    Schema.errorIsOffence_of_load rootPath schema v (ofValue_eq_error_iff.mp h)
  rcases reported_or_tooManyDigits hoffence with ⟨fault, rfl⟩ | rfl
  · exact .inl ⟨steps, fault, hoffence, rfl⟩
  · exact .inr ⟨rfl, steps, hoffence⟩

end Options

/-- Whether an error is one of the configuration. -/
def OptionsError.isConfiguration : OptionsError → Bool
  | notFound _ | notYaml _ _ | notAMapping _ | settings _ (.at _ _) => true
  | _ => false

/-- Why a file gives no options, and the error of it. -/
inductive OptionsOffence (yaml : YamlReader) (fs : Files) (path : Path) : OptionsError → Prop
  /-- There is no file. -/
  | notFound : fs.lookup path = .missing → OptionsOffence yaml fs path (.notFound path)
  /-- A name in the path is too long. -/
  | nameTooLong : fs.lookup path = .nameTooLong → OptionsOffence yaml fs path (.nameTooLong path)
  /-- The octets are no text. -/
  | encoding {octets : List UInt8} {fault : Utf8.Fault} : fs.lookup path = .file octets →
      Utf8.decode octets = .error fault → OptionsOffence yaml fs path (.encoding fault)
  /-- The text is no YAML. -/
  | notYaml {t detail : Text} : fs.readText path = .ok t → yaml t = .error (.notYaml detail) →
      OptionsOffence yaml fs path (.notYaml path detail)
  /-- A value does not have the form of its type. -/
  | badValue {t message : Text} : fs.readText path = .ok t →
      yaml t = .error (.badValue message) → OptionsOffence yaml fs path (.badValue message)
  /-- The reader fails in another way. -/
  | unforeseen {t type message : Text} : fs.readText path = .ok t →
      yaml t = .error (.unforeseen type message) →
      OptionsOffence yaml fs path (.unforeseen type message)
  /-- The text holds something that is no mapping and not nothing. -/
  | notAMapping {t : Text} {v : Value} : fs.readText path = .ok t → yaml t = .ok v →
      v.isSilent = false → v.entries? = none → OptionsOffence yaml fs path (.notAMapping path)
  /-- The mapping offends at a place. -/
  | settings {t : Text} {v : Value} {steps : List Text} {fault : LoadFault} :
      fs.readText path = .ok t → yaml t = .ok v → v.isSilent = false →
      Options.schema.Offence v steps (.reported fault) →
      OptionsOffence yaml fs path
        (.settings path (.at (Schema.placePath Options.rootPath steps) fault))
  /-- The mapping offends with an integer that cannot be shown. -/
  | longInteger {t : Text} {v : Value} {steps : List Text} : fs.readText path = .ok t →
      yaml t = .ok v → v.isSilent = false → Options.schema.Offence v steps .tooManyDigits →
      OptionsOffence yaml fs path (.settings path .tooManyDigits)

variable {yaml : YamlReader} {fs : Files} {path : Path} {e : OptionsError}

/-- Without a text there are no options. -/
theorem optionsOffence_of_readOptionsText (h : readOptionsText fs path = .error e) :
    OptionsOffence yaml fs path e := by
  unfold readOptionsText Files.readText at h
  cases hlookup : fs.lookup path with
  | missing =>
    simp only [hlookup] at h
    cases h
    exact .notFound hlookup
  | nameTooLong =>
    simp only [hlookup] at h
    cases h
    exact .nameTooLong hlookup
  | file octets =>
    cases hdecode : Utf8.decode octets with
    | ok t =>
      simp only [hlookup, hdecode] at h
      cases h
    | error fault =>
      simp only [hlookup, hdecode] at h
      cases h
      exact .encoding hlookup hdecode

/-- The text of the options is that of their file. -/
theorem readText_of_readOptionsText {t : Text} (h : readOptionsText fs path = .ok t) :
    fs.readText path = .ok t := by
  unfold readOptionsText at h
  cases htext : fs.readText path with
  | ok t' =>
    rw [htext] at h
    cases h
    rfl
  | error e' =>
    rw [htext] at h
    cases e' <;> cases h

/-- What a value in a file is for options: a mapping, and nothing as an empty one. -/
theorem settingsOfText_of_load {t : Text} {v : Value} (h : yaml t = .ok v) :
    settingsOfText yaml path t =
      if v.isSilent then .ok (.map [])
      else if v.entries?.isSome then .ok v
      else .error (.notAMapping path) := by
  rw [settingsOfText, h]

/-- A text without a mapping in it gives none either. -/
theorem optionsOffence_of_settingsOfText {t : Text} (ht : fs.readText path = .ok t)
    (h : settingsOfText yaml path t = .error e) : OptionsOffence yaml fs path e := by
  cases hload : yaml t with
  | error failure =>
    rw [settingsOfText, hload] at h
    rw [← Except.error.inj h]
    cases failure with
    | notYaml detail => exact .notYaml ht hload
    | badValue message => exact .badValue ht hload
    | unforeseen type message => exact .unforeseen ht hload
  | ok v =>
    rw [settingsOfText_of_load hload] at h
    split_ifs at h with hsilent hmapping
    rw [← Except.error.inj h]
    exact .notAMapping ht hload (Bool.eq_false_of_not_eq_true hsilent)
      (Option.not_isSome_iff_eq_none.mp hmapping)

/-- What a text holds for options is its value, or an empty mapping. -/
theorem settingsOfText_eq_ok {t : Text} {v : Value} (h : settingsOfText yaml path t = .ok v) :
    v = .map [] ∨ yaml t = .ok v ∧ v.isSilent = false := by
  cases hload : yaml t with
  | error failure =>
    rw [settingsOfText, hload] at h
    cases h
  | ok w =>
    rw [settingsOfText_of_load hload] at h
    split_ifs at h with hsilent hmapping
    · exact .inl (Except.ok.inj h).symm
    · rw [← Except.ok.inj h]
      exact .inr ⟨rfl, Bool.eq_false_of_not_eq_true hsilent⟩

/-- An empty mapping gives the default options. -/
theorem Options.ofValue_map_nil : ofValue (.map []) = .ok .default := by
  have hkeys (path : Text) (names : List Text) : Schema.checkKeys path names [] = .ok () :=
    Schema.checkKeys_eq_ok_iff.mpr fun _ hentry => absurd hentry List.not_mem_nil
  have hnone (name : Text) : entryNamed? name [] = none := rfl
  rw [ofValue, schema, Schema.load_record_eq _ _ _ _ rfl, hkeys]
  simp only [Schema.loadFields_cons, Schema.loadField, hnone]
  rfl

/-- A file that gives no options offends. -/
theorem optionsOffence_of_loadOptions (h : loadOptions yaml fs path = .error e) :
    OptionsOffence yaml fs path e := by
  unfold loadOptions at h
  rcases error_of_bind_eq_error h with htext | ⟨t, htext, h⟩
  · exact optionsOffence_of_readOptionsText htext
  have ht := readText_of_readOptionsText htext
  rcases error_of_bind_eq_error h with hsettings | ⟨v, hsettings, h⟩
  · exact optionsOffence_of_settingsOfText ht hsettings
  cases hvalue : Options.ofValue v with
  | ok o =>
    rw [hvalue] at h
    cases h
  | error error =>
    rw [hvalue] at h
    cases h
    rcases settingsOfText_eq_ok hsettings with rfl | ⟨hload, hsilent⟩
    · -- a file that says nothing gives the default options
      rw [Options.ofValue_map_nil] at hvalue
      cases hvalue
    · rcases Options.offence_of_ofValue hvalue with
        ⟨steps, fault, hoffence, rfl⟩ | ⟨rfl, steps, hoffence⟩
      · exact .settings ht hload hsilent hoffence
      · exact .longInteger ht hload hsilent hoffence

/-- What is reported as an error of the configuration, and where. A value loads at a schema exactly
if nothing in it offends; otherwise the error is that of an offence, and its message begins with the
path of the offending place, which is the given path with the names of the fields on the way down to
it. The exceptions are errors without a path: an integer beyond the digit limit where it would have
to be shown; an integer beyond the largest number where a number with a point is wanted; and a
declaration that is at fault, a choice without members, a record that names a type that does not
exist, or a field that is given and is no parameter of its record. Of these only the first can come
up for options. Options from a file are refused with an error of the configuration as well, unless
the name of the file is too long, its octets are no text, the reader of YAML fails otherwise than
with a text that is no YAML, or the first exception comes up. -/
theorem load_reports_offence (place : Text) (s : Schema) (v : Value) (yaml : YamlReader)
    (fs : Files) (path : Path) :
    (((∃ loaded, s.load place v = .ok loaded) ↔ ∀ steps trouble, ¬ s.Offence v steps trouble) ∧
      ∀ e, s.load place v = .error e →
        (∃ steps fault, s.Offence v steps (.reported fault) ∧
          e = .at (Schema.placePath place steps) fault ∧
          e.message = Schema.placePath place steps ++ ": ".toList ++ fault.message) ∨
        (e = .tooManyDigits ∧ ∃ steps, s.Offence v steps .tooManyDigits) ∨
        (e = .outOfFloatRange ∧ ∃ steps, s.Offence v steps .outOfFloatRange) ∨
        (∃ choice, e = .noMembers choice ∧ ∃ steps, s.Offence v steps (.noMembers choice)) ∨
        (∃ name, e = .undefinedName name ∧ ∃ steps, s.Offence v steps (.undefinedName name)) ∨
        ∃ record field, e = .notAParameter record field ∧
          ∃ steps, s.Offence v steps (.notAParameter record field)) ∧
    (∀ e, Options.ofValue v = .error e →
      (∃ steps fault, Options.schema.Offence v steps (.reported fault) ∧
        e = .at (Schema.placePath Options.rootPath steps) fault) ∨
      (e = .tooManyDigits ∧ ∃ steps, Options.schema.Offence v steps .tooManyDigits)) ∧
    ∀ e, loadOptions yaml fs path = .error e →
      OptionsOffence yaml fs path e ∧
      (e.isConfiguration = true ∨ fs.lookup path = .nameTooLong ∨
        (∃ octets fault, fs.lookup path = .file octets ∧ Utf8.decode octets = .error fault) ∨
        ∃ t, fs.readText path = .ok t ∧
          ((∃ failure, (∀ detail, failure ≠ .notYaml detail) ∧ yaml t = .error failure) ∨
            ∃ w steps, yaml t = .ok w ∧ Options.schema.Offence w steps .tooManyDigits)) := by
  refine ⟨⟨Schema.load_eq_ok_iff place s v, fun e he => ?_⟩,
    fun e he => Options.offence_of_ofValue he, fun e he => ?_⟩
  · obtain ⟨steps, trouble, hoffence, rfl⟩ := Schema.errorIsOffence_of_load place s v he
    -- what kind of trouble it is decides the form of the error
    cases trouble with
    | reported fault => exact .inl ⟨steps, fault, hoffence, rfl, rfl⟩
    | tooManyDigits => exact .inr (.inl ⟨rfl, steps, hoffence⟩)
    | outOfFloatRange => exact .inr (.inr (.inl ⟨rfl, steps, hoffence⟩))
    | noMembers choice => exact .inr (.inr (.inr (.inl ⟨choice, rfl, steps, hoffence⟩)))
    | undefinedName name => exact .inr (.inr (.inr (.inr (.inl ⟨name, rfl, steps, hoffence⟩))))
    | notAParameter record field =>
      exact .inr (.inr (.inr (.inr (.inr ⟨record, field, rfl, steps, hoffence⟩))))
  · have hoffence := optionsOffence_of_loadOptions he
    refine ⟨hoffence, ?_⟩
    cases hoffence with
    | notFound | notYaml | notAMapping | settings => exact .inl rfl
    | nameTooLong hlookup => exact .inr (.inl hlookup)
    | encoding hlookup hdecode => exact .inr (.inr (.inl ⟨_, _, hlookup, hdecode⟩))
    | badValue ht hload | unforeseen ht hload =>
      exact .inr (.inr (.inr ⟨_, ht, .inl ⟨_, fun _ h => (by cases h), hload⟩⟩))
    | longInteger ht hload _ hlong => exact .inr (.inr (.inr ⟨_, ht, .inr ⟨_, _, hload, hlong⟩⟩))

/-- A truth value in the place of an integer inside a record inside a record, a list in the place of
options, and a file with an octet that begins no character. -/
theorem load_reports_offence_nested :
    let inner : Schema := .record "Inner".toList [⟨"count".toList, .int, none, true⟩] none
    let outer : Schema := .record "Outer".toList [⟨"inner".toList, inner, none, true⟩] none
    let yaml : YamlReader := fun _ => .ok .null
    let v : Value := .map [(.text "inner".toList, .map [(.text "count".toList, .bool true)])]
    (∃ steps fault, outer.Offence v steps (.reported fault) ∧
        Schema.placePath ['$'] steps = "$.inner.count".toList) ∧
      (∃ steps fault, Options.schema.Offence (.list []) steps (.reported fault) ∧
        Schema.placePath Options.rootPath steps = ['$']) ∧
      ∃ e, loadOptions yaml ⟨fun _ => .file [0xff]⟩ (Path.ofText []) = .error e ∧
        OptionsOffence yaml ⟨fun _ => .file [0xff]⟩ (Path.ofText []) e := by
  intro inner outer yaml v
  let fs : Files := ⟨fun _ => .file [0xff]⟩
  refine ⟨?_, ?_, ?_⟩
  -- each of the two mappings has one key, and it names a field
  · have hone {name : Text} {w : Value} :
        ∀ entry ∈ [(Value.text name, w)], entry.1.IsOneOf [name] := by
      intro entry hentry
      rw [List.mem_singleton.mp hentry]
      exact ⟨name, rfl, List.mem_singleton_self name⟩
    have hinner : inner.load "$.inner".toList (.map [(.text "count".toList, .bool true)]) =
        .error (.at "$.inner.count".toList (.wrongType "int".toList "bool".toList)) := by
      rw [Schema.load_record_eq _ _ _ _ rfl, List.map_singleton,
        Schema.checkKeys_eq_ok_iff.mpr hone]
      rfl
    have houter : outer.load ['$'] v =
        .error (.at "$.inner.count".toList (.wrongType "int".toList "bool".toList)) := by
      have hgiven : entryNamed? "inner".toList
          [(.text "inner".toList, .map [(.text "count".toList, .bool true)])] =
            some (.map [(.text "count".toList, .bool true)]) := rfl
      have hpath : Schema.fieldPath ['$'] "inner".toList = "$.inner".toList := rfl
      rw [Schema.load_record_eq _ _ _ _ rfl, List.map_singleton,
        Schema.checkKeys_eq_ok_iff.mpr hone]
      simp only [Schema.loadFields_cons, Schema.loadField, hgiven, hpath, hinner]
      rfl
    rcases (load_reports_offence ['$'] outer v yaml fs (Path.ofText [])).1.2 _ houter with
      ⟨steps, fault, hoffence, he, -⟩ | ⟨he, -⟩ | ⟨he, -⟩ | ⟨_, he, -⟩ | ⟨_, he, -⟩ | ⟨_, _, he, -⟩
    · exact ⟨steps, fault, hoffence, (LoadError.at.inj he).1.symm⟩
    all_goals cases he
  · have hlist : Options.ofValue (.list []) =
        .error (.at ['$'] (.notARecord "CompileOptions".toList "list".toList)) := rfl
    rcases (load_reports_offence ['$'] outer (.list []) yaml fs (Path.ofText [])).2.1 _ hlist with
      ⟨steps, fault, hoffence, he⟩ | ⟨he, -⟩
    · exact ⟨steps, fault, hoffence, (LoadError.at.inj he).1.symm⟩
    · cases he
  · have hfile : loadOptions yaml fs (Path.ofText []) =
        .error (.encoding ⟨0xff, 0, 1, .startByte⟩) := by
      decide
    exact ⟨_, hfile, ((load_reports_offence ['$'] outer v yaml fs (Path.ofText [])).2.2 _ hfile).1⟩

/-- Errors without a path: an integer beyond the largest number with a point, an unknown key beyond
the digit limit, and, whatever the reader of YAML, a file that is no text. -/
theorem load_without_path :
    (¬ ∀ path (s : Schema) v e, s.load path v = .error e → path <+: e.message) ∧
      (¬ ∀ v e, Options.ofValue v = .error e → Options.rootPath <+: e.message) ∧
      ∀ yaml, ¬ ∀ fs path e, loadOptions yaml fs path = .error e → e.isConfiguration = true := by
  refine ⟨fun h => ?_, fun h => ?_, fun yaml h => ?_⟩
  · have hload : Schema.float.load ['$'] (.int (2 ^ 1024)) = .error .outOfFloatRange := by
      rw [Schema.load, Schema.loadFloat, Binary64.ofInt?_eq_none_iff.mpr (by decide +kernel)]
    exact absurd (h _ _ _ _ hload) (by decide)
  -- the integer is not computed with: that it cannot be shown follows from its size
  · have hlong : Value.CannotBeWritten (.int (Nat.pow 10 digitLimit : Nat)) := by
      refine Value.CannotBeShown.int ?_
      rw [withinDigitLimit, Int.natAbs_natCast]
      exact decide_eq_false (Nat.lt_irrefl _)
    have hunknown (names : List Text) :
        ¬ (Value.int (Nat.pow 10 digitLimit : Nat)).IsOneOf names := by
      rintro ⟨t, ht, -⟩
      cases ht
    have hload : Options.ofValue (.map [(.int (Nat.pow 10 digitLimit : Nat), .null)]) =
        .error .tooManyDigits := by
      rw [Options.ofValue, Options.schema, Schema.load_record_eq _ _ _ _ rfl, Schema.checkKeys,
        unknownKeys_eq_none_iff.mpr
          ⟨(.int (Nat.pow 10 digitLimit : Nat), .null), List.mem_singleton_self _, hunknown _,
            hlong⟩]
      rfl
    exact absurd (h _ _ hload) (by decide)
  · have hload : loadOptions yaml ⟨fun _ => .file [0xff]⟩ (Path.ofText []) =
        .error (.encoding ⟨0xff, 0, 1, .startByte⟩) := by
      have htext : readOptionsText ⟨fun _ => .file [0xff]⟩ (Path.ofText []) =
          .error (.encoding ⟨0xff, 0, 1, .startByte⟩) := by
        decide
      rw [loadOptions, htext]
      rfl
    exact absurd (h _ _ _ hload) (by decide)

end QueryTemplate
