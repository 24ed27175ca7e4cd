import QueryTemplate.Binary64
import QueryTemplate.Render
import QueryTemplate.Value

/-!
# Schemas of settings

A schema says what a setting may be: a text, a number, a truth value, a member of a closed choice,
or a record whose fields have schemas and, where a field may be left out, a default. Loading a value
at a schema gives a loaded value, or an error with the path of the offending place.

A record takes a mapping. That it is a mapping is checked first, then that every key names a field,
then the fields in the order of their declaration; the first error ends the loading. Truth values
are no integers here. A member of a choice may be given as itself, by a value that equals the one it
stands for, or by one of its names; where the members stand for numbers, a truth value equals one or
zero.

A choice without members and a record whose declaration names a type that does not exist can be
declared, and load nothing. A field that is no parameter of its record has its default and is never
given.
-/

namespace QueryTemplate

/-- A value that has been loaded. -/
inductive Loaded where
  /-- Nothing; only a default is ever nothing. -/
  | null
  /-- A text. -/
  | text (t : Text)
  /-- An integer. -/
  | int (i : Int)
  /-- A number of the binary64 format. -/
  | float (x : Binary64)
  /-- A truth value. -/
  | bool (b : Bool)
  /-- A member of a closed choice: the choice's name, the member's name, and what it stands for. -/
  | member (choice name : Text) (value : Value)
  /-- A record: its fields by name, in the order of their declaration. -/
  | record (fields : List (Text × Loaded))
  deriving Inhabited

/-- A field of a record. -/
structure Field (σ : Type) where
  /-- The name of the field. -/
  name : Text
  /-- What the field may be. -/
  schema : σ
  /-- The value of the field where it is left out; a field without one must be given. -/
  default? : Option Loaded
  /-- Whether a record can be made with a value for the field. -/
  isParameter : Bool

/-- What may be loaded. -/
inductive Schema where
  /-- A text, or a member of a choice of texts, which is one. -/
  | text
  /-- An integer. -/
  | int
  /-- A number with a point; an integer is turned into one. -/
  | float
  /-- A truth value. -/
  | bool
  /-- One of the members of a choice, which are declared by a name and a value each. -/
  | choice (name : Text) (declared : List (Text × Value))
  /-- A record. The declaration of its fields may name a type that does not exist. -/
  | record (name : Text) (fields : List (Field Schema)) (undefined? : Option Text)
  /-- A schema of this name can be declared and not loaded. -/
  | unsupported (name : Text)

/-- What is wrong at a place. -/
inductive LoadFault where
  /-- A value of this type is given for a record. -/
  | notARecord (record got : Text)
  /-- A record has keys that name no field; they are listed in order. -/
  | unknownKeys (keys : List Text)
  /-- A field that must be given is left out. -/
  | missingField
  /-- A value, shown last, is none of the members that stand for the values shown first. -/
  | notAMember (allowed : List Text) (shown : Text)
  /-- A value of another type is given. -/
  | wrongType (wanted got : Text)
  /-- A schema of this name cannot be loaded. -/
  | unsupported (name : Text)
  deriving DecidableEq

/-- Why a value does not load. -/
inductive LoadError where
  /-- Something is wrong at the place with this path. -/
  | at (path : Text) (fault : LoadFault)
  /-- An integer that would have to be shown in a message is beyond the digit limit. -/
  | tooManyDigits
  /-- An integer is beyond the largest number with a point. -/
  | outOfFloatRange
  /-- The choice of this name has no members. -/
  | noMembers (choice : Text)
  /-- The declaration of a record names a type of this name, and there is none. -/
  | undefinedName (name : Text)
  /-- A field is given that is no parameter of its record. -/
  | notAParameter (record field : Text)
  deriving DecidableEq

namespace LoadFault

/-- The wording of what is wrong. -/
def message : LoadFault → Text
  | notARecord record got =>
    "expected mapping for ".toList ++ record ++ ", got ".toList ++ got
  | unknownKeys keys =>
    "unknown key(s): [".toList ++ Text.joined ", ".toList (keys.map quoted) ++ [']']
  | missingField => "required field missing".toList
  | notAMember allowed shown =>
    "expected one of ".toList ++ Text.joined ", ".toList allowed ++ ", got ".toList ++ shown
  | wrongType wanted got => "expected ".toList ++ wanted ++ ", got ".toList ++ got
  | unsupported name => "unsupported annotation ".toList ++ name

end LoadFault

namespace LoadError

/-- The wording of an error: the path first, if there is one. -/
def message : LoadError → Text
  | .at path fault => path ++ ": ".toList ++ fault.message
  | tooManyDigits => digitLimitMessage
  | outOfFloatRange => "int too large to convert to float".toList
  | noMembers choice => "<enum ".toList ++ quoted choice ++ "> has no members defined".toList
  | undefinedName name => "name ".toList ++ quoted name ++ " is not defined".toList
  | notAParameter record field =>
    record ++ ".__init__() got an unexpected keyword argument ".toList ++ quoted field

end LoadError

/-! ## Keys and fields -/

/-- The value of the entry whose key is the name `name`. -/
def entryNamed? (name : Text) (entries : List (Value × Value)) : Option Value :=
  (entries.find? fun e => e.1.asText? = some name).map (·.2)

/-- The names of the keys that are none of `names`, in the order of their characters; `none` if one
of them cannot be written. -/
def unknownKeys (names : List Text) (entries : List (Value × Value)) : Option (List Text) :=
  let unknown := (entries.map (·.1)).filter fun key =>
    match key.asText? with
    | some t => !names.contains t
    | none => true
  (unknown.mapM Value.keyText?).map fun keys => keys.mergeSort Text.le

/-! ## Choices -/

/-- The choice and the name of a value that is a member of a choice. -/
def Value.asMember? : Value → Option (Text × Text)
  | .member m => some (m.choice, m.name)
  | .constant choice name _ => some (choice, name)
  | _ => none

/-- The members of a choice. A name that is declared for a value that a member stands for already is
a second name of this member. -/
def choiceMembers (declared : List (Text × Value)) : List (Text × Value) :=
  declared.eraseDupsBy fun later earlier => later.2.equals earlier.2

/-- The member that a value is. -/
def memberItself? (choice : Text) (declared : List (Text × Value)) (v : Value) :
    Option (Text × Value) :=
  v.asMember?.bind fun m =>
    if m.1 = choice then (choiceMembers declared).find? (·.1 = m.2) else none

/-- The member that stands for a value. -/
def memberOfValue? (declared : List (Text × Value)) (v : Value) : Option (Text × Value) :=
  (choiceMembers declared).find? fun m => m.2.equals v

/-- The member of which a text is a name. -/
def memberOfName? (declared : List (Text × Value)) (t : Text) : Option (Text × Value) :=
  (declared.find? (·.1 = t)).map fun m =>
    ((choiceMembers declared).find? fun m' => m.2.equals m'.2).getD m

/-- The member that a value gives: the one that it is, or else the one that stands for it, or else
the one that it is a name of. -/
def memberGiven? (choice : Text) (declared : List (Text × Value)) (v : Value) :
    Option (Text × Value) :=
  memberItself? choice declared v <|> memberOfValue? declared v <|>
    v.asText?.bind (memberOfName? declared)

/-- What the members of a choice stand for, as it is shown in messages. -/
def allowedValues? (declared : List (Text × Value)) : Option (List Text) :=
  (choiceMembers declared).mapM fun m => m.2.display?

namespace Schema

/-! ## Schemas without parts -/

/-- The error of a value of the wrong type. -/
def wrongType (path wanted : Text) (v : Value) : Except LoadError Loaded :=
  .error (.at path (.wrongType wanted v.typeName))

/-- A value as a text. -/
def loadText (path : Text) : Value → Except LoadError Loaded
  | .text t => .ok (.text t)
  | .member m => .ok (.member m.choice m.name (.text m.value))
  | v => wrongType path "str".toList v

/-- A value as an integer. -/
def loadInt (path : Text) : Value → Except LoadError Loaded
  | .int i => .ok (.int i)
  | v => wrongType path "int".toList v

/-- A value as a number with a point. -/
def loadFloat (path : Text) : Value → Except LoadError Loaded
  | .float x => .ok (.float x)
  | .int i =>
    match Binary64.ofInt? i with
    | some x => .ok (.float x)
    | none => .error .outOfFloatRange
  | v => wrongType path "float".toList v

/-- A value as a truth value. -/
def loadBool (path : Text) : Value → Except LoadError Loaded
  | .bool b => .ok (.bool b)
  | v => wrongType path "bool".toList v

/-- The error of a value that gives no member of a choice. -/
def notAMember (path choice : Text) (declared : List (Text × Value)) (v : Value) : LoadError :=
  if declared.isEmpty then .noMembers choice
  else
    match allowedValues? declared, v.display? with
    | some allowed, some shown => .at path (.notAMember allowed shown)
    | _, _ => .tooManyDigits

/-- A value as a member of a choice. -/
def loadChoice (path choice : Text) (declared : List (Text × Value)) (v : Value) :
    Except LoadError Loaded :=
  match memberGiven? choice declared v with
  | some m => .ok (.member choice m.1 m.2)
  | none => .error (notAMember path choice declared v)

/-! ## Records -/

/-- The path of a field. -/
def fieldPath (path name : Text) : Text := path ++ '.' :: name

/-- That the declaration of a record names only types that exist. -/
def checkDeclaration : Option Text → Except LoadError Unit
  | none => .ok ()
  | some name => .error (.undefinedName name)

/-- That every key of a mapping names a field. -/
def checkKeys (path : Text) (names : List Text) (entries : List (Value × Value)) :
    Except LoadError Unit :=
  match unknownKeys names entries with
  | none => .error .tooManyDigits
  | some [] => .ok ()
  | some keys => .error (.at path (.unknownKeys keys))

/-- That every field that is given is a parameter of the record. -/
def checkParameters (record : Text) (fields : List (Field Schema))
    (entries : List (Value × Value)) : Except LoadError Unit :=
  match fields.find? fun f => !f.isParameter && (entryNamed? f.name entries).isSome with
  | none => .ok ()
  | some f => .error (.notAParameter record f.name)

mutual

/-- A value at a schema; `path` is where the value stands. -/
def load (path : Text) : Schema → Value → Except LoadError Loaded
  | text, v => loadText path v
  | int, v => loadInt path v
  | float, v => loadFloat path v
  | bool, v => loadBool path v
  | choice name declared, v => loadChoice path name declared v
  | unsupported name, _ => .error (.at path (.unsupported name))
  | record name fields undefined?, v =>
    match v.entries? with
    | none => .error (.at path (.notARecord name v.typeName))
    | some entries => do
      checkDeclaration undefined?
      checkKeys path (fields.map Field.name) entries
      let loaded ← loadFields path entries fields
      checkParameters name fields entries
      return .record loaded

/-- The fields of a record, in the order of their declaration. -/
def loadFields (path : Text) (entries : List (Value × Value)) :
    List (Field Schema) → Except LoadError (List (Text × Loaded))
  | [] => .ok []
  | ⟨name, schema, default?, _⟩ :: rest => do
    let loaded ←
      match entryNamed? name entries, default? with
      | some v, _ => load (fieldPath path name) schema v
      | none, some d => .ok d
      | none, none => .error (.at (fieldPath path name) .missingField)
    return (name, loaded) :: (← loadFields path entries rest)

end

end Schema

end QueryTemplate
