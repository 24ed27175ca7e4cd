import QueryTemplate.Files
import QueryTemplate.Render
import QueryTemplate.Schema

/-!
# Options that are loaded

The options of a compilation are a record like any other: they are loaded from a value, and so from
a file that holds one.
-/

namespace QueryTemplate

/-!
## Options as settings

The options of a compilation as a record that can be loaded: their names, their words and their
defaults.
-/

namespace Coercion

/-- The name of the choice. -/
def choiceName : Text := "NumericCoercion".toList

/-- The name of a member. -/
def name : Coercion → Text
  | loose => "LOOSE".toList
  | strict => "STRICT".toList

/-- The members with what they stand for. -/
def declared : List (Text × Value) := [loose, strict].map fun c => (c.name, .text c.text)

/-- The schema of the setting. -/
def schema : Schema := .choice choiceName declared

/-- The setting as a loaded member. -/
def toLoaded (c : Coercion) : Loaded := .member choiceName c.name (.text c.text)

/-- The setting of the member with a name. -/
def ofName (name : Text) : Coercion := if name = strict.name then strict else loose

end Coercion

namespace SkipPolicy

/-- The name of the choice. -/
def choiceName : Text := "SkipPolicy".toList

/-- The name of a member. -/
def name : SkipPolicy → Text
  | refuse => "ERROR".toList
  | leaveOut => "OMIT".toList

/-- The members with what they stand for. -/
def declared : List (Text × Value) := [refuse, leaveOut].map fun p => (p.name, .text p.text)

/-- The schema of the setting. -/
def schema : Schema := .choice choiceName declared

/-- The setting as a loaded member. -/
def toLoaded (p : SkipPolicy) : Loaded := .member choiceName p.name (.text p.text)

/-- The setting of the member with a name. -/
def ofName (name : Text) : SkipPolicy := if name = leaveOut.name then leaveOut else refuse

end SkipPolicy

namespace Options

/-- The schema of the options. No field must be given. -/
def schema : Schema :=
  .record "CompileOptions".toList
    [ ⟨"numeric_coercion".toList, Coercion.schema, some Coercion.loose.toLoaded, true⟩,
      ⟨"skip_outside_block".toList, SkipPolicy.schema, some SkipPolicy.refuse.toLoaded, true⟩,
      ⟨"validate_identifiers".toList, .bool, some (.bool true), true⟩ ]
    none

/-- The options as a loaded record. -/
def toLoaded (o : Options) : Loaded :=
  .record
    [ ("numeric_coercion".toList, o.coercion.toLoaded),
      ("skip_outside_block".toList, o.skipOutsideBlock.toLoaded),
      ("validate_identifiers".toList, .bool o.validateIdentifiers) ]

/-- The options of a loaded record. What is not such a record gives the default options. -/
def ofLoaded : Loaded → Options
  | .record [(_, .member _ c _), (_, .member _ p _), (_, .bool b)] =>
    ⟨Coercion.ofName c, SkipPolicy.ofName p, b⟩
  | _ => .default

/-- The path of a whole value. -/
def rootPath : Text := ['$']

/-- The options that a value gives. -/
def ofValue (v : Value) : Except LoadError Options := (schema.load rootPath v).map ofLoaded

end Options

/-!
## Options from a file

Options may stand in a YAML file: one that is named, or the one of a fixed name in a directory. A
file that says nothing gives the default options. Errors name the file as its path is written.

How a text is read as YAML is left open here: a reader gives a value, or says why there is none.
That the text is no YAML is reported with the path of the file; whatever else the reader fails with
goes through as it is.
-/

/-- Why a text is not read as YAML. -/
inductive YamlFailure where
  /-- It is no YAML, for the reason that is given. -/
  | notYaml (detail : Text)
  /-- A value in it has a form that its type does not have; what is wrong is told in a message. -/
  | badValue (message : Text)
  /-- Something else goes wrong, an error of a type of its own. -/
  | unforeseen (type message : Text)
  deriving DecidableEq

/-- How a text is read as YAML; a text without a document is null. -/
abbrev YamlReader := Text → Except YamlFailure Value

/-- Why a file gives no options. -/
inductive OptionsError where
  /-- There is no such file. -/
  | notFound (path : Path)
  /-- A name in the path is too long. -/
  | nameTooLong (path : Path)
  /-- The octets of the file are no text. -/
  | encoding (fault : Utf8.Fault)
  /-- The file is no YAML, for the reason that is given. -/
  | notYaml (path : Path) (detail : Text)
  /-- A value in the file does not have the form of its type. -/
  | badValue (message : Text)
  /-- The reader of YAML fails in another way. -/
  | unforeseen (type message : Text)
  /-- The file holds something else than a mapping. -/
  | notAMapping (path : Path)
  /-- The mapping does not load. -/
  | settings (path : Path) (error : LoadError)
  deriving DecidableEq

namespace OptionsError

/-- The wording of an error. -/
def message : OptionsError → Text
  | notFound path => "Options file not found: ".toList ++ path.text
  | nameTooLong path => ReadError.nameTooLongMessage path
  | encoding fault => fault.message
  | notYaml path detail => path.text ++ ": invalid YAML: ".toList ++ detail
  | badValue message => message
  | unforeseen _ message => message
  | notAMapping path => path.text ++ ": YAML must be a mapping".toList
  | settings path (.at place fault) =>
    path.text ++ ": ".toList ++ LoadError.message (.at place fault)
  | settings _ error => error.message

/-- The error of a text that is not read as YAML. -/
def ofYaml (path : Path) : YamlFailure → OptionsError
  | .notYaml detail => .notYaml path detail
  | .badValue message => .badValue message
  | .unforeseen type message => .unforeseen type message

end OptionsError

namespace Value

/-- Whether a value says nothing: null, false, zero, or an empty text, list or mapping. -/
def isSilent : Value → Bool
  | null => true
  | bool b => !b
  | int i => i = 0
  | float x => x.magnitude = 0
  | text t => t.isEmpty
  | list xs => xs.isEmpty
  | tuple xs => xs.isEmpty
  | map es => es.isEmpty
  | orderedMap es => es.isEmpty
  | skip => false
  | bytes bs => bs.isEmpty
  | member m => m.value.isEmpty
  | constant _ _ _ => false
  | foreign o => o.isSilent

end Value

/-- The mapping that the text of a file holds. -/
def settingsOfText (yaml : YamlReader) (path : Path) (t : Text) : Except OptionsError Value :=
  match yaml t with
  | .error failure => .error (.ofYaml path failure)
  | .ok v =>
    if v.isSilent then .ok (.map [])
    else if v.entries?.isSome then .ok v
    else .error (.notAMapping path)

/-- The text of the file with options. -/
def readOptionsText (fs : Files) (path : Path) : Except OptionsError Text :=
  match fs.readText path with
  | .ok t => .ok t
  | .error (.missing p) => .error (.notFound p)
  | .error (.nameTooLong p) => .error (.nameTooLong p)
  | .error (.encoding fault) => .error (.encoding fault)

/-- The options of a file. -/
def loadOptions (yaml : YamlReader) (fs : Files) (path : Path) : Except OptionsError Options := do
  let t ← readOptionsText fs path
  let v ← settingsOfText yaml path t
  match Options.ofValue v with
  | .ok o => .ok o
  | .error e => .error (.settings path e)

/-- The name of the file with options in a directory. -/
def optionsFileName : Text := "sqltpl.yaml".toList

/-- The file with options in a directory, if there is one. -/
def findOptions (fs : Files) (root : Path) : Option Path :=
  let candidate := root.child optionsFileName
  if fs.isFile candidate then some candidate else none

/-- The options of the file that is named; if none is, of the file in the directory; and if there is
none, the default ones. -/
def resolveOptions (yaml : YamlReader) (fs : Files) (root : Path) (named : Option Path) :
    Except OptionsError Options :=
  match named with
  | some path => loadOptions yaml fs path
  | none =>
    match findOptions fs root with
    | some path => loadOptions yaml fs path
    | none => .ok .default

end QueryTemplate
