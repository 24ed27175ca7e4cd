import QueryTemplate.CommandLine.Request
import QueryTemplate.Json
import QueryTemplate.Yaml.Value

/-!
# Running a command

A run reads the template, then the options, then the arguments, and stops at the first error. It
either prints its whole output, or it prints nothing and reports one error.

What a run takes from elsewhere is part of its environment: the files, the standard input, the
reader of YAML, the records that a report and tokens are put into before they are printed, the
standard output, which may refuse a text, and what is logged.
-/

namespace QueryTemplate.CommandLine

/-- What a run is given and relies on. -/
structure Environment where
  /-- The files. -/
  files : Files
  /-- The directory in which the program runs. -/
  directory : Path
  /-- The octets of the standard input. -/
  input : List UInt8
  /-- How a text is read as YAML. -/
  yaml : YamlReader
  /-- The data of a report, or why there is none. -/
  reportData : Report → Except Text Json
  /-- The data of a template and its tokens, or why there is none. -/
  tokensData : Text → List Token → Except Text Json
  /-- Why the standard output refuses a text, if it does. -/
  refusal? : Text → Option Text
  /-- What is logged during a run; nothing is unless it is asked for. -/
  log : Invocation → Text

/-- The environment in which the reader of YAML is the one of this library, the records take
whatever they are given, the standard output refuses no text, and nothing is logged. -/
def Environment.standard (files : Files) (directory : Path) (input : List UInt8) : Environment where
  files := files
  directory := directory
  input := input
  yaml := Yaml.reader
  reportData := fun report => .ok report.toJson
  tokensData := fun template tokens => .ok (tokensToJson template tokens)
  refusal? := fun _ => none
  log := fun _ => []

/-- Where a text comes from. -/
inductive Source where
  /-- The standard input. -/
  | input
  /-- A file. -/
  | file (path : Path)
  /-- The text itself. -/
  | literal (t : Text)
  deriving DecidableEq

/-- Where the text that a word stands for comes from: a dash is the standard input, and an at sign
stands in front of the path of a file. -/
def Source.ofWord (t : Text) : Source :=
  if t = ['-'] then .input
  else
    match t with
    | '@' :: path => .file (Path.ofText path)
    | _ => .literal t

/-- The path that a word stands for, if it names a file. -/
def Source.path? : Source → Option Path
  | .file path => some path
  | _ => none

/-- The paths that the run of an invocation in a directory may look up. -/
def Invocation.paths (i : Invocation) (directory : Path) : List Path :=
  ((i.template :: i.arguments.toList).filterMap fun word => (Source.ofWord word).path?) ++
    [match i.config with
      | some config => Path.ofText config
      | none => directory.child optionsFileName]

/-- Whether the run of an invocation may read the standard input. -/
def Invocation.readsInput (i : Invocation) : Bool :=
  (i.template :: i.arguments.toList).any (Source.ofWord · = .input)

/-- What is to be compiled. -/
structure Task where
  /-- The template. -/
  template : Text
  /-- The options that count. -/
  options : Options
  /-- The arguments. -/
  args : List Value

/-- How the values of a task are rendered: a run knows no escaper but the backslash. -/
def Task.renderer (task : Task) : Renderer := ⟨task.options, backslashEscaper⟩

/-- Why a run stops. -/
inductive RunError where
  /-- There is no such file. -/
  | fileNotFound (path : Path)
  /-- A name in the path is too long. -/
  | nameTooLong (path : Path)
  /-- The octets of a file or of the standard input are no text. -/
  | encoding (fault : Utf8.Fault)
  /-- The file with options gives none. -/
  | options (error : OptionsError)
  /-- The text of the arguments is no JSON. -/
  | argumentsSyntax (t : Text) (error : JsonError)
  /-- The arguments are no array. -/
  | argumentsNoArray
  /-- The template does not compile. -/
  | compile (template : Text) (error : CompileError)
  /-- What is to be printed is refused, for the reason that is given. -/
  | refused (message : Text)
  deriving DecidableEq

namespace RunError

/-- The wording of an error. -/
def message : RunError → Text
  | fileNotFound path => "File not found: ".toList ++ path.text
  | nameTooLong path => ReadError.nameTooLongMessage path
  | encoding fault => fault.message
  | options error => error.message
  | argumentsSyntax t (.at position problem) =>
    "Invalid JSON in --args: ".toList ++ JsonError.message t (.at position problem)
  | argumentsSyntax t error => error.message t
  | argumentsNoArray => "--args must be a JSON array".toList
  | compile template error => error.message template
  | refused message => message

/-- Whether a run reports an error and ends by itself. A few errors cut the program off where they
occur: a name that the file system refuses for its length, and an error of the reader of YAML that
is neither one of YAML nor one of a value. The other kinds listed do not come up in a run at all. -/
def isReported : RunError → Bool
  | nameTooLong _ | options (.nameTooLong _) => false
  | options (.unforeseen _ _) => false
  | options (.settings _ .outOfFloatRange) | options (.settings _ (.noMembers _)) => false
  | options (.settings _ (.undefinedName _)) | options (.settings _ (.notAParameter _ _)) => false
  | compile _ (.assembly .missingArgument) => false
  | compile _ (.assembly (.argument _ (.escaperFailed _ _))) => false
  | _ => true

end RunError

namespace Environment

/-- The text of some octets, with every line break as a line feed. -/
def textOfInput (octets : List UInt8) : Except RunError Text :=
  match Utf8.decode octets with
  | .ok t => .ok (unifyBreaks t)
  | .error fault => .error (.encoding fault)

/-- The text of a file. -/
def readFile (env : Environment) (path : Path) : Except RunError Text :=
  match env.files.readText path with
  | .ok t => .ok t
  | .error (.missing p) => .error (.fileNotFound p)
  | .error (.nameTooLong p) => .error (.nameTooLong p)
  | .error (.encoding fault) => .error (.encoding fault)

/-- The text from a source. -/
def read (env : Environment) : Source → Except RunError Text
  | .input => textOfInput env.input
  | .file path => env.readFile path
  | .literal t => .ok t

/-- What can be read after a source was read: the standard input can be read once. -/
def after (env : Environment) : Source → Environment
  | .input => { env with input := [] }
  | _ => env

/-- The options that count for a run. -/
def options (env : Environment) (config : Option Text) : Except RunError Options :=
  (resolveOptions env.yaml env.files env.directory (config.map Path.ofText)).mapError .options

/-- The arguments that a text of JSON holds. -/
def argumentsOfText (t : Text) : Except RunError (List Value) :=
  match Json.parse t with
  | .ok (.array items) => .ok (Json.toValues items)
  | .ok _ => .error .argumentsNoArray
  | .error error => .error (.argumentsSyntax t error)

/-- The arguments that a word gives; there are none without it. -/
def arguments (env : Environment) : Option Text → Except RunError (List Value)
  | none => .ok []
  | some word => do argumentsOfText (← env.read (.ofWord word))

/-- What an invocation wants compiled, read in the order of the parts. -/
def task (env : Environment) (i : Invocation) : Except RunError Task := do
  let source := Source.ofWord i.template
  let template ← env.read source
  let options ← env.options i.config
  let args ← (env.after source).arguments i.arguments
  return ⟨template, options, args⟩

/-- A text that is printed, unless the standard output refuses it. -/
def print (env : Environment) (t : Text) : Except RunError Text :=
  match env.refusal? t with
  | none => .ok t
  | some message => .error (.refused message)

/-- JSON data that is printed, if it is to be had. -/
def printData (env : Environment) : Except Text Json → Except RunError Text
  | .ok data => env.print (data.pretty 0 ++ ['\n'])
  | .error message => .error (.refused message)

/-- The query that is printed. -/
def printQuery (env : Environment) (task : Task) : Except RunError Text := do
  let sql ← (compile task.renderer task.template task.args).mapError (.compile task.template)
  env.print (sql ++ ['\n'])

/-- The report that is printed. -/
def printReport (env : Environment) (task : Task) : Except RunError Text := do
  let report ←
    (compileWithReport task.renderer task.template task.args).mapError (.compile task.template)
  env.printData (env.reportData report)

/-- The tokens that are printed. -/
def printTokens (env : Environment) (template : Text) : Except RunError Text :=
  env.printData (env.tokensData template (tokenize template))

/-- The output of a command. -/
def output (env : Environment) (i : Invocation) : Except RunError Text :=
  match i.command with
  | .compile => env.task i >>= env.printQuery
  | .report => env.task i >>= env.printReport
  | .tokens => env.read (.ofWord i.template) >>= env.printTokens

/-- Whether a text that was read holds half of a pair of escapes. -/
def loneHalfIn : Except RunError Text → Bool
  | .ok t => Json.holdsLoneHalf 0 t
  | .error _ => false

/-- Whether the text of the arguments holds half of a pair of escapes. Such a half is a code that is
no character, and so it is in no text of this library. -/
def holdsLoneHalf (env : Environment) (i : Invocation) : Bool :=
  match i.command with
  | .tokens => false
  | .compile | .report =>
    i.arguments.any fun word =>
      loneHalfIn ((env.after (.ofWord i.template)).read (.ofWord word))

end Environment

/-- How a program ends: its code, and what it has printed as output and as messages. -/
structure Ending where
  /-- The code. -/
  code : Nat
  /-- The output. -/
  output : Text
  /-- The messages. -/
  messages : Text
  deriving DecidableEq

/-- A run as it is seen from outside. -/
inductive Outcome where
  /-- The program ends by itself. -/
  | ended (ending : Ending)
  /-- The program is cut off by an error that it does not report. -/
  | aborted (error : RunError)
  /-- What becomes of the run is not told here, for the arguments hold something that is no text. -/
  | untold
  deriving DecidableEq

/-- The code with which a program ends after an error. -/
def errorCode : Nat := 2

/-- The line that says which program this is. -/
def versionLine : Text := "sqltpl 0.1.0\n".toList

/-- The run of an invocation. Blanks at the end of a message are not printed. -/
def Environment.run (env : Environment) (i : Invocation) : Outcome :=
  if env.holdsLoneHalf i then .untold
  else
    match env.output i with
    | .ok t => .ended ⟨0, t, env.log i⟩
    | .error e =>
      if e.isReported then .ended ⟨errorCode, [], env.log i ++ (e.message.trimEnd ++ ['\n'])⟩
      else .aborted e

/-- The lines that say how the program is called. -/
def usage : Text :=
  ("usage: sqltpl [-h] [-v] COMMAND ...\n\n" ++
    "  compile TEMPLATE [--args ARGS] [--config PATH]   print the query\n" ++
    "  report TEMPLATE [--args ARGS] [--config PATH]    print the query and its counts\n" ++
    "  tokens TEMPLATE                                  print the tokens of the template\n\n" ++
    "TEMPLATE and ARGS are a text, @ and the path of a file, or - for the standard input.\n" ++
    "ARGS is a JSON array.\n").toList

end QueryTemplate.CommandLine
