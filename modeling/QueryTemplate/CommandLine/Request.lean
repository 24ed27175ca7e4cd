import QueryTemplate.Text

/-!
# Command lines

The words of a command line are sorted into operands and flags, level by level: those of the program
first, then those of the command that the first operand names.
-/

namespace QueryTemplate.CommandLine

/-!
## The words of a command line

A word is an operand, a flag, or neither. Flags start with a dash. A long flag may be shortened as
long as one flag of the level is meant, and a value may be attached to it with an equals sign;
letters may share a dash, and the first counts. Behind the first word of two dashes, every word is
an operand.
-/

/-- A flag that takes no value and ends the run. -/
inductive Order where
  /-- How to call the program. -/
  | help
  /-- Which program this is. -/
  | version
  deriving DecidableEq

/-- A flag that takes a value. -/
inductive Setting where
  /-- Where the arguments come from. -/
  | arguments
  /-- The file with options. -/
  | config
  deriving DecidableEq

namespace Order

/-- The letter of a flag. -/
def letter : Order → Char
  | help => 'h'
  | version => 'v'

/-- The long form of a flag. -/
def long : Order → Text
  | help => "--help".toList
  | version => "--version".toList

end Order

namespace Setting

/-- The long form of a flag. -/
def long : Setting → Text
  | arguments => "--args".toList
  | config => "--config".toList

end Setting

/-- The flags that are known among some words. -/
structure Level where
  /-- The flags that end the run. -/
  orders : List Order
  /-- The flags that take a value. -/
  settings : List Setting

/-- What a word is. -/
inductive Word where
  /-- An operand. -/
  | operand (t : Text)
  /-- A flag that ends the run. -/
  | order (o : Order)
  /-- A flag whose value is to follow. -/
  | awaiting (s : Setting)
  /-- A flag with its value. -/
  | assigned (s : Setting) (value : Text)
  /-- A flag with a text attached that it does not take. -/
  | misused
  /-- A word that looks like a flag and is none. -/
  | stranger
  /-- The two dashes behind which every word is an operand. -/
  | divider
  deriving DecidableEq

/-- The two dashes behind which every word is an operand. -/
def dividerText : Text := ['-', '-']

/-- Whether a word is a dash with a number behind it: digits, or a point with digits behind it and
perhaps in front. A line feed at the end does not count. -/
def looksNegative (t : Text) : Bool :=
  match t with
  | '-' :: rest =>
    let body := if rest.getLast? = some '\n' then rest.dropLast else rest
    let behind := body.dropWhile isDigit
    match behind with
    | [] => !body.isEmpty
    | '.' :: fraction => !fraction.isEmpty && fraction.all isDigit
    | _ => false
  | _ => false

/-- What stands before the first equals sign, and what stands behind it if there is one. -/
def splitAtEquals (t : Text) : Text × Option Text :=
  match t.dropWhile (· ≠ '=') with
  | [] => (t, none)
  | _ :: value => (t.takeWhile (· ≠ '='), some value)

/-- A word that starts with a dash and names no flag. Numbers and texts with a space are operands.
-/
def unnamed (t : Text) : Word :=
  if looksNegative t || t.contains ' ' then .operand t else .stranger

namespace Level

/-- Whether a text may follow the letter of a flag behind the same dash. Letters of further flags
may stand in it up to the first that is none; none of them may have a dash or an equals sign behind
it. -/
def lettersFit (level : Level) : Text → Bool
  | [] => true
  | '-' :: _ => false
  | '=' :: _ => false
  | c :: rest => if level.orders.any (·.letter = c) then level.lettersFit rest else true

/-- A flag by one of its full forms, with the text attached to it if there is one. -/
def named? (level : Level) (name : Text) (attached : Option Text) : Option Word :=
  match level.orders.find? fun o => name = o.long || name = ['-', o.letter] with
  | some o => some (if attached.isSome then .misused else .order o)
  | none =>
    (level.settings.find? fun s => name = s.long).map fun s =>
      match attached with
      | none => .awaiting s
      | some t => .assigned s t

/-- The long flags that a text shortens. -/
def longMatches (level : Level) (start : Text) (attached : Option Text) : List Word :=
  (level.orders.map Order.long ++ level.settings.map Setting.long).filterMap fun long =>
    if start.isPrefixOf long then level.named? long attached else none

/-- What a word is; `none` if it shortens more than one flag. A full form counts before an equals
sign is looked for. -/
def readWord? (level : Level) (t : Text) : Option Word :=
  match t with
  | '-' :: second :: rest =>
    let (name, attached) := splitAtEquals t
    match level.named? t none <|> level.named? name attached with
    | some w => some w
    | none =>
      if second = '-' then
        match level.longMatches name attached with
        | [] => some (unnamed t)
        | [w] => some w
        | _ => none
      else
        match level.orders.find? (·.letter = second) with
        | some o => some (if level.lettersFit rest then .order o else .misused)
        | none => some (unnamed t)
  | _ => some (.operand t)

/-- Words by what they are; `none` if one of them shortens more than one flag. -/
def readWords? (level : Level) : List Text → Option (List Word)
  | [] => some []
  | t :: rest =>
    if t = dividerText then some (.divider :: rest.map .operand)
    else do
      let w ← level.readWord? t
      let ws ← level.readWords? rest
      return w :: ws

end Level

/-!
## What a command line asks for

The first operand names a command, and the words behind it belong to the command. A command has one
operand, the template, and the flags that are known to it; a flag that is given twice counts with
its last value. A flag that ends the run does so as soon as it is reached.
-/

/-- What is to be done with a template. -/
inductive Command where
  /-- Print the query. -/
  | compile
  /-- Print the query with what is known of it. -/
  | report
  /-- Print the tokens of the template. -/
  | tokens
  deriving DecidableEq

/-- A command with what was given to it. -/
structure Invocation where
  /-- The command. -/
  command : Command
  /-- Where the template comes from. -/
  template : Text
  /-- Where the arguments come from. -/
  arguments : Option Text
  /-- The path of the file with options. -/
  config : Option Text
  deriving DecidableEq

/-- What a command line asks for. -/
inductive Request where
  /-- Something about the program itself. -/
  | order (o : Order)
  /-- The run of a command. -/
  | run (i : Invocation)
  deriving DecidableEq

namespace Command

/-- The command of a name. -/
def ofText? (t : Text) : Option Command :=
  [("compile".toList, compile), ("report".toList, report), ("tokens".toList, tokens)].lookup t

/-- The flags that are known behind a command. -/
def level : Command → Level
  | compile | report => ⟨[.help], [.arguments, .config]⟩
  | tokens => ⟨[.help], []⟩

end Command

/-- What has been read of the words of a command. -/
structure Draft where
  /-- The template. -/
  template : Option Text
  /-- The arguments. -/
  arguments : Option Text
  /-- The file with options. -/
  config : Option Text
  /-- Whether there is a word that has no place. -/
  surplus : Bool

namespace Draft

/-- Nothing has been read. -/
def empty : Draft := ⟨none, none, none, false⟩

/-- A flag with its value. -/
def set (d : Draft) (s : Setting) (value : Text) : Draft :=
  match s with
  | .arguments => { d with arguments := some value }
  | .config => { d with config := some value }

/-- An operand: the template, if there is none yet. -/
def operand (d : Draft) (t : Text) : Draft :=
  if d.template.isSome then { d with surplus := true } else { d with template := some t }

/-- A word that has no place. -/
def misplaced (d : Draft) : Draft := { d with surplus := true }

/-- The run that is asked for. Every word must have its place, and the template must be there. -/
def finish? (d : Draft) (c : Command) : Option Request :=
  match d.template with
  | some t => if d.surplus then none else some (.run ⟨c, t, d.arguments, d.config⟩)
  | none => none

/-- The words of a command. A divider has its place directly in front of the template or directly
behind it. -/
def read? (c : Command) (d : Draft) : List Word → Option Request
  | [] => d.finish? c
  | .divider :: .operand t :: rest =>
    read? c (if d.template.isSome then d.misplaced else d.operand t) rest
  | .divider :: rest => read? c d.misplaced rest
  | .operand t :: .divider :: rest =>
    read? c (if d.template.isSome then d.misplaced else d.operand t) rest
  | .operand t :: rest => read? c (d.operand t) rest
  | .order o :: _ => some (.order o)
  | .awaiting s :: .operand value :: rest => read? c (d.set s value) rest
  | .awaiting _ :: _ => none
  | .assigned s value :: rest => read? c (d.set s value) rest
  | .misused :: _ => none
  | .stranger :: rest => read? c d.misplaced rest

end Draft

namespace Command

/-- What the words behind a command ask for. -/
def request? (c : Command) (words : List Text) : Option Request := do
  Draft.read? c .empty (← c.level.readWords? words)

end Command

namespace Request

/-- The flags that are known in front of a command. -/
def level : Level := ⟨[.help, .version], []⟩

/-- What words ask for, each with its text. A word in front of the command that has no place spoils
the run of the command, but no order behind it. -/
def find? (surplus : Bool) : List (Word × Text) → Option Request
  | [] => none
  | (.operand t, _) :: rest => do
    let c ← Command.ofText? t
    match ← c.request? (rest.map Prod.snd) with
    | .order o => return .order o
    | .run i => if surplus then none else return .run i
  | (.order o, _) :: _ => some (.order o)
  | (.stranger, _) :: rest => find? true rest
  | _ => none

/-- What a command line asks for; `none` if it is refused. No word may shorten more than one of the
flags that are known in front of a command. -/
def ofWords? (words : List Text) : Option Request := do
  find? false ((← level.readWords? words).zip words)

end Request

end QueryTemplate.CommandLine
