import QueryTemplate.Compile
import QueryTemplate.Numeral
import QueryTemplate.Text
import QueryTemplate.Value

/-!
# JSON

Reports and tokens are written as JSON, and the arguments of a command line are read from it.
-/

namespace QueryTemplate

/-! ## JSON data -/

/-- JSON data. -/
inductive Json where
  /-- The word `null`. -/
  | null
  /-- A truth value. -/
  | bool (b : Bool)
  /-- A number without point and exponent. -/
  | int (i : Int)
  /-- Any other number. -/
  | float (x : Binary64)
  /-- A string. -/
  | text (t : Text)
  /-- An array. -/
  | array (items : List Json)
  /-- An object: its members in their order, no name twice. -/
  | object (members : List (Text × Json))
  deriving Inhabited

namespace Json

/-- An object with a member more. A member of a name that is there already keeps its place and gets
the new value. -/
def putMember (name : Text) (value : Json) : List (Text × Json) → List (Text × Json)
  | [] => [(name, value)]
  | (n, v) :: rest =>
    if n = name then (n, value) :: rest else (n, v) :: putMember name value rest

/-- The name of the only member of an object that stands for the skip marker. -/
def skipName : Text := "$skip".toList

/-- Whether JSON data counts as true in an object that stands for the skip marker: the word `true`,
and the number one however it is written. -/
def isTrue : Json → Bool
  | bool b => b
  | int i => i = 1
  | float x => x.bits = 0x3FF0000000000000
  | _ => false

/-- Whether the members are those of the object that stands for the skip marker. -/
def isSkipMarker : List (Text × Json) → Bool
  | [(name, value)] => name = skipName && value.isTrue
  | _ => false

mutual

/-- JSON data as a value. The object that stands for the skip marker becomes the marker wherever it
occurs; every other object becomes a mapping of its members in their order. -/
def toValue : Json → Value
  | null => .null
  | bool b => .bool b
  | int i => .int i
  | float x => .float x
  | text t => .text t
  | array items => .list (toValues items)
  | object members => if isSkipMarker members then .skip else .map (toEntries members)

/-- The items of an array as values. -/
def toValues : List Json → List Value
  | [] => []
  | j :: rest => toValue j :: toValues rest

/-- The members of an object as entries of a mapping. -/
def toEntries : List (Text × Json) → List (Value × Value)
  | [] => []
  | (name, j) :: rest => (.text name, toValue j) :: toEntries rest

end

end Json

/-!
## Writing JSON

JSON data is written with one item or member to a line, each level indented by two spaces.
Characters beyond ASCII stand for themselves.
-/

namespace Json

/-- A character inside a string. -/
def escapeChar (c : Char) : Text :=
  if c = '\x22' || c = '\\' then ['\\', c]
  else if c = '\n' then ['\\', 'n']
  else if c = '\r' then ['\\', 'r']
  else if c = '\t' then ['\\', 't']
  else if c.toNat = 0x08 then ['\\', 'b']
  else if c.toNat = 0x0C then ['\\', 'f']
  else if c.toNat < 0x20 then '\\' :: 'u' :: Hex.digits 4 c.toNat
  else [c]

/-- A string. -/
def quote (t : Text) : Text := '\x22' :: t.flatMap escapeChar ++ ['\x22']

/-- The break in front of an item of a level. -/
def newLine (level : Nat) : Text := '\n' :: Text.filled (2 * level) ' '

/-- A number that is no integer. -/
def floatNumber (x : Binary64) : Text :=
  match x.reading with
  | .nan => "NaN".toList
  | .infinite negative => if negative then "-Infinity".toList else "Infinity".toList
  | .finite _ _ _ => x.text

mutual

/-- JSON data inside `level` levels of arrays and objects. -/
def pretty (level : Nat) : Json → Text
  | null => "null".toList
  | bool b => if b then "true".toList else "false".toList
  | int i => integerText i
  | float x => floatNumber x
  | text t => quote t
  | array [] => "[]".toList
  | array items => '[' :: prettyItems (level + 1) items ++ newLine level ++ [']']
  | object [] => ['{', '}']
  | object members => '{' :: prettyMembers (level + 1) members ++ newLine level ++ ['}']

/-- The items of an array, each on a line of its own. -/
def prettyItems (level : Nat) : List Json → Text
  | [] => []
  | [j] => newLine level ++ pretty level j
  | j :: rest => newLine level ++ pretty level j ++ ',' :: prettyItems level rest

/-- The members of an object, each on a line of its own. -/
def prettyMembers (level : Nat) : List (Text × Json) → Text
  | [] => []
  | [(name, j)] => newLine level ++ quote name ++ ": ".toList ++ pretty level j
  | (name, j) :: rest =>
    newLine level ++ quote name ++ ": ".toList ++ pretty level j ++ ',' :: prettyMembers level rest

end

end Json

/-- The options of a compilation. -/
def Options.toJson (o : Options) : Json :=
  .object
    [ ("numeric_coercion".toList, .text o.coercion.text),
      ("skip_outside_block".toList, .text o.skipOutsideBlock.text),
      ("validate_identifiers".toList, .bool o.validateIdentifiers) ]

/-- What is known of a query. -/
def Report.toJson (r : Report) : Json :=
  .object
    [ ("sql".toList, .text r.sql),
      ("template".toList, .text r.template),
      ("placeholders".toList, .int r.stats.placeholders),
      ("arguments".toList, .int r.arguments),
      ("blocks_emitted".toList, .int r.stats.blocksEmitted),
      ("blocks_suppressed".toList, .int r.stats.blocksSuppressed),
      ("options".toList, r.options.toJson) ]

/-- A token. -/
def Token.toJson (t : Token) : Json :=
  .object
    [ ("type".toList, .text t.lexeme.sort),
      ("value".toList, .text t.text),
      ("position".toList, .int t.position),
      ("kind".toList, match t.lexeme.kind? with
        | some k => .text k.text
        | none => .null) ]

/-- A template with its tokens. -/
def tokensToJson (template : Text) (tokens : List Token) : Json :=
  .object
    [ ("template".toList, .text template),
      ("tokens".toList, .array (tokens.map Token.toJson)) ]

/-!
## Reading JSON

A text is read from left to right, and the first place where it is no JSON is reported with its
position. Besides JSON's own numbers, the words for infinities and for no number are read. In an
object, the last member of a name counts. A reader of a part answers with what it read, the position
behind it, and the text that is left.
-/

/-- What is wrong at a place of a text that is no JSON. -/
inductive JsonProblem where
  | byteOrderMark
  | expectingValue
  | expectingName
  | expectingColon
  | expectingComma
  | extraData
  | unterminatedString
  | controlCharacter
  | invalidEscape
  | invalidUnicodeEscape
  deriving DecidableEq

/-- Why a text is no JSON. -/
inductive JsonError where
  /-- Something is wrong at a position. -/
  | at (position : Nat) (problem : JsonProblem)
  /-- An integer has more digits than the limit. -/
  | tooManyDigits (count : Nat)
  deriving DecidableEq

namespace JsonProblem

/-- The words for what is wrong. -/
def text : JsonProblem → Text
  | byteOrderMark => "Unexpected UTF-8 BOM (decode using utf-8-sig)".toList
  | expectingValue => "Expecting value".toList
  | expectingName => "Expecting property name enclosed in double quotes".toList
  | expectingColon => "Expecting ':' delimiter".toList
  | expectingComma => "Expecting ',' delimiter".toList
  | extraData => "Extra data".toList
  | unterminatedString => "Unterminated string starting at".toList
  | controlCharacter => "Invalid control character at".toList
  | invalidEscape => "Invalid \\escape".toList
  | invalidUnicodeEscape => "Invalid \\uXXXX escape".toList

end JsonProblem

/-- The line and the column of a position, both counted from one. -/
def lineAndColumn (t : Text) (position : Nat) : Nat × Nat :=
  let before := t.take position
  ((before.count '\n') + 1, (before.reverse.takeWhile (· ≠ '\n')).length + 1)

/-- The wording of an error in a text: a problem comes with its line, its column and its position.
-/
def JsonError.message (t : Text) : JsonError → Text
  | .at position problem =>
    let (line, column) := lineAndColumn t position
    problem.text ++ ": line ".toList ++ integerText line ++ " column ".toList ++
      integerText column ++ " (char ".toList ++ integerText position ++ [')']
  | .tooManyDigits count => digitCountMessage count

namespace Json

/-- Whether a character is a blank of JSON. -/
def isGap (c : Char) : Bool := c = ' ' || c = '\t' || c = '\n' || c = '\r'

/-- Skips blanks. -/
def skipGaps (pos : Nat) (t : Text) : Nat × Text :=
  let gaps := (t.takeWhile isGap).length
  (pos + gaps, t.drop gaps)

/-- The value of four hexadecimal digits at the start of a text. -/
def fourDigits? (t : Text) : Option Nat :=
  match t with
  | a :: b :: c :: d :: _ => do
    let a ← Hex.digitValue? a
    let b ← Hex.digitValue? b
    let c ← Hex.digitValue? c
    let d ← Hex.digitValue? d
    return ((a * 16 + b) * 16 + c) * 16 + d
  | _ => none

/-- Whether a number is the first half of a pair that stands for one character. -/
def isHighHalf (n : Nat) : Bool := 0xD800 ≤ n && n ≤ 0xDBFF

/-- Whether a number is the second half of a pair that stands for one character. -/
def isLowHalf (n : Nat) : Bool := 0xDC00 ≤ n && n ≤ 0xDFFF

/-- The character of a number. A half that is left alone is none, and becomes the replacement
character. -/
def charOf (n : Nat) : Char := if n.isValidChar then Char.ofNat n else Char.ofNat 0xFFFD

/-- Whether a text begins with the escape of the second half of a pair. -/
def startsWithLowHalf (t : Text) : Bool :=
  t.take 2 = ['\\', 'u'] && (fourDigits? (t.drop 2)).any isLowHalf

/-- Whether a text, of which the first `skipped` characters do not count, holds the escape of a half
that is left alone. -/
def holdsLoneHalf : (skipped : Nat) → Text → Bool
  | _, [] => false
  | skipped + 1, _ :: rest => holdsLoneHalf skipped rest
  | 0, c :: rest =>
    if c ≠ '\\' then holdsLoneHalf 0 rest
    else if rest.head? ≠ some 'u' then holdsLoneHalf 1 rest
    else
      match fourDigits? (rest.drop 1) with
      | none => holdsLoneHalf 1 rest
      | some n =>
        if isHighHalf n && startsWithLowHalf (rest.drop 5) then holdsLoneHalf 11 rest
        else isHighHalf n || isLowHalf n || holdsLoneHalf 5 rest

/-- A character by its number, from behind the letter at `pos` on, and how many characters its
digits take. Two halves of a pair are one character. Something must follow the digits. -/
def unicodeEscape (pos : Nat) (t : Text) : Except JsonError (Char × Nat) :=
  if (t.drop 4).isEmpty then .error (.at pos .invalidUnicodeEscape)
  else
    match fourDigits? t with
    | none => .error (.at pos .invalidUnicodeEscape)
    | some n =>
      let behind := t.drop 4
      if isHighHalf n && !(behind.drop 6).isEmpty && behind.take 2 = ['\\', 'u'] then
        match fourDigits? (behind.drop 2) with
        | none => .error (.at (pos + 6) .invalidUnicodeEscape)
        | some m =>
          if isLowHalf m then .ok (charOf (0x10000 + (n - 0xD800) * 0x400 + (m - 0xDC00)), 10)
          else .ok (charOf n, 4)
      else .ok (charOf n, 4)

/-- The character that a letter behind a backslash stands for. -/
def simpleEscape? (c : Char) : Option Char :=
  let table : List (Char × Nat) :=
    [('\x22', 0x22), ('\\', 0x5C), ('/', 0x2F), ('b', 0x08), ('f', 0x0C), ('n', 0x0A), ('r', 0x0D),
      ('t', 0x09)]
  (table.lookup c).map Char.ofNat

/-- A string from position `pos` on, up to its closing quote; the string began at `start`. -/
def string (start pos : Nat) (t : Text) : Except JsonError (Text × Nat × Text) :=
  match t with
  | [] => .error (.at start .unterminatedString)
  | c :: rest =>
    if c = '\x22' then .ok ([], pos + 1, rest)
    else if c = '\\' then
      match rest with
      | [] => .error (.at start .unterminatedString)
      | e :: more =>
        if e = 'u' then
          match unicodeEscape (pos + 1) more with
          | .error error => .error error
          | .ok (ch, width) =>
            (string start (pos + 2 + width) (more.drop width)).map fun (s, p, left) =>
              (ch :: s, p, left)
        else
          match simpleEscape? e with
          | some ch => (string start (pos + 2) more).map fun (s, p, left) => (ch :: s, p, left)
          | none => .error (.at pos .invalidEscape)
    else if c.toNat ≤ 0x1F then .error (.at pos .controlCharacter)
    else (string start (pos + 1) rest).map fun (s, p, left) => (c :: s, p, left)
termination_by t.length
decreasing_by all_goals simp; try omega

/-- Whether a character is an ASCII digit. -/
def isAsciiDigit (c : Char) : Bool := '0' ≤ c && c ≤ '9'

/-- The digits before the point: a single zero, or digits that do not start with a zero. -/
def wholeDigits (t : Text) : Text :=
  match t with
  | '0' :: _ => ['0']
  | _ => t.takeWhile isAsciiDigit

/-- A point with digits behind it. -/
def fractionPart (t : Text) : Text :=
  match t with
  | '.' :: rest =>
    let digits := rest.takeWhile isAsciiDigit
    if digits.isEmpty then [] else '.' :: digits
  | _ => []

/-- A letter for an exponent with digits behind it. -/
def exponentPart (t : Text) : Text :=
  match t with
  | c :: rest =>
    let (sign, behind) := Numeral.splitSign rest
    let digits := behind.takeWhile isAsciiDigit
    if (c = 'e' || c = 'E') && !digits.isEmpty then c :: sign.toList ++ digits else []
  | [] => []

/-- A number at position `pos`. -/
def number (pos : Nat) (t : Text) : Except JsonError (Json × Nat × Text) :=
  let sign := if t.head? = some '-' then ['-'] else []
  let behindSign := t.drop sign.length
  let whole := wholeDigits behindSign
  if whole.isEmpty then .error (.at pos .expectingValue)
  else
    let behindWhole := behindSign.drop whole.length
    let fraction := fractionPart behindWhole
    let behindFraction := behindWhole.drop fraction.length
    let exponent := exponentPart behindFraction
    let written := sign ++ whole ++ fraction ++ exponent
    let left := behindFraction.drop exponent.length
    if fraction.isEmpty && exponent.isEmpty then
      if digitLimit < whole.length then .error (.tooManyDigits whole.length)
      else
        let n : Int := Digits.value whole
        .ok (.int (if sign.isEmpty then n else -n), pos + written.length, left)
    else
      match Numeral.readAll? written with
      | some (n, _) => .ok (.float n.toBinary64, pos + written.length, left)
      | none => .error (.at pos .expectingValue)

/-- The words that stand for data. -/
def words : List (Text × Json) :=
  [("null".toList, .null), ("true".toList, .bool true), ("false".toList, .bool false),
    ("NaN".toList, .float .nan), ("Infinity".toList, .float (.infinity false)),
    ("-Infinity".toList, .float (.infinity true))]

/-- The word at the start of a text. -/
def word? (t : Text) : Option (Text × Json) := words.find? fun w => w.1.isPrefixOf t

/-- A scalar at position `pos`. -/
def scalar (pos : Nat) (t : Text) : Except JsonError (Json × Nat × Text) :=
  match word? t with
  | some (w, j) => .ok (j, pos + w.length, t.drop w.length)
  | none => number pos t

mutual

/-- JSON data at position `pos`, behind blanks. -/
def value (fuel pos : Nat) (t : Text) : Except JsonError (Json × Nat × Text) :=
  match fuel with
  | 0 => .error (.at pos .expectingValue)
  | fuel + 1 =>
    match t with
    | '\x22' :: rest => (string pos (pos + 1) rest).map fun (s, p, left) => (.text s, p, left)
    | '[' :: rest =>
      let (pos, rest) := skipGaps (pos + 1) rest
      match rest with
      | ']' :: left => .ok (.array [], pos + 1, left)
      | _ => (items fuel pos rest).map fun (js, p, left) => (.array js, p, left)
    | '{' :: rest =>
      let (pos, rest) := skipGaps (pos + 1) rest
      match rest with
      | '}' :: left => .ok (.object [], pos + 1, left)
      | _ => (members fuel pos rest []).map fun (ms, p, left) => (.object ms, p, left)
    | [] => .error (.at pos .expectingValue)
    | _ => scalar pos t

/-- The items of an array, up to its closing bracket. -/
def items (fuel pos : Nat) (t : Text) : Except JsonError (List Json × Nat × Text) :=
  match fuel with
  | 0 => .error (.at pos .expectingValue)
  | fuel + 1 => do
    let (item, pos, t) ← value fuel pos t
    let (pos, t) := skipGaps pos t
    match t with
    | ']' :: left => return ([item], pos + 1, left)
    | ',' :: rest =>
      let (pos, rest) := skipGaps (pos + 1) rest
      let (more, pos, left) ← items fuel pos rest
      return (item :: more, pos, left)
    | _ => .error (.at pos .expectingComma)

/-- The members of an object, up to its closing brace; `done` are those in front. -/
def members (fuel pos : Nat) (t : Text) (done : List (Text × Json)) :
    Except JsonError (List (Text × Json) × Nat × Text) :=
  match fuel with
  | 0 => .error (.at pos .expectingName)
  | fuel + 1 =>
    match t with
    | '\x22' :: rest => do
      let (name, pos, t) ← string pos (pos + 1) rest
      let (pos, t) := skipGaps pos t
      match t with
      | ':' :: rest =>
        let (pos, rest) := skipGaps (pos + 1) rest
        let (v, pos, t) ← value fuel pos rest
        let (pos, t) := skipGaps pos t
        let done := putMember name v done
        match t with
        | '}' :: left => return (done, pos + 1, left)
        | ',' :: rest =>
          let (pos, rest) := skipGaps (pos + 1) rest
          members fuel pos rest done
        | _ => .error (.at pos .expectingComma)
      | _ => .error (.at pos .expectingColon)
    | _ => .error (.at pos .expectingName)

end

/-- A text as JSON data. Every step of the reading takes a character, so the fuel lasts. -/
def parse (t : Text) : Except JsonError Json :=
  if t.head?.map Char.toNat = some 0xFEFF then .error (.at 0 .byteOrderMark)
  else do
    let (pos, rest) := skipGaps 0 t
    let (j, pos, rest) ← value (2 * t.length + 2) pos rest
    let (pos, rest) := skipGaps pos rest
    if rest.isEmpty then return j else .error (.at pos .extraData)

end Json

end QueryTemplate
