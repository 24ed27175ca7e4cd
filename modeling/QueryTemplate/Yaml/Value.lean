import QueryTemplate.Numeral
import QueryTemplate.Settings
import QueryTemplate.Text
import QueryTemplate.Value
import QueryTemplate.Yaml.Node
import QueryTemplate.Yaml.Scalar

/-!
# From a YAML tree to a value

A tree becomes a value by the tags and the types of its scalars.

This is the reader of YAML that the program uses. What is proved of options holds of any reader.
-/

namespace QueryTemplate.Yaml

/-!
## The types of plain scalars

A plain scalar without a tag is of the first type whose form it has: a truth value, a number with a
point, an integer, the sign of a merge, null; any other is a text. Integers may be binary, octal,
decimal or hexadecimal, and underscores between digits do not count.
-/

/-- The type of a plain scalar. -/
inductive Plain where
  | null | bool | int | float | merge | value | text
  deriving DecidableEq

/-- A text without the sign at its start. -/
def unsigned (t : Text) : Text := (Numeral.splitSign t).2

/-- Whether a text is not empty and all its characters satisfy `p` or are underscores. -/
def madeOf (p : Char → Bool) (t : Text) : Bool := !t.isEmpty && t.all fun c => p c || c = '_'

/-- Whether a character is an ASCII digit below `base`. -/
def isDigitBelow (base : Nat) (c : Char) : Bool :=
  match Hex.digitValue? c with
  | some d => d < base
  | none => false

/-- Whether a text has the form of an integer. -/
def isIntegerForm (t : Text) : Bool :=
  let starts := (t.head?.map fun c => Numeral.isSign c || isDigitBelow 10 c).getD false
  let body := unsigned t
  starts && (madeOf (isDigitBelow 10) body ||
    match body with
    | '0' :: 'b' :: digits => madeOf (isDigitBelow 2) digits
    | '0' :: 'o' :: digits => madeOf (isDigitBelow 8) digits
    | '0' :: 'x' :: digits => madeOf (isDigitBelow 16) digits
    | _ => false)

/-- Whether a text is an exponent; `signed` says that it must have a sign. -/
def isExponentForm (signed : Bool) : Text → Bool
  | c :: rest =>
    let digits := unsigned rest
    (c = 'e' || c = 'E') && !digits.isEmpty && digits.all (isDigitBelow 10) &&
      (!signed || digits.length < rest.length)
  | [] => false

/-- Whether a text has the form of a number with a point or an exponent. -/
def isFloatForm (t : Text) : Bool :=
  let body := unsigned t
  let inDigits (c : Char) : Bool := isDigitBelow 10 c || c = '_'
  let behind := body.dropWhile inDigits
  let startsDigit := (body.head?.map (isDigitBelow 10)).getD false
  let words := [".nan".toList, ".NaN".toList, ".NAN".toList]
  let infinities := [".inf".toList, ".Inf".toList, ".INF".toList]
  words.contains t || infinities.contains body ||
    (if startsDigit then
      match behind with
      | '.' :: rest =>
        let ending := rest.dropWhile inDigits
        ending.isEmpty || isExponentForm false ending
      | _ => isExponentForm false behind
    else
      match body with
      | '.' :: rest =>
        let ending := rest.dropWhile inDigits
        ending.length < rest.length && (ending.isEmpty || isExponentForm true ending)
      | _ => false)

/-- Whether a text is one of the words for the truth values. -/
def isTruthForm (t : Text) : Bool :=
  ["true".toList, "True".toList, "TRUE".toList, "false".toList, "False".toList,
    "FALSE".toList].contains t

/-- Whether a text is one of the words for null, or nothing. -/
def isNullForm (t : Text) : Bool :=
  [[], "~".toList, "null".toList, "Null".toList, "NULL".toList].contains t

/-- The type of a plain scalar. -/
def plainType (t : Text) : Plain :=
  if isTruthForm t then .bool
  else if isFloatForm t then .float
  else if isIntegerForm t then .int
  else if t = "<<".toList then .merge
  else if isNullForm t then .null
  else if t = ['='] then .value
  else .text

/-- Whether a text starts with a minus sign. -/
def isNegative (t : Text) : Bool := t.head? = some '-'

/-- An integer in a base other than ten by its digits. -/
def digitsIn (base : Nat) (negative : Bool) (digits : Text) : Except Fault Value :=
  if digits.isEmpty || !digits.all (isDigitBelow base) then .error (.badInteger base digits)
  else
    let n := digits.foldl (fun n c => base * n + (Hex.digitValue? c).getD 0) 0
    .ok (.int (if negative then -(n : Int) else n))

/-- An integer by decimal digits of any script, which may have a further sign and blanks around
them. -/
def decimalInteger (negative : Bool) (t : Text) : Except Fault Value :=
  match Numeral.readAll? t with
  | some (n, _) =>
    if !n.isInteger then .error (.badInteger 10 t)
    else if digitLimit < n.whole.length then .error (.tooManyDigits n.whole.length)
    else
      let size : Int := Digits.value n.whole
      .ok (.int (if negative = n.isNegative then size else -size))
  | none => .error (.badInteger 10 t)

/-- A scalar as an integer. -/
def integerValue (t : Text) : Except Fault Value :=
  let t := t.filter (· ≠ '_')
  if t.isEmpty then .error .emptyNumber
  else
    let negative := isNegative t
    match unsigned t with
    | '0' :: 'b' :: digits => digitsIn 2 negative digits
    | '0' :: 'x' :: digits => digitsIn 16 negative digits
    | '0' :: 'o' :: digits => digitsIn 8 negative digits
    | digits => decimalInteger negative digits

/-- The number that a word stands for; it may have a sign and blanks around it. -/
def wordNumber? (t : Text) : Option Binary64 :=
  let word := unsigned t.trim
  if word = "inf".toList || word = "infinity".toList then some (.infinity (isNegative t.trim))
  else if word = "nan".toList then some .nan
  else none

/-- A scalar as a number with a point. -/
def floatValue (t : Text) : Except Fault Value :=
  let t := (t.filter (· ≠ '_')).map Char.toLower
  let negative := isNegative t
  let body := unsigned t
  if t.isEmpty then .error .emptyNumber
  else if body = ".inf".toList then .ok (.float (.infinity negative))
  else if body = ".nan".toList then .ok (.float .nan)
  else
    match (Numeral.readAll? body).map (·.1.toBinary64) <|> wordNumber? body with
    | some x => .ok (.float (if negative then x.negated else x))
    | none => .error (.badFloat body)

/-- The words for the truth values, where a tag says that a scalar is one. -/
def truthWords : List (Text × Bool) :=
  [("yes".toList, true), ("no".toList, false), ("y".toList, true), ("n".toList, false),
    ("true".toList, true), ("false".toList, false), ("on".toList, true), ("off".toList, false)]

/-- A scalar as a truth value. -/
def truthValue (t : Text) : Except Fault Value :=
  let word := t.map Char.toLower
  match truthWords.lookup word with
  | some b => .ok (.bool b)
  | none => .error (.badTruth word)

/-!
## The value of a YAML text

A tree becomes a value by the tags and the types of its scalars. A mapping has no key twice. The
entry of a merge stands for the entries of the mapping, or of the mappings of the sequence, that it
is given; entries beside it override them. A collection inside itself is an object of its own, which
shows that it goes on.
-/

/-- How a reader of YAML fails with a fault. -/
def Fault.failure : Fault → YamlFailure
  | invalid => .notYaml invalid.message
  | noSuchCharacter => .badValue noSuchCharacter.message
  | badInteger base t => .badValue (badInteger base t).message
  | tooManyDigits count => .badValue (tooManyDigits count).message
  | badFloat t => .badValue (badFloat t).message
  | characterTooLarge => .unforeseen "OverflowError".toList characterTooLarge.message
  | unusableKey type => .unforeseen "TypeError".toList (unusableKey type).message
  | emptyNumber => .unforeseen "IndexError".toList emptyNumber.message
  | badTruth t => .unforeseen "KeyError".toList (badTruth t).message

/-- A tree whose merges are carried out. -/
inductive Merged where
  /-- A scalar. -/
  | scalar (tag : Option Text) (implicit : Bool) (text : Text)
  /-- A sequence. -/
  | sequence (tag : Option Text) (items : List Merged)
  /-- A mapping, and whether entries of another one have been merged into it. -/
  | mapping (tag : Option Text) (entries : List (Merged × Merged)) (joined : Bool)
  /-- A sequence or a mapping inside itself. -/
  | enclosing (type : CollectionType)
  deriving Inhabited

namespace Merged

/-- The full name of a standard tag. -/
def standard (name : String) : Text := Scanner.standardTag ++ name.toList

/-- Whether a key is the sign of a merge. -/
def isMergeSign : Merged → Bool
  | scalar tag implicit text =>
    tag = some (standard "merge") || implicit && plainType text = .merge
  | _ => false

/-- A key that is a lone equals sign is a text. -/
def asKey : Merged → Merged
  | scalar tag implicit text =>
    if implicit && plainType text = .value then .scalar tag false text
    else .scalar tag implicit text
  | n => n

/-- The entries of a mapping. A mapping inside itself has none to give. -/
def entries? : Merged → Option (List (Merged × Merged))
  | mapping _ entries _ => some entries
  | enclosing .mapping => some []
  | _ => none

/-- The entries that a merge stands for: of several mappings, the later ones come first, so that the
earlier ones override them. -/
def sources? : Merged → Option (List (Merged × Merged))
  | sequence _ items => (items.mapM entries?).map fun lists => lists.reverse.flatten
  | enclosing .sequence => some []
  | n => n.entries?

/-- The entries that the merges of a mapping stand for. Once there are some, no merge may follow. -/
def joinedEntries (found : List (Merged × Merged)) :
    List (Merged × Merged) → Option (List (Merged × Merged))
  | [] => some found
  | (key, source) :: rest =>
    if !key.isMergeSign then joinedEntries found rest
    else if found.isEmpty then source.sources?.bind fun more => joinedEntries more rest
    else none

/-- A mapping with the entries that its merges stand for in front of its own. -/
def ofEntries (tag : Option Text) (entries : List (Merged × Merged)) : Option Merged :=
  let own := (entries.filter fun e => !e.1.isMergeSign).map fun e => (e.1.asKey, e.2)
  (joinedEntries [] entries).map fun more => .mapping tag (more ++ own) !more.isEmpty

end Merged

namespace Node

mutual

/-- The tree with its merges carried out, from the leaves up. -/
def merged : Node → Option Merged
  | scalar tag implicit text => some (.scalar tag implicit text)
  | sequence tag items => (mergedItems items).map (.sequence tag)
  | mapping tag entries => (mergedEntries entries).bind (Merged.ofEntries tag)
  | enclosing type => some (.enclosing type)

/-- The items of a sequence with their merges carried out. -/
def mergedItems : List Node → Option (List Merged)
  | [] => some []
  | n :: rest => do return (← merged n) :: (← mergedItems rest)

/-- The entries of a mapping with the merges inside them carried out. -/
def mergedEntries : List (Node × Node) → Option (List (Merged × Merged))
  | [] => some []
  | (k, v) :: rest => do return (← merged k, ← merged v) :: (← mergedEntries rest)

end

end Node

namespace Merged

/-- The value of a scalar of the type that its text shows. -/
def plainValue (t : Text) : Except Fault Value :=
  match plainType t with
  | .null => .ok .null
  | .bool => truthValue t
  | .int => integerValue t
  | .float => floatValue t
  | .text => .ok (.text t)
  | .merge | .value => .error .invalid

/-- The value of a scalar by its tag. -/
def taggedValue (tag : Text) (t : Text) : Except Fault Value :=
  if tag = standard "str" then .ok (.text t)
  else if tag = standard "int" then integerValue t
  else if tag = standard "float" then floatValue t
  else if tag = standard "bool" then truthValue t
  else if tag = standard "null" then .ok .null
  else .error .invalid

/-- The value of a collection inside itself. -/
def enclosingValue : CollectionType → Value
  | .sequence => .foreign
    { typeName := (Value.list []).typeName, shown? := some "[...]".toList,
      written? := some "[...]".toList, isSilent := false, identity := 0 }
  | .mapping => .foreign
    { typeName := (Value.map []).typeName, shown? := some "\x7b...\x7d".toList,
      written? := some "\x7b...\x7d".toList, isSilent := false, identity := 1 }

/-- Whether a value is a list or a mapping. -/
def isCollection (v : Value) : Bool :=
  [(Value.list []).typeName, (Value.map []).typeName].contains v.typeName

/-- A value as a key. A list becomes a list of a fixed length; a mapping is no key. -/
def keyOf : Value → Except Fault Value
  | .list xs => .ok (.tuple xs)
  | v => if isCollection v then .error .invalid else .ok v

/-- That a list that is a key holds neither a list nor a mapping. -/
def checkKey : Value → Except Fault Unit
  | .tuple xs =>
    match xs.find? isCollection with
    | some x => .error (.unusableKey x.typeName)
    | none => .ok ()
  | _ => .ok ()

/-- The mapping of pairs in their order. Unless entries have been merged in, no key may come twice;
otherwise the last value of a key counts. -/
def mappingOf (joined : Bool) : List (Value × Value) → List (Value × Value) →
    Except Fault (List (Value × Value))
  | done, [] => .ok done
  | done, (k, v) :: rest =>
    if !joined && hasKey k done then .error .invalid else mappingOf joined (putEntry k v done) rest

mutual

/-- The value of a tree. -/
def value : Merged → Except Fault Value
  | scalar tag implicit text =>
    match tag with
    | some tag => taggedValue tag text
    | none => if implicit then plainValue text else .ok (.text text)
  | sequence tag items =>
    if tag.isNone || tag = some (standard "seq") then do return .list (← values items)
    else .error .invalid
  | mapping tag entries joined =>
    if tag.isNone || tag = some (standard "map") then do
      return .map (← mappingOf joined [] (← pairs entries))
    else .error .invalid
  | enclosing type => .ok (enclosingValue type)

/-- The values of the items of a sequence. -/
def values : List Merged → Except Fault (List Value)
  | [] => .ok []
  | n :: rest => do return (← value n) :: (← values rest)

/-- The keys and values of the entries of a mapping. -/
def pairs : List (Merged × Merged) → Except Fault (List (Value × Value))
  | [] => .ok []
  | (k, v) :: rest => do
    let key ← keyOf (← value k)
    let value ← value v
    checkKey key
    return (key, value) :: (← pairs rest)

end

end Merged

/-- The value of a text; a text without a document is null. -/
def load (t : Text) : Except Fault Value := do
  match ← document t with
  | none => return .null
  | some n => (← Scanner.orInvalid n.merged).value

/-- The value of a text, as a reader of YAML gives it. -/
def reader : YamlReader := fun t => (load t).mapError Fault.failure

end QueryTemplate.Yaml
