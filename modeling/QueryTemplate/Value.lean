import QueryTemplate.Binary64
import QueryTemplate.Text

/-!
# Argument values

An argument of a query is a value of one dynamic type. What matters for a query is not how the value
is stored but its shape: a tuple is a list, and so is a mapping whose keys count up from zero in the
order of its entries. Every rule about arguments is therefore stated on shapes.
-/

namespace QueryTemplate

/-- A member of a closed choice of texts: the choice's name, the member's name, and the text it
stands for. -/
structure Member where
  /-- The name of the choice. -/
  choice : Text
  /-- The name of the member. -/
  name : Text
  /-- The text that the member stands for. -/
  value : Text
  deriving DecidableEq

/-- An object of a type that is not known here. What is seen of it is the name of its type, what it
shows inside a message, and what it is written as where it is a key. An object that would have to
show or to write an integer beyond the digit limit has no such text. -/
structure Foreign where
  /-- The name of the type. -/
  typeName : Text
  /-- What the object shows inside a message. -/
  shown? : Option Text
  /-- What the object is written as. -/
  written? : Option Text
  /-- Whether the object says nothing, as an empty collection does. -/
  isSilent : Bool
  /-- Which object it is: two objects are equal if they have the same number. -/
  identity : Nat
  deriving DecidableEq, Inhabited

/-- A value that may be given for a placeholder or for a setting. -/
inductive Value where
  /-- The null value. -/
  | null
  /-- A truth value. -/
  | bool (b : Bool)
  /-- An integer of any size. -/
  | int (i : Int)
  /-- A number of the binary64 format. -/
  | float (x : Binary64)
  /-- A text. -/
  | text (t : Text)
  /-- A list. -/
  | list (items : List Value)
  /-- A list of a fixed length. -/
  | tuple (items : List Value)
  /-- A mapping; its entries have an order. -/
  | map (entries : List (Value × Value))
  /-- A mapping whose order is part of its meaning. -/
  | orderedMap (entries : List (Value × Value))
  /-- The marker that drops the conditional block around its placeholder. -/
  | skip
  /-- A sequence of octets. -/
  | bytes (octets : List UInt8)
  /-- A member of a closed choice of texts, which is a text as well. -/
  | member (m : Member)
  /-- A member of any other closed choice: the choice's name, the member's name, and the value it
  stands for. It is no such value itself. -/
  | constant (choice name : Text) (value : Value)
  /-- An object of some other type. -/
  | foreign (o : Foreign)
  deriving Inhabited

/-- What a value is for a query. -/
inductive Shape where
  /-- Null. -/
  | null
  /-- A truth value. -/
  | bool (b : Bool)
  /-- An integer. -/
  | int (i : Int)
  /-- A number of the binary64 format. -/
  | float (x : Binary64)
  /-- A text. -/
  | text (t : Text)
  /-- A text that is a member of a closed choice. It is written as its name where it stands alone,
  and counts by its characters everywhere else. -/
  | member (m : Member)
  /-- A list of items. -/
  | items (items : List Value)
  /-- Pairs of a key and a value. -/
  | entries (entries : List (Value × Value))
  /-- The skip marker. -/
  | skip
  /-- Nothing a query can hold; only the name of the type is kept. -/
  | unsupported (typeName : Text)

/-- The kinds of shapes. -/
inductive Kind where
  | null | bool | int | float | string | list | assoc | skip | unsupported
  deriving DecidableEq

namespace Value

/-- Whether the keys of a mapping are the integers `n`, `n + 1` and so on in the order of the
entries. A truth value or a number with a point is no such key, even if it equals one. -/
def isPositionalFrom (n : Int) : List (Value × Value) → Bool
  | [] => true
  | (.int i, _) :: rest => i = n && isPositionalFrom (n + 1) rest
  | _ :: _ => false

/-- Whether a mapping has keys other than the positions of its entries. -/
def isAssociative (entries : List (Value × Value)) : Bool := !isPositionalFrom 0 entries

/-- The shape of a mapping. -/
def shapeOfEntries (entries : List (Value × Value)) : Shape :=
  if isAssociative entries then .entries entries else .items (entries.map (·.2))

/-- What a value is for a query. -/
def shape : Value → Shape
  | null => .null
  | bool b => .bool b
  | int i => .int i
  | float x => .float x
  | text t => .text t
  | list xs => .items xs
  | tuple xs => .items xs
  | map es => shapeOfEntries es
  | orderedMap es => shapeOfEntries es
  | skip => .skip
  | bytes _ => .unsupported "bytes".toList
  | member m => .member m
  | constant choice _ _ => .unsupported choice
  | foreign o => .unsupported o.typeName

/-- The characters of a value that is a text. -/
def asText? : Value → Option Text
  | text t => some t
  | member m => some m.value
  | _ => none

theorem shapeOfEntries_ne_text (entries : List (Value × Value)) (t : Text) :
    shapeOfEntries entries ≠ .text t := by
  unfold shapeOfEntries
  split <;> simp

theorem shapeOfEntries_ne_member (entries : List (Value × Value)) (m : Member) :
    shapeOfEntries entries ≠ .member m := by
  unfold shapeOfEntries
  split <;> simp

/-- Only a text has the shape of one, -/
theorem shape_eq_text_iff {v : Value} {t : Text} : v.shape = .text t ↔ v = .text t := by
  cases v <;> simp [shape, shapeOfEntries_ne_text]

/-- and only a member of a choice of texts the shape of one. -/
theorem shape_eq_member_iff {v : Value} {m : Member} : v.shape = .member m ↔ v = .member m := by
  cases v <;> simp [shape, shapeOfEntries_ne_member]

/-- Whether a value is the skip marker. -/
def isSkip : Value → Bool
  | skip => true
  | _ => false

end Value

namespace Kind

/-- The name of a kind. -/
def text : Kind → Text
  | null => "null".toList
  | bool => "bool".toList
  | int => "int".toList
  | float => "float".toList
  | string => "string".toList
  | list => "list".toList
  | assoc => "assoc".toList
  | skip => "skip".toList
  | unsupported => "unsupported".toList

end Kind

namespace Shape

/-- The kind of a shape. -/
def kind : Shape → Kind
  | null => .null
  | bool _ => .bool
  | int _ => .int
  | float _ => .float
  | text _ | member _ => .string
  | items _ => .list
  | entries _ => .assoc
  | skip => .skip
  | unsupported _ => .unsupported

/-- The name of a shape in messages: that of its kind, or of its type if it is of no kind. -/
def describe : Shape → Text
  | unsupported typeName => typeName
  | s => s.kind.text

end Shape

namespace Value

/-- The kind of a value. -/
def kind (v : Value) : Kind := v.shape.kind

/-- The name of a value's kind in messages. -/
def describe (v : Value) : Text := v.shape.describe

/-- The items of a list in their order; nothing for any other value. -/
def items (v : Value) : List Value :=
  match v.shape with
  | .items xs => xs
  | _ => []

/-- The entries of a mapping; `none` for any other value. -/
def entries? : Value → Option (List (Value × Value))
  | map es => some es
  | orderedMap es => some es
  | _ => none

end Value

/-!
## Values shown in messages

A value inside a message is shown on one line: texts in quotes, lists in brackets, tuples in
parentheses, mappings as pairs in braces. A value that holds an integer beyond the digit limit
cannot be shown, and neither can an object of another type that would show one.
-/

namespace Value

/-- The name of a value's type. -/
def typeName : Value → Text
  | null => "NoneType".toList
  | bool _ => "bool".toList
  | int _ => "int".toList
  | float _ => "float".toList
  | text _ => "str".toList
  | list _ => "list".toList
  | tuple _ => "tuple".toList
  | map _ => "dict".toList
  | orderedMap _ => "OrderedDict".toList
  | skip => "SkipMarker".toList
  | bytes _ => "bytes".toList
  | member m => m.choice
  | constant choice _ _ => choice
  | foreign o => o.typeName

end Value

namespace Display

/-- The texts with a comma and a space between neighbours. -/
def commaList (ts : List Text) : Text := Text.joined ", ".toList ts

/-- A list. -/
def bracketed (ts : List Text) : Text := '[' :: commaList ts ++ [']']

/-- A tuple; a single item is followed by a comma. -/
def parenthesised : List Text → Text
  | [t] => '(' :: t ++ ",)".toList
  | ts => '(' :: commaList ts ++ [')']

/-- A mapping. -/
def braced (pairs : List (Text × Text)) : Text :=
  '{' :: commaList (pairs.map fun p => p.1 ++ ": ".toList ++ p.2) ++ ['}']

/-- A mapping whose order is part of its meaning. -/
def orderedPairs (pairs : List (Text × Text)) : Text :=
  if pairs.isEmpty then "OrderedDict()".toList
  else
    "OrderedDict(".toList ++ bracketed (pairs.map fun p => parenthesised [p.1, p.2]) ++ [')']

/-- A truth value. -/
def truth (b : Bool) : Text := if b then "True".toList else "False".toList

/-- The name of a member of a choice. -/
def qualifiedName (choice name : Text) : Text := choice ++ '.' :: name

/-- A member of a choice with what it stands for. -/
def choiceMember (choice name value : Text) : Text :=
  '<' :: qualifiedName choice name ++ ": ".toList ++ value ++ ['>']

/-- The name of a member of a choice of texts. -/
def memberName (m : Member) : Text := qualifiedName m.choice m.name

/-- A member of a choice of texts. -/
def member (m : Member) : Text := choiceMember m.choice m.name (quoted m.value)

end Display

namespace Value

mutual

/-- The value on one line; `none` if it cannot be shown. -/
def display? : Value → Option Text
  | null => some "None".toList
  | bool b => some (Display.truth b)
  | int i => integerText? i
  | float x => some x.text
  | text t => some (quoted t)
  | list xs => (displayAll? xs).map Display.bracketed
  | tuple xs => (displayAll? xs).map Display.parenthesised
  | map es => (displayEntries? es).map Display.braced
  | orderedMap es => (displayEntries? es).map Display.orderedPairs
  | skip => some "SKIP".toList
  | bytes bs => some (quotedBytes bs)
  | member m => some (Display.member m)
  | constant choice name v => (display? v).map (Display.choiceMember choice name)
  | foreign o => o.shown?

/-- The items of a list, each on one line. -/
def displayAll? : List Value → Option (List Text)
  | [] => some []
  | v :: rest => do
    let t ← display? v
    let ts ← displayAll? rest
    return t :: ts

/-- The entries of a mapping, each key and value on one line. -/
def displayEntries? : List (Value × Value) → Option (List (Text × Text))
  | [] => some []
  | (k, v) :: rest => do
    let kt ← display? k
    let vt ← display? v
    let ts ← displayEntries? rest
    return (kt, vt) :: ts

end

/-- What a key of a mapping is written as: a text as itself, a member of a choice as its name, an
object of another type as it wants to be, and any other value as it is shown. -/
def keyText? : Value → Option Text
  | text t => some t
  | member m => some (Display.memberName m)
  | constant choice name _ => some (Display.qualifiedName choice name)
  | foreign o => o.written?
  | v => v.display?

end Value

/-!
## Equal values

Numbers are equal by their value, whatever their type, and the truth values count as one and zero.
Texts are equal by their characters, lists and tuples item by item, and mappings if they have the
same entries; where the order is part of the meaning of both, it counts. Nothing else is equal to a
value of another type. Two keys of a mapping are one key if they are equal.
-/

namespace Value

/-- The exact number `m · 2 ^ e` that a value is, as the pair of `m` and `e`. -/
def number? : Value → Option (Int × Int)
  | bool b => some (if b then 1 else 0, 0)
  | int i => some (i, 0)
  | float x =>
    match x.reading with
    | .finite negative m e => some (if negative then -(m : Int) else m, e)
    | _ => none
  | _ => none

/-- Whether `m · 2 ^ e` and `n · 2 ^ f` are equal. -/
def sameNumber (a b : Int × Int) : Bool :=
  if a.2 ≤ b.2 then a.1 = b.1 * (1 <<< (b.2 - a.2).toNat : Nat)
  else a.1 * (1 <<< (a.2 - b.2).toNat : Nat) = b.1

/-- Whether a value is the infinity of a sign. -/
def infinite? : Value → Option Bool
  | float x =>
    match x.reading with
    | .infinite negative => some negative
    | _ => none
  | _ => none

/-- Whether two values are equal as texts or as numbers. -/
def sameScalar (a b : Value) : Bool :=
  match a.asText?, b.asText? with
  | some s, some t => s = t
  | _, _ =>
    match a.number?, b.number? with
    | some m, some n => sameNumber m n
    | _, _ => a.infinite?.isSome && a.infinite? = b.infinite?

mutual

/-- Whether two values are equal. -/
def equals : Value → Value → Bool
  | null, null => true
  | list xs, list ys => equalsAll xs ys
  | tuple xs, tuple ys => equalsAll xs ys
  | map es, map fs => es.length = fs.length && equalsEntries es fs
  | map es, orderedMap fs => es.length = fs.length && equalsEntries es fs
  | orderedMap es, map fs => es.length = fs.length && equalsEntries es fs
  | orderedMap es, orderedMap fs => equalsInOrder es fs
  | skip, skip => true
  | bytes s, bytes t => s = t
  | constant choice name _, constant choice' name' _ => choice = choice' && name = name'
  | foreign o, foreign o' => o.identity = o'.identity
  | a, b => sameScalar a b
termination_by structural a => a

/-- Whether two lists have equal items. -/
def equalsAll : List Value → List Value → Bool
  | [], [] => true
  | x :: xs, y :: ys => equals x y && equalsAll xs ys
  | _, _ => false
termination_by structural xs => xs

/-- Whether each of some entries equals one of the others. -/
def equalsEntries : List (Value × Value) → List (Value × Value) → Bool
  | [], _ => true
  | (k, v) :: rest, fs => fs.any (fun f => equals k f.1 && equals v f.2) && equalsEntries rest fs
termination_by structural es => es

/-- Whether two lists have equal entries. -/
def equalsInOrder : List (Value × Value) → List (Value × Value) → Bool
  | [], [] => true
  | (k, v) :: rest, (k', v') :: rest' => equals k k' && equals v v' && equalsInOrder rest rest'
  | _, _ => false
termination_by structural es => es

end

end Value

/-- A mapping with an entry more. Where its key is there already, the entry keeps its place and its
key and gets the new value. -/
def putEntry (key value : Value) : List (Value × Value) → List (Value × Value)
  | [] => [(key, value)]
  | (k, v) :: rest =>
    if k.equals key then (k, value) :: rest else (k, v) :: putEntry key value rest

/-- Whether a mapping has a key. -/
def hasKey (key : Value) (entries : List (Value × Value)) : Bool :=
  entries.any fun e => e.1.equals key

end QueryTemplate
