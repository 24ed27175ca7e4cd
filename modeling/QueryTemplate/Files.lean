import QueryTemplate.Text

/-!
# Files and what they hold

Files are found by their paths and hold octets, which are texts if they are UTF-8.
-/

namespace QueryTemplate

/-!
## Texts from UTF-8 octets

Octets are read one at a time. The first octet of a character says how many follow and bounds the
second one, so that no character has two encodings and no surrogate has any. The first octet that
fits nowhere ends the reading with a fault, which names the octets of the broken character.
-/

namespace Utf8

/-- Why octets are no text. -/
inductive Problem where
  /-- No character starts with this octet. -/
  | startByte
  /-- An octet does not continue the character it stands in. -/
  | continuation
  /-- The octets end inside a character. -/
  | endOfData
  deriving DecidableEq

/-- Where and why octets are no text. -/
structure Fault where
  /-- The first octet of the broken character. -/
  first : UInt8
  /-- The position of that octet. -/
  start : Nat
  /-- The position behind the last octet that belongs to the broken character. -/
  stop : Nat
  /-- What is wrong. -/
  problem : Problem
  deriving DecidableEq

namespace Fault

/-- The words for what is wrong. -/
def reason (f : Fault) : Text :=
  match f.problem with
  | .startByte => "invalid start byte".toList
  | .continuation => "invalid continuation byte".toList
  | .endOfData => "unexpected end of data".toList

/-- The wording of a fault: the octet and its position, or the range of positions. -/
def message (f : Fault) : Text :=
  "'utf-8' codec can't decode ".toList ++
    (if f.stop = f.start + 1 then
      "byte 0x".toList ++ Hex.digits 2 f.first.toNat ++ " in position ".toList ++
        integerText f.start
    else
      "bytes in position ".toList ++ integerText f.start ++
        '-' :: integerText (f.stop - 1 : Nat)) ++
    ": ".toList ++ f.reason

end Fault

/-- A character under way. -/
structure Pending where
  /-- The first octet. -/
  first : UInt8
  /-- The position of the first octet. -/
  start : Nat
  /-- The bits read so far. -/
  bits : Nat
  /-- The count of octets still owed; never zero. -/
  owed : Nat
  /-- The least octet that may come next. -/
  low : Nat
  /-- The greatest octet that may come next. -/
  high : Nat

/-- The character that starts with an octet of more than one, if there is any. -/
def pending? (pos : Nat) (b : UInt8) : Option Pending :=
  let n := b.toNat
  if 0xC2 ≤ n && n ≤ 0xDF then some ⟨b, pos, n % 0x20, 1, 0x80, 0xBF⟩
  else if 0xE0 ≤ n && n ≤ 0xEF then
    some ⟨b, pos, n % 0x10, 2, if n = 0xE0 then 0xA0 else 0x80, if n = 0xED then 0x9F else 0xBF⟩
  else if 0xF0 ≤ n && n ≤ 0xF4 then
    some ⟨b, pos, n % 0x08, 3, if n = 0xF0 then 0x90 else 0x80, if n = 0xF4 then 0x8F else 0xBF⟩
  else none

/-- Reads octets from position `pos` on, possibly inside a character. -/
def decodeFrom (pos : Nat) : Option Pending → List UInt8 → Except Fault Text
  | none, [] => .ok []
  | some p, [] => .error ⟨p.first, p.start, pos, .endOfData⟩
  | none, b :: rest =>
    if b.toNat < 0x80 then do
      return Char.ofNat b.toNat :: (← decodeFrom (pos + 1) none rest)
    else
      match pending? pos b with
      | none => .error ⟨b, pos, pos + 1, .startByte⟩
      | some p => decodeFrom (pos + 1) (some p) rest
  | some p, b :: rest =>
    if p.low ≤ b.toNat && b.toNat ≤ p.high then
      let bits := p.bits * 0x40 + b.toNat % 0x40
      if p.owed = 1 then do
        return Char.ofNat bits :: (← decodeFrom (pos + 1) none rest)
      else
        decodeFrom (pos + 1) (some { p with bits, owed := p.owed - 1, low := 0x80, high := 0xBF })
          rest
    else .error ⟨p.first, p.start, pos, .continuation⟩

/-- Octets as a text. -/
def decode (octets : List UInt8) : Except Fault Text := decodeFrom 0 none octets

end Utf8

/-- A text with every line break, a carriage return with or without a line feed, as a line feed. -/
def unifyBreaks : Text → Text
  | [] => []
  | '\r' :: '\n' :: rest => '\n' :: unifyBreaks rest
  | '\r' :: rest => '\n' :: unifyBreaks rest
  | c :: rest => c :: unifyBreaks rest

/-!
## Paths of files

A path is its parts. Slashes in a row count as one, parts that are a single point say nothing, and
parts of two points are kept, since what they mean depends on the directories. A path that starts
with a slash is absolute; exactly two slashes at the start are kept apart from one.
-/

/-- A path by its parts. -/
structure Path where
  /-- The slashes that an absolute path starts with. -/
  root : Text
  /-- The parts between the slashes. -/
  parts : List Text
  deriving DecidableEq

namespace Path

/-- The parts of a text between occurrences of a character. -/
def splitAt (sep : Char) : Text → List Text
  | [] => [[]]
  | c :: rest =>
    if c = sep then [] :: splitAt sep rest
    else
      match splitAt sep rest with
      | [] => [[c]]
      | part :: more => (c :: part) :: more

/-- Whether a part says nothing. -/
def isSilent (part : Text) : Bool := part.isEmpty || part = ['.']

/-- The path that a text names. -/
def ofText (t : Text) : Path where
  root :=
    match (t.takeWhile (· = '/')).length with
    | 0 => []
    | 2 => ['/', '/']
    | _ => ['/']
  parts := (splitAt '/' t).filter fun part => !isSilent part

/-- The text of a path; the path of nothing is a single point. -/
def text (p : Path) : Text :=
  if p.root.isEmpty && p.parts.isEmpty then ['.'] else p.root ++ Text.joined ['/'] p.parts

/-- The path of something in the directory of this path. -/
def child (p : Path) (name : Text) : Path := { p with parts := p.parts ++ [name] }

end Path

/-!
## Files

What a program sees of the files is what looking up a path gives. A tree of files under one
directory answers look-ups the way a file system does: every part but the last must be a directory,
and two points go up.
-/

/-- What a path leads to. -/
inductive Lookup where
  /-- No file; there may be a directory. -/
  | missing
  /-- A name that no file can have, for its length. -/
  | nameTooLong
  /-- A file with these octets. -/
  | file (octets : List UInt8)
  deriving DecidableEq

/-- The files that can be seen. -/
structure Files where
  /-- What a path leads to. -/
  lookup : Path → Lookup

/-- Why the text of a file cannot be had. -/
inductive ReadError where
  /-- There is no such file. -/
  | missing (path : Path)
  /-- A name in the path is too long. -/
  | nameTooLong (path : Path)
  /-- The octets of the file are no text. -/
  | encoding (fault : Utf8.Fault)
  deriving DecidableEq

namespace ReadError

/-- The wording of an error that is reported for the path itself. -/
def nameTooLongMessage (path : Path) : Text :=
  "[Errno 36] File name too long: ".toList ++ quoted path.text

end ReadError

namespace Files

/-- Whether a path leads to a file. -/
def isFile (fs : Files) (p : Path) : Bool :=
  match fs.lookup p with
  | .file _ => true
  | _ => false

/-- The text of a file, with every line break as a line feed. -/
def readText (fs : Files) (p : Path) : Except ReadError Text :=
  match fs.lookup p with
  | .missing => .error (.missing p)
  | .nameTooLong => .error (.nameTooLong p)
  | .file octets =>
    match Utf8.decode octets with
    | .ok t => .ok (unifyBreaks t)
    | .error fault => .error (.encoding fault)

end Files

/-- A file in a tree: its parts below the directory, and its octets. -/
structure Leaf where
  /-- The parts of the path from the directory on. -/
  parts : List Text
  /-- The octets of the file. -/
  octets : List UInt8
  deriving DecidableEq

/-- Files under one directory. -/
structure Tree where
  /-- The path of the directory. -/
  directory : Path
  /-- The files. -/
  leaves : List Leaf

namespace Tree

/-- The greatest count of octets in a name. -/
def nameLimit : Nat := 255

/-- The greatest count of octets in a path. -/
def pathLimit : Nat := 4095

/-- The count of octets of a text. -/
def octetCount (t : Text) : Nat := (t.map fun c => c.utf8Size).foldl (· + ·) 0

/-- Whether the parts lead to a directory: one that holds a file, or the directory of the tree. -/
def isDirectory (tree : Tree) (parts : List Text) : Bool :=
  parts.isEmpty || tree.leaves.any fun leaf =>
    parts.isPrefixOf leaf.parts && parts.length < leaf.parts.length

/-- Goes from a directory of the tree along the parts of a path. -/
def follow (tree : Tree) (here : List Text) : List Text → Lookup
  | [] =>
    match tree.leaves.find? (·.parts = here) with
    | some leaf => .file leaf.octets
    | none => .missing
  | part :: rest =>
    if !tree.isDirectory here then .missing
    else if nameLimit < octetCount part then .nameTooLong
    else if part = ['.', '.'] then
      if here.isEmpty then .missing else tree.follow here.dropLast rest
    else tree.follow (here ++ [part]) rest

/-- What a path leads to. An absolute path counts from the root of the file system, so only one that
goes through the directory of the tree leads anywhere. -/
def lookup (tree : Tree) (p : Path) : Lookup :=
  if p.text.contains '\x00' then .missing
  else if pathLimit < octetCount p.text then .nameTooLong
  else if p.root.isEmpty then tree.follow [] p.parts
  else if tree.directory.parts.isPrefixOf p.parts then
    tree.follow [] (p.parts.drop tree.directory.parts.length)
  else .missing

/-- The files of a tree. -/
def files (tree : Tree) : Files := ⟨tree.lookup⟩

end Tree

end QueryTemplate
