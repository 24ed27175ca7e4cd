import QueryTemplate.Text

/-!
# Characters and scalars of a YAML text

The characters of a YAML text are read together with their places. A scalar is what is left when the
quotes, the breaks and the indentation around it are taken away.
-/

namespace QueryTemplate.Yaml

/-!
## Why a YAML text gives no value

A text that is no YAML, or more than one document, is one fault, wherever it lies. The other faults
come from scalars that announce a type or a character and do not have it.
-/

/-- Why a text gives no value. -/
inductive Fault where
  /-- The text is no YAML, or no single document, or a mapping has a key twice. -/
  | invalid
  /-- A character is given by a number that no character has. -/
  | noSuchCharacter
  /-- A character is given by a number of more than 31 bits. -/
  | characterTooLarge
  /-- A list that is a key holds a value of this type, which cannot be part of a key. -/
  | unusableKey (type : Text)
  /-- A scalar of the type of integers is none in its base. -/
  | badInteger (base : Nat) (t : Text)
  /-- A scalar of a type of numbers is empty. -/
  | emptyNumber
  /-- An integer has more digits than the limit. -/
  | tooManyDigits (count : Nat)
  /-- A scalar of the type of numbers is none. -/
  | badFloat (t : Text)
  /-- A scalar of the type of truth values is none. -/
  | badTruth (t : Text)
  deriving DecidableEq

namespace Fault

/-- The wording of a fault. -/
def message : Fault → Text
  | invalid => "this is no single document".toList
  | noSuchCharacter => "chr() arg not in range(0x110000)".toList
  | characterTooLarge => "character number too large".toList
  | unusableKey type => "unhashable type: ".toList ++ quoted type
  | badInteger base t =>
    "invalid literal for int() with base ".toList ++ integerText base ++ ": ".toList ++ quoted t
  | emptyNumber => "string index out of range".toList
  | tooManyDigits count => digitCountMessage count
  | badFloat t => "could not convert string to float: ".toList ++ quoted t
  | badTruth t => quoted t

end Fault

/-!
## Characters of a YAML text with their places

Indentation carries meaning in YAML, so every character is read together with its line and its
column. A reader holds the marks that are left; the place where it stands is that of the first one.
Lines end with line feeds. The next-line character and the separators of lines and paragraphs count
as breaks between tokens and inside scalars, and yet they do not begin a line that has columns of
its own.
-/

/-- Whether a character is a break where breaks are skipped or folded. -/
def isBreak (c : Char) : Bool :=
  c = '\n' || c.toNat = 0x85 || c.toNat = 0x2028 || c.toNat = 0x2029

/-- Whether a character ends a comment, a line of a block, or a stretch of a plain scalar. The
separators of lines and paragraphs may stand in these. -/
def endsLine (c : Char) : Bool := c = '\n' || c.toNat = 0x85

/-- Whether a character is a blank inside a line. -/
def isSpace (c : Char) : Bool := c = ' ' || c = '\t'

/-- Whether a character is a byte order mark. -/
def isOrderMark (c : Char) : Bool := c.toNat = 0xFEFF

/-- Whether a character may stand in a YAML text at all. -/
def isAllowed (c : Char) : Bool :=
  let n := c.toNat
  n = 0x09 || n = 0x0A || (0x20 ≤ n && n ≤ 0x7E) || n = 0x85 ||
    (0xA0 ≤ n && n ≤ 0xD7FF) || (0xE000 ≤ n && n ≤ 0xFFFD) || 0x10000 ≤ n

/-- The break that a scalar keeps: the separators of lines and paragraphs stay themselves, every
other break is a line feed. -/
def keptBreak (c : Char) : Char := if c.toNat = 0x2028 || c.toNat = 0x2029 then c else '\n'

/-- A place in a text. -/
structure Place where
  /-- The count of characters before it. -/
  index : Nat
  /-- The count of line feeds before it. -/
  line : Nat
  /-- The count of characters before it in its line, byte order marks aside. -/
  column : Nat
  deriving DecidableEq

/-- The place behind a character. -/
def Place.next (p : Place) (c : Char) : Place :=
  if c = '\n' then ⟨p.index + 1, p.line + 1, 0⟩
  else if isOrderMark c then ⟨p.index + 1, p.line, p.column⟩
  else ⟨p.index + 1, p.line, p.column + 1⟩

/-- A character and its place. -/
structure Mark where
  /-- The character. -/
  char : Char
  /-- Where it stands. -/
  place : Place
  deriving DecidableEq

/-- The characters of a text whose first one stands at a place. -/
def marksFrom (p : Place) : Text → List Mark
  | [] => []
  | c :: rest => ⟨c, p⟩ :: marksFrom (p.next c) rest

/-- The characters of a text; a byte order mark at its start does not count. -/
def marks (t : Text) : List Mark :=
  marksFrom ⟨0, 0, 0⟩ (match t with
    | c :: rest => if isOrderMark c then rest else c :: rest
    | [] => [])

/-- The text of marks. -/
def textOf (ms : List Mark) : Text := ms.map Mark.char

/-- Whether the first mark is the character `c`. -/
def startsWith (c : Char) (ms : List Mark) : Bool := ms.head?.map Mark.char = some c

/-- Whether the marks start with a blank or the end of a line, or there are none. -/
def atGap : List Mark → Bool
  | [] => true
  | m :: _ => isSpace m.char || endsLine m.char

/-- Whether the marks start with three times the character `c` and nothing glued to them. -/
def atTriple (c : Char) : List Mark → Bool
  | a :: b :: d :: rest => a.char = c && b.char = c && d.char = c && atGap rest
  | _ => false

/-- Whether the marks start with what starts or ends a document. -/
def atSeparator (ms : List Mark) : Bool := atTriple '-' ms || atTriple '.' ms

/-- Whether the marks start a line. -/
def atLineStart : List Mark → Bool
  | [] => false
  | m :: _ => m.place.column = 0

/-- Blanks and breaks inside a scalar. -/
structure Gap where
  /-- The blanks before the first break. -/
  blanks : Text
  /-- Whether there is a break, or a line was continued. -/
  broken : Bool
  /-- The first break. -/
  leading : Option Char
  /-- The breaks behind the first one. -/
  trailing : Text

namespace Gap

/-- No gap. -/
def none : Gap := ⟨[], false, .none, []⟩

/-- The gap behind a break that was escaped. -/
def continued : Gap := ⟨[], true, .none, []⟩

/-- Whether there is no gap. -/
def isNone (g : Gap) : Bool := g.blanks.isEmpty && !g.broken

/-- A blank more. Behind a break, blanks are indentation and do not count. -/
def addBlank (g : Gap) (c : Char) : Gap :=
  if g.broken then g else { g with blanks := g.blanks ++ [c] }

/-- A break more. -/
def addBreak (g : Gap) (c : Char) : Gap :=
  if g.broken then { g with trailing := g.trailing ++ [keptBreak c] }
  else { blanks := [], broken := true, leading := some (keptBreak c), trailing := [] }

/-- What a gap folds to: blanks stay, a single line feed becomes a space, and of several breaks the
first line feed is dropped. -/
def text (g : Gap) : Text :=
  if !g.broken then g.blanks
  else if g.leading = some '\n' then
    if g.trailing.isEmpty then [' '] else g.trailing
  else g.leading.toList ++ g.trailing

end Gap

/-!
## Scalars of a YAML text

A scalar is written plain, in single or double quotes, or as a block of lines. Each reader takes the
marks behind what introduces the scalar and gives the scalar's text and the marks left, or nothing
where the text is no YAML.
-/

/-- Whether a character ends a plain scalar inside brackets. -/
def isFlowEnd (c : Char) : Bool := c = ',' || c = '[' || c = ']' || c = '{' || c = '}'

/-- Where a plain scalar stands. -/
structure PlainContext where
  /-- Whether it stands inside brackets. -/
  inFlow : Bool
  /-- The least column of its further lines. -/
  indent : Nat

namespace PlainContext

/-- Whether a character ends a stretch of a plain scalar, by what follows it. A colon with something
glued to it is part of the scalar. -/
def endsStretch (ctx : PlainContext) (c : Char) (rest : List Mark) : Bool :=
  isSpace c || endsLine c || (c = ':' && atGap rest) || (ctx.inFlow && isFlowEnd c)

/-- Whether a plain scalar does not go on behind a gap: at a comment, or at a line that is not
indented enough. -/
def stopsAt (ctx : PlainContext) (m : Mark) : Bool :=
  m.char = '#' || (!ctx.inFlow && m.place.column < ctx.indent)

end PlainContext

/-- A plain scalar from its first character or, with a gap, from a further one on. The middle part
of the result says whether a break was passed before the scalar turned out to have ended. A
tabulator ends the scalar wherever it stands. -/
def plainScalar (ctx : PlainContext) (gap : Gap) : List Mark → Text × Bool × List Mark
  | [] => ([], gap.broken, [])
  | m :: rest =>
    if m.char = ' ' then plainScalar ctx (gap.addBlank m.char) rest
    else if endsLine m.char || (!gap.isNone && isBreak m.char) then
      if atSeparator rest then ([], true, rest) else plainScalar ctx (gap.addBreak m.char) rest
    else if (!gap.isNone && ctx.stopsAt m) || ctx.endsStretch m.char rest then
      ([], gap.broken, m :: rest)
    else
      let (t, broken, left) := plainScalar ctx .none rest
      (gap.text ++ m.char :: t, broken, left)

/-- A scalar in single quotes, from behind the opening quote on. Two quotes stand for one. -/
def singleQuoted (gap : Gap) : List Mark → Option (Text × List Mark)
  | [] => none
  | m :: rest =>
    if isSpace m.char then singleQuoted (gap.addBlank m.char) rest
    else if isBreak m.char then
      if atSeparator rest then none else singleQuoted (gap.addBreak m.char) rest
    else if m.char = '\x27' then
      match rest with
      | [] => some (gap.text, [])
      | n :: more =>
        if n.char = '\x27' then
          (singleQuoted .none more).map fun (t, left) => (gap.text ++ '\x27' :: t, left)
        else some (gap.text, n :: more)
    else (singleQuoted .none rest).map fun (t, left) => (gap.text ++ m.char :: t, left)

/-- The character that a letter behind a backslash stands for. -/
def escape? (c : Char) : Option Char :=
  let table : List (Char × Nat) :=
    [('0', 0x00), ('a', 0x07), ('b', 0x08), ('t', 0x09), ('\t', 0x09), ('n', 0x0A), ('v', 0x0B),
      ('f', 0x0C), ('r', 0x0D), ('e', 0x1B), (' ', 0x20), ('\x22', 0x22), ('/', 0x2F),
      ('\\', 0x5C), ('N', 0x85), ('_', 0xA0), ('L', 0x2028), ('P', 0x2029)]
  (table.lookup c).map Char.ofNat

/-- The count of hexadecimal digits behind a letter behind a backslash. -/
def escapeWidth? (c : Char) : Option Nat :=
  if c = 'x' then some 2 else if c = 'u' then some 4 else if c = 'U' then some 8 else none

/-- The character of a number. A number of a half of a pair is no character by itself and becomes
the replacement character. -/
def characterOf (n : Nat) : Except Fault Char :=
  if n.isValidChar then .ok (Char.ofNat n)
  else if n ≤ 0x10FFFF then .ok (Char.ofNat 0xFFFD)
  else if n < 1 <<< 31 then .error .noSuchCharacter
  else .error .characterTooLarge

/-- Where the reader of a scalar in double quotes stands. -/
inductive QuotedState where
  /-- Between characters, behind a gap. -/
  | between (gap : Gap)
  /-- Behind a backslash. -/
  | escape
  /-- Inside a number: the digits owed and the value so far. -/
  | number (owed value : Nat)

/-- What is read, with a text in front of its own. -/
def prepend (t : Text) : Except Fault (Text × List Mark) → Except Fault (Text × List Mark) :=
  Except.map fun (u, left) => (t ++ u, left)

/-- A scalar in double quotes, from behind the opening quote on. -/
def doubleQuoted : QuotedState → List Mark → Except Fault (Text × List Mark)
  | _, [] => .error .invalid
  | .between gap, m :: rest =>
    if isSpace m.char then doubleQuoted (.between (gap.addBlank m.char)) rest
    else if isBreak m.char then
      if atSeparator rest then .error .invalid
      else doubleQuoted (.between (gap.addBreak m.char)) rest
    else if m.char = '\x22' then .ok (gap.text, rest)
    else if m.char = '\\' then prepend gap.text (doubleQuoted .escape rest)
    else prepend (gap.text ++ [m.char]) (doubleQuoted (.between .none) rest)
  | .escape, m :: rest =>
    if isBreak m.char then
      if atSeparator rest then .error .invalid else doubleQuoted (.between .continued) rest
    else
      match escape? m.char, escapeWidth? m.char with
      | some c, _ => prepend [c] (doubleQuoted (.between .none) rest)
      | none, some width => doubleQuoted (.number width 0) rest
      | none, none => .error .invalid
  | .number owed value, m :: rest =>
    match Hex.digitValue? m.char with
    | none => .error .invalid
    | some d =>
      let value := 16 * value + d
      if 1 < owed then doubleQuoted (.number (owed - 1) value) rest
      else
        match characterOf value with
        | .ok c => prepend [c] (doubleQuoted (.between .none) rest)
        | .error fault => .error fault

/-- What becomes of the breaks at the end of a block. -/
inductive Chomping where
  /-- They are dropped. -/
  | strip
  /-- The first one stays. -/
  | clip
  /-- All stay. -/
  | keep
  deriving DecidableEq

/-- How a block is read. -/
structure BlockHeader where
  /-- What becomes of the breaks at its end. -/
  chomping : Chomping
  /-- The indentation of its lines, as far as it is written. -/
  increment : Option Nat

/-- The chomping that a character stands for. -/
def chomping? (c : Char) : Option Chomping :=
  if c = '+' then some .keep else if c = '-' then some .strip else none

/-- The indentation that a digit stands for. Zero is refused. -/
def increment? (c : Char) : Option (Option Nat) :=
  if c = '0' then some none
  else if '1' ≤ c && c ≤ '9' then some (some (c.toNat - 48))
  else none

/-- The header of a block: chomping and indentation in either order. -/
def blockHeader (ms : List Mark) : Option (BlockHeader × List Mark) :=
  let chars := textOf (ms.take 2)
  let one := chars.head?
  let two := chars[1]?
  match one.bind chomping?, one.bind increment? with
  | some chomping, _ =>
    match two.bind increment? with
    | some (some n) => some (⟨chomping, some n⟩, ms.drop 2)
    | some none => none
    | none => some (⟨chomping, none⟩, ms.drop 1)
  | none, some (some n) =>
    match two.bind chomping? with
    | some chomping => some (⟨chomping, some n⟩, ms.drop 2)
    | none => some (⟨.clip, some n⟩, ms.drop 1)
  | none, some none => none
  | none, none => some (⟨.clip, none⟩, ms)

/-- What is left of the line of a header: spaces and a comment, and the end of the line. Something
glued to the header is refused, and so are tabulators. -/
def afterHeader (ms : List Mark) : Option (List Mark) :=
  let glued := (ms.head?.map fun m => !(m.char = ' ' || isBreak m.char)).getD false
  let ms := ms.dropWhile (·.char = ' ')
  let ms := if startsWith '#' ms then ms.dropWhile fun m => !endsLine m.char else ms
  if glued then none
  else
    match ms with
    | [] => some []
    | m :: rest => if endsLine m.char then some rest else none

/-- The breaks of empty lines and the spaces within the indentation behind each of them. -/
def blockBreaks (indent : Nat) : List Mark → Text × List Mark
  | [] => ([], [])
  | m :: rest =>
    if m.char = ' ' && m.place.column < indent then blockBreaks indent rest
    else if isBreak m.char then
      let (breaks, left) := blockBreaks indent rest
      (keptBreak m.char :: breaks, left)
    else ([], m :: rest)

/-- Breaks only take marks away. -/
theorem blockBreaks_length_le (indent : Nat) (ms : List Mark) :
    (blockBreaks indent ms).2.length ≤ ms.length := by
  induction ms with
  | nil => simp [blockBreaks]
  | cons m rest ih =>
    simp only [blockBreaks]
    split
    · exact Nat.le_succ_of_le ih
    · split
      · exact Nat.le_succ_of_le ih
      · exact Nat.le_refl _

/-- What stands in front of the first line of a block whose header does not give its indentation. -/
structure BlockStart where
  /-- The breaks of the empty lines. -/
  breaks : Text
  /-- The greatest count of spaces in these lines and in front of the first line. -/
  depth : Nat
  /-- What is left. -/
  left : List Mark

/-- The empty lines of a block and the spaces in front of its first line. If the first empty line
has spaces, no line after it up to the first of the block may have more. -/
def blockStart (first : Option Nat) (depth : Nat) : List Mark → Option BlockStart
  | [] => found []
  | m :: rest =>
    if m.char = ' ' then blockStart first (max depth (m.place.column + 1)) rest
    else if isBreak m.char then
      (blockStart (first <|> some m.place.column) depth rest).map fun b =>
        { b with breaks := keptBreak m.char :: b.breaks }
    else found (m :: rest)
where
  /-- The end of the empty lines. -/
  found (left : List Mark) : Option BlockStart :=
    let width := first.getD 0
    if 0 < width && width < depth then none else some ⟨[], depth, left⟩

/-- What a block has gathered. -/
structure BlockText where
  /-- The text up to the last line's end. -/
  text : Text
  /-- The break behind the last line. -/
  lineBreak : Text
  /-- The breaks of the empty lines behind it. -/
  breaks : Text
  /-- What is left. -/
  left : List Mark

/-- How the lines of a block are read. -/
structure BlockForm where
  /-- Whether the lines are folded. -/
  folded : Bool
  /-- The column at which they start. -/
  indent : Nat
  /-- Whether they may start at the very beginning of the line, so that the block ends where a
  document does. -/
  atMargin : Bool

namespace BlockForm

/-- What stands between a line and the next one, of which the first marks are given. In a folded
block, a break between two lines that start with no blank becomes a space, or is dropped where empty
lines follow it. -/
def joint (f : BlockForm) (startsBlank : Bool) (breaks : Text) (next : Mark) : Text :=
  if f.folded && !startsBlank && !isSpace next.char then
    if breaks.isEmpty then [' '] else []
  else ['\n']

/-- The lines of a block from a line's start on, with the breaks in front of it. -/
def lines (f : BlockForm) (breaks : Text) (ms : List Mark) : BlockText :=
  match ms with
  | [] => ⟨[], [], breaks, []⟩
  | m :: rest =>
    if m.place.column = f.indent then
      let content := breaks ++ m.char :: textOf (rest.takeWhile fun n => !endsLine n.char)
      match hrest : rest.dropWhile fun n => !endsLine n.char with
      | [] => ⟨content, [], [], []⟩
      | _ :: more =>
        let breaks := (blockBreaks f.indent more).1
        match hleft : (blockBreaks f.indent more).2 with
        | [] => ⟨content, ['\n'], breaks, []⟩
        | next :: after =>
          if (f.atMargin && atLineStart (next :: after) && atSeparator (next :: after)) ||
              next.place.column ≠ f.indent then ⟨content, ['\n'], breaks, next :: after⟩
          else
            have shorter : after.length < rest.length := by
              have hdrop :=
                (List.dropWhile_sublist (fun n => !endsLine n.char) (l := rest)).length_le
              have hbreaks := blockBreaks_length_le f.indent more
              rw [hrest, List.length_cons] at hdrop
              rw [hleft, List.length_cons] at hbreaks
              omega
            let b := f.lines breaks (next :: after)
            { b with text := content ++ f.joint (isSpace m.char) breaks next ++ b.text }
    else ⟨[], [], breaks, m :: rest⟩
termination_by ms.length

end BlockForm

/-- A block scalar from behind its first character on; `parent` is the indentation of the collection
around it. -/
def blockScalar (folded : Bool) (parent : Int) (ms : List Mark) : Option (Text × List Mark) := do
  let (header, ms) ← blockHeader ms
  let ms ← afterHeader ms
  let least := (parent + 1).toNat
  let b ←
    match header.increment with
    | some n =>
      let indent := max least 1 + n - 1
      let (breaks, left) := blockBreaks indent ms
      pure ((⟨folded, indent, false⟩ : BlockForm).lines breaks left)
    | none =>
      (blockStart none 0 ms).map fun s =>
        (⟨folded, max least s.depth, least = 0⟩ : BlockForm).lines s.breaks s.left
  let ending :=
    match header.chomping with
    | .strip => []
    | .clip => b.lineBreak
    | .keep => b.lineBreak ++ b.breaks
  return (b.text ++ ending, b.left)

end QueryTemplate.Yaml
