import QueryTemplate.Files
import QueryTemplate.Yaml.Scalar

/-!
# Tokens of a YAML text

The tokens say where documents, collections, entries, keys and values begin and end, so that a tree
can be read from them without looking at indentation. A key need not announce itself: when a colon
follows something that may be a key, the tokens of a key, and of a mapping where one begins, are put
in front of it after the fact. So the places at which a key may have begun are remembered, one for
each level of brackets.

Outside of brackets a tabulator may not stand in front of a token. Inside them it counts as a space.
-/

namespace QueryTemplate.Yaml

/-- A token of a YAML text. -/
inductive Token where
  | documentStart
  | documentEnd
  | blockSequenceStart
  | blockMappingStart
  | blockEnd
  | flowSequenceStart
  | flowSequenceEnd
  | flowMappingStart
  | flowMappingEnd
  | blockEntry
  | flowEntry
  | key
  | value
  /-- A reference to an anchor. -/
  | alias (name : Text)
  /-- The name of the node that follows. -/
  | anchor (name : Text)
  /-- The tag of the node that follows, in full. -/
  | tag (name : Text)
  /-- A scalar, and whether it is plain. -/
  | scalar (text : Text) (plain : Bool)
  deriving DecidableEq

/-- A place at which a key may have begun. -/
structure PossibleKey where
  /-- Whether a key must have begun there. -/
  required : Bool
  /-- The count of tokens in front of it. -/
  tokenCount : Nat
  /-- The place. -/
  place : Place

/-- The longest key, in characters. -/
def keyLimit : Nat := 1024

/-- The two sorts of brackets. -/
inductive Bracket where
  | square
  | curly
  deriving DecidableEq

/-- Where the reading of tokens stands. -/
structure Scanner where
  /-- The marks left. -/
  rest : List Mark
  /-- The place behind the text. -/
  finish : Place
  /-- The tokens so far. -/
  tokens : Array Token
  /-- The indentations of the open block collections, the innermost first. -/
  indents : List Int
  /-- The open brackets, the innermost first. -/
  brackets : List Bracket
  /-- Whether a key may begin here. -/
  keyAllowed : Bool
  /-- The places at which a key may have begun: that of the innermost level first. -/
  keys : List (Option PossibleKey)

namespace Scanner

/-- The place behind all marks. -/
def endOf (p : Place) (t : Text) : Place := t.foldl Place.next p

/-- The beginning. -/
def start (t : Text) : Scanner where
  rest := marks t
  finish := endOf ⟨0, 0, 0⟩ t
  tokens := #[]
  indents := []
  brackets := []
  keyAllowed := true
  keys := [none]

/-- The place of the next mark. -/
def place (s : Scanner) : Place := (s.rest.head?.map Mark.place).getD s.finish

/-- The column of the next mark. -/
def column (s : Scanner) : Int := s.place.column

/-- The indentation of the innermost block collection. -/
def indent (s : Scanner) : Int := s.indents.head?.getD (-1)

/-- Whether the reading is inside brackets. -/
def inFlow (s : Scanner) : Bool := !s.brackets.isEmpty

/-- A token more. -/
def emit (s : Scanner) (t : Token) : Scanner := { s with tokens := s.tokens.push t }

/-- A token in front of those behind the first `n`. -/
def insert (s : Scanner) (n : Nat) (t : Token) : Scanner :=
  { s with tokens := s.tokens.insertIdxIfInBounds n t }

/-- Skips blanks, breaks and comments up to the next token. The flags say whether the reading is
inside brackets and whether it is inside a comment. Behind a break a key may begin, except in
brackets. -/
def skipGaps (inFlow : Bool) : Bool → Bool → List Mark → Bool × List Mark
  | _, allowed, [] => (allowed, [])
  | true, allowed, m :: rest =>
    if endsLine m.char then skipGaps inFlow false (allowed || !inFlow) rest
    else skipGaps inFlow true allowed rest
  | false, allowed, m :: rest =>
    if m.char = ' ' || (inFlow && m.char = '\t') then skipGaps inFlow false allowed rest
    else if m.char = '#' then skipGaps inFlow true allowed rest
    else if isBreak m.char then skipGaps inFlow false (allowed || !inFlow) rest
    else (allowed, m :: rest)

/-- The scanner in front of the next token. -/
def toNextToken (s : Scanner) : Scanner :=
  let (keyAllowed, rest) := skipGaps s.inFlow false s.keyAllowed s.rest
  { s with keyAllowed, rest }

/-- A place at which a key may have begun is given up once its line or its greatest length is
passed; where a key must have begun, that is an error. -/
def dropStale (p : Place) : List (Option PossibleKey) → Except Fault (List (Option PossibleKey))
  | [] => .ok []
  | none :: more => (dropStale p more).map (none :: ·)
  | some k :: more =>
    if k.place.line < p.line || k.place.index + keyLimit < p.index then
      if k.required then .error .invalid else (dropStale p more).map (none :: ·)
    else (dropStale p more).map (some k :: ·)

/-- Gives up the possible key of the innermost level. -/
def dropKey (s : Scanner) : Except Fault Scanner :=
  match s.keys with
  | some k :: more => if k.required then .error .invalid else .ok { s with keys := none :: more }
  | _ => .ok s

/-- Remembers that a key may begin here. -/
def noteKey (s : Scanner) : Except Fault Scanner :=
  if s.keyAllowed then do
    let s ← s.dropKey
    let key : PossibleKey :=
      ⟨!s.inFlow && s.indent = s.column, s.tokens.size, s.place⟩
    return { s with keys := some key :: s.keys.drop 1 }
  else .ok s

/-- Closes the block collections that are indented more than `column`. -/
def unroll (column : Int) : List Int → Array Token → List Int × Array Token
  | [], tokens => ([], tokens)
  | i :: more, tokens =>
    if column < i then unroll column more (tokens.push .blockEnd) else (i :: more, tokens)

/-- Closes the block collections that are indented more than `column`; brackets hold them open. -/
def closeBlocks (s : Scanner) (column : Int) : Scanner :=
  if s.inFlow then s
  else
    let (indents, tokens) := unroll column s.indents s.tokens
    { s with indents, tokens }

/-- Opens a block collection at a column, unless one is open there. Its token stands behind the
first `n` tokens. -/
def openBlock (s : Scanner) (column : Int) (n : Nat) (t : Token) : Scanner :=
  if !s.inFlow && s.indent < column then { s.insert n t with indents := column :: s.indents } else s

/-- Skips `n` marks. -/
def skip (s : Scanner) (n : Nat) : Scanner := { s with rest := s.rest.drop n }

/-- Whether a key may begin behind what comes next. -/
def allowKey (s : Scanner) (allowed : Bool) : Scanner := { s with keyAllowed := allowed }

/-- What starts or ends a document. -/
def fetchSeparator (s : Scanner) (t : Token) : Except Fault Scanner := do
  let s ← (s.closeBlocks (-1)).dropKey
  return ((s.allowKey false).emit t).skip 3

/-- An opening bracket. -/
def fetchFlowStart (s : Scanner) (b : Bracket) (t : Token) : Except Fault Scanner := do
  let s ← s.noteKey
  let s := { s with keys := none :: s.keys, brackets := b :: s.brackets }
  return ((s.allowKey true).emit t).skip 1

/-- A closing bracket. It closes the innermost bracket, whichever sort that is. -/
def fetchFlowEnd (s : Scanner) (t : Token) : Except Fault Scanner := do
  let s ← s.dropKey
  let s :=
    if s.inFlow then { s with keys := s.keys.drop 1, brackets := s.brackets.drop 1 } else s
  return ((s.allowKey false).emit t).skip 1

/-- The comma between entries in brackets. -/
def fetchFlowEntry (s : Scanner) : Except Fault Scanner := do
  let s ← s.dropKey
  return ((s.allowKey true).emit .flowEntry).skip 1

/-- The dash in front of an entry of a block sequence. -/
def fetchBlockEntry (s : Scanner) : Except Fault Scanner := do
  if !s.inFlow && !s.keyAllowed then .error .invalid
  else
    let s ← (s.openBlock s.column s.tokens.size .blockSequenceStart).dropKey
    return ((s.allowKey true).emit .blockEntry).skip 1

/-- The question mark in front of a key. -/
def fetchKey (s : Scanner) : Except Fault Scanner := do
  if !s.inFlow && !s.keyAllowed then .error .invalid
  else
    let s ← (s.openBlock s.column s.tokens.size .blockMappingStart).dropKey
    return ((s.allowKey (!s.inFlow)).emit .key).skip 1

/-- The colon in front of a value. A possible key in front of it becomes a key. -/
def fetchValue (s : Scanner) : Except Fault Scanner :=
  match s.keys with
  | some k :: more =>
    let s := { s with keys := none :: more }
    let s := s.insert k.tokenCount .key
    let s := s.openBlock k.place.column k.tokenCount .blockMappingStart
    .ok (((s.allowKey false).emit .value).skip 1)
  | _ =>
    if !s.inFlow && !s.keyAllowed then .error .invalid
    else
      let s := s.openBlock s.column s.tokens.size .blockMappingStart
      .ok (((s.allowKey (!s.inFlow)).emit .value).skip 1)

/-- Whether a character may stand in the name of an anchor: any that is visible, brackets and commas
aside. -/
def isNameChar (c : Char) : Bool :=
  let n := c.toNat
  !isFlowEnd c && !isOrderMark c &&
    ((0x21 ≤ n && n ≤ 0x7E) || (0xA0 ≤ n && n ≤ 0xD7FF) || (0xE000 ≤ n && n ≤ 0xFFFD) ||
      0x10000 ≤ n)

/-- Whether something may stand right behind the name of an anchor. -/
def endsName : List Mark → Bool
  | [] => true
  | m :: _ => isSpace m.char || isBreak m.char || isFlowEnd m.char

/-- An anchor, or a reference to one. -/
def fetchName (s : Scanner) (token : Text → Token) : Except Fault Scanner := do
  let s ← s.noteKey
  let behind := s.rest.drop 1
  let name := textOf (behind.takeWhile fun m => isNameChar m.char)
  let rest := behind.drop name.length
  if name.isEmpty || !endsName rest then .error .invalid
  else return { (s.allowKey false).emit (token name) with rest }

/-- Whether a character may stand in a tag. -/
def isTagChar (c : Char) : Bool :=
  c.isAlphanum || "-;/?:@&=+$,_.!~*'()[]%#".toList.contains c

/-- What the tags of the standard start with. -/
def standardTag : Text := "tag:yaml.org,2002:".toList

/-- The octets that a text with percent signs spells: two hexadecimal digits behind a percent sign
are an octet, and any other character is its own octets. -/
def spelledOctets? : Text → Option (List UInt8)
  | [] => some []
  | '%' :: a :: b :: rest => do
    let a ← Hex.digitValue? a
    let b ← Hex.digitValue? b
    return UInt8.ofNat (16 * a + b) :: (← spelledOctets? rest)
  | '%' :: _ => none
  | c :: rest => (spelledOctets? rest).map (UInt8.ofNat c.toNat :: ·)

/-- The text that a text with percent signs spells. -/
def spelled? (t : Text) : Option Text :=
  (spelledOctets? t).bind fun octets => (Utf8.decode octets).toOption

/-- The tag of a text behind its handle. -/
def suffixAt? (ms : List Mark) : Option (Text × List Mark) :=
  let written := textOf (ms.takeWhile fun m => isTagChar m.char)
  if written.isEmpty then none
  else (spelled? written).map fun suffix => (suffix, ms.drop written.length)

/-- The tag that stands between angle brackets. -/
def fullTag? (ms : List Mark) : Option (Text × List Mark) := do
  let (tag, rest) ← suffixAt? ms
  if startsWith '>' rest then return (tag, rest.drop 1) else none

/-- The tag of a handle and what follows it, from behind the first exclamation mark on. Between two
exclamation marks there must be nothing, which is the handle of the standard's tags. -/
def shortTag? (ms : List Mark) : Option (Text × List Mark) :=
  let word := ms.takeWhile fun m => !(m.char = ' ' || isBreak m.char)
  if word.any fun m => m.char = '!' then
    if startsWith '!' ms then
      (suffixAt? (ms.drop 1)).map fun (suffix, rest) => (standardTag ++ suffix, rest)
    else none
  else (suffixAt? ms).map fun (suffix, rest) => ('!' :: suffix, rest)

/-- A tag. A space or a break must follow it. -/
def fetchTag (s : Scanner) : Except Fault Scanner := do
  let s ← s.noteKey
  let behind := s.rest.drop 1
  let found :=
    if startsWith '<' behind then fullTag? (behind.drop 1)
    else if atGap behind then some (['!'], behind)
    else shortTag? behind
  match found with
  | none => .error .invalid
  | some (tag, rest) =>
    if (rest.head?.map fun m => m.char = ' ' || isBreak m.char).getD true then
      return { (s.allowKey false).emit (.tag tag) with rest }
    else .error .invalid

/-- What is found, or the fault that the text is no YAML. -/
def orInvalid {α : Type} : Option α → Except Fault α
  | some x => .ok x
  | none => .error .invalid

/-- A block scalar. -/
def fetchBlockScalar (s : Scanner) (folded : Bool) : Except Fault Scanner := do
  let s ← s.dropKey
  let (text, rest) ← orInvalid (blockScalar folded s.indent (s.rest.drop 1))
  return { (s.allowKey true).emit (.scalar text false) with rest }

/-- A scalar in quotes. -/
def fetchQuoted (s : Scanner) (scalar : List Mark → Except Fault (Text × List Mark)) :
    Except Fault Scanner := do
  let s ← s.noteKey
  let (text, rest) ← scalar (s.rest.drop 1)
  return { (s.allowKey false).emit (.scalar text false) with rest }

/-- A plain scalar. Where a break was passed behind it, a key may begin. -/
def fetchPlain (s : Scanner) : Except Fault Scanner := do
  let s ← s.noteKey
  let (text, broken, rest) := plainScalar ⟨s.inFlow, (s.indent + 1).toNat⟩ .none s.rest
  return { (s.allowKey broken).emit (.scalar text true) with rest }

/-- Whether a plain scalar begins with a character and what follows it. -/
def startsPlain (inFlow : Bool) (c : Char) (rest : List Mark) : Bool :=
  if c = '-' || c = ':' then !atGap rest
  else if c = '?' then !inFlow && !atGap rest
  else !isSpace c && !isBreak c && !",[]\x7b\x7d#&*!|>'\"%@\x60".toList.contains c

/-- Whether a colon stands in front of a value. Outside of curly brackets something glued to it
makes it a part of a scalar. Inside them that is so only right behind another such colon, and only
while a key may still have begun further to the left, as `keyPending` says. -/
def startsValue (s : Scanner) (keyPending : Bool) (rest : List Mark) : Bool :=
  atGap rest ||
    match s.brackets with
    | .curly :: _ => !(keyPending && s.tokens.back? = some .value)
    | _ => false

/-- The token that starts with a character. -/
def fetchAt (s : Scanner) (keyPending : Bool) (c : Char) (rest : List Mark) :
    Except Fault Scanner :=
  let margin := s.place.column = 0
  if margin && c = '%' then .error .invalid
  else if margin && atTriple '-' s.rest then s.fetchSeparator .documentStart
  else if margin && atTriple '.' s.rest then s.fetchSeparator .documentEnd
  else if c = '[' then s.fetchFlowStart .square .flowSequenceStart
  else if c = '{' then s.fetchFlowStart .curly .flowMappingStart
  else if c = ']' then s.fetchFlowEnd .flowSequenceEnd
  else if c = '}' then s.fetchFlowEnd .flowMappingEnd
  else if c = ',' then s.fetchFlowEntry
  else if c = '-' && atGap rest then s.fetchBlockEntry
  else if c = '?' && (s.inFlow || atGap rest) then s.fetchKey
  else if c = ':' && s.startsValue keyPending rest then s.fetchValue
  else if c = '*' then s.fetchName .alias
  else if c = '&' then s.fetchName .anchor
  else if c = '!' then s.fetchTag
  else if c = '|' && !s.inFlow then s.fetchBlockScalar false
  else if c = '>' && !s.inFlow then s.fetchBlockScalar true
  else if c = '\x27' then s.fetchQuoted fun ms => orInvalid (singleQuoted .none ms)
  else if c = '\x22' then s.fetchQuoted (doubleQuoted (.between .none))
  else if startsPlain s.inFlow c rest then s.fetchPlain
  else .error .invalid

/-- The next token with what comes in front of it. At the end of the text all block collections are
closed, and the reading is done. -/
def fetch (s : Scanner) : Except Fault (Scanner × Bool) := do
  let keyPending := (← dropStale s.place s.keys).any Option.isSome
  let s := s.toNextToken
  let keys ← dropStale s.place s.keys
  let s := { s with keys }.closeBlocks s.column
  match s.rest with
  | [] => return (← (s.closeBlocks (-1)).dropKey, true)
  | m :: rest => return (← s.fetchAt keyPending m.char rest, false)

/-- All tokens; every step but the last takes a mark, so `fuel` steps end the reading. -/
def fetchAll : Nat → Scanner → Except Fault (Array Token)
  | 0, _ => .error .invalid
  | fuel + 1, s => do
    let (s, done) ← s.fetch
    if done then return s.tokens else fetchAll fuel s

end Scanner

/-- The tokens of a text. -/
def tokens (t : Text) : Except Fault (List Token) :=
  if t.all isAllowed then (Scanner.fetchAll (t.length + 1) (Scanner.start t)).map Array.toList
  else .error .invalid

end QueryTemplate.Yaml
