import QueryTemplate.Text

/-!
# Templates

A template is a text with placeholders for arguments and with braces around conditional blocks. It
is cut into chunks at its blanks, and the chunks are cut into tokens.
-/

namespace QueryTemplate

/-!
## Chunks

A chunk is a longest stretch of a template without blanks, with the position of its first
character. Chunks are all that a template means: how many blanks stand between them, and which,
does not matter to the compiled query.
-/

/-- A stretch without blanks, and where it starts. -/
structure Chunk where
  /-- The position of the first character. -/
  start : Nat
  /-- The characters. -/
  text : Text
  deriving DecidableEq

namespace Chunk

/-- The position behind the last character. -/
def stop (c : Chunk) : Nat := c.start + c.text.length

end Chunk

/-- Whether a character belongs to a chunk. -/
def isSolid (c : Char) : Bool := !isBlank c

/-- The chunks of a text whose first character stands at position `pos`. -/
def chunksFrom (pos : Nat) (t : Text) : List Chunk :=
  match t with
  | [] => []
  | c :: rest =>
    if isBlank c then chunksFrom (pos + 1) rest
    else
      let chunk : Chunk := ⟨pos, c :: rest.takeWhile isSolid⟩
      chunk :: chunksFrom chunk.stop (rest.dropWhile isSolid)
termination_by t.length
decreasing_by
  · simp
  · have := (List.dropWhile_sublist isSolid (l := rest)).length_le
    simp only [List.length_cons]
    omega

/-- The chunks of a template. -/
def chunks (template : Text) : List Chunk := chunksFrom 0 template

/-!
## Placeholders

A placeholder is a question mark that ends its chunk, or a question mark and a letter that declares
the type of the argument. A question mark before any other character is ordinary text.
-/

/-- The kind of a placeholder: the type it declares for its argument. -/
inductive Placeholder where
  /-- A scalar: null, a boolean, a number or a string. -/
  | generic
  /-- An integer of 64 bits. -/
  | integer
  /-- A number of the binary64 format. -/
  | float
  /-- An identifier or a list of identifiers. -/
  | identifier
  /-- A list of scalars, or pairs of a column and a scalar. -/
  | array
  deriving DecidableEq

namespace Placeholder

/-- The letter behind the question mark. -/
def suffix? : Placeholder → Option Char
  | generic => none
  | integer => some 'd'
  | float => some 'f'
  | identifier => some '#'
  | array => some 'a'

/-- The kind that a letter behind a question mark declares. -/
def ofSuffix? (c : Char) : Option Placeholder :=
  if c = 'd' then some integer
  else if c = 'f' then some float
  else if c = 'a' then some array
  else if c = '#' then some identifier
  else none

/-- The way a placeholder is written. -/
def text (k : Placeholder) : Text := '?' :: k.suffix?.toList

/-- The count of characters of a placeholder. -/
def width (k : Placeholder) : Nat := k.text.length

/-- The five kinds. -/
def kinds : List Placeholder := [generic, integer, float, identifier, array]

/-- The placeholder that is written as the given text. -/
def ofText? (t : Text) : Option Placeholder := kinds.find? (·.text = t)

/-- The placeholder at the start of a text without blanks. -/
def at? : Text → Option Placeholder
  | '?' :: [] => some generic
  | '?' :: c :: _ => ofSuffix? c
  | _ => none

/-- The placeholders of a text without blanks, from left to right. Behind a placeholder the search
goes on after its last character; braces are passed over like any other character. -/
def all (t : Text) : List Placeholder :=
  match t with
  | [] => []
  | c :: rest =>
    match at? (c :: rest) with
    | some k => k :: all (rest.drop (k.width - 1))
    | none => all rest
termination_by t.length
decreasing_by all_goals simp; try omega

/-- A letter declares the kind that is written with it. -/
theorem ofSuffix?_eq_some_iff {c : Char} {k : Placeholder} :
    ofSuffix? c = some k ↔ k.suffix? = some c := by
  unfold ofSuffix?
  constructor
  · intro h
    split at h
    · cases h; subst_vars; rfl
    split at h
    · cases h; subst_vars; rfl
    split at h
    · cases h; subst_vars; rfl
    split at h
    · cases h; subst_vars; rfl
    · cases h
  · intro h
    cases k <;> simp only [suffix?, Option.some.injEq, reduceCtorEq] at h <;> subst h <;> decide

end Placeholder

/-!
## Tokens of a template

A template is read chunk by chunk. A chunk that is a placeholder or a brace as a whole is one token.
Inside any other chunk, placeholders and the two braces of a conditional block are tokens of their
own, and the text between them is cut into the longest possible literals.
Behind every chunk stands one separator, a literal of a single space, so that the chunks of the
compiled query are one space apart however the template was laid out.
-/

/-- A token of a template. -/
inductive Lexeme where
  /-- Text that stands for itself. -/
  | literal (text : Text)
  /-- A place for an argument. Reading a template always finds the kind; a token list that comes
  from elsewhere may leave it open. -/
  | placeholder (kind : Option Placeholder)
  /-- The brace that opens a conditional block. -/
  | blockOpen
  /-- The brace that closes a conditional block. -/
  | blockClose
  deriving DecidableEq

namespace Lexeme

/-- The characters of a token. -/
def text : Lexeme → Text
  | literal t => t
  | placeholder k => (k.map Placeholder.text).getD []
  | blockOpen => ['{']
  | blockClose => ['}']

/-- The name of the sort of a token. -/
def sort : Lexeme → Text
  | literal _ => "LITERAL".toList
  | placeholder _ => "PLACEHOLDER".toList
  | blockOpen => "BLOCK_OPEN".toList
  | blockClose => "BLOCK_CLOSE".toList

/-- The kind of a placeholder; other tokens have none. -/
def kind? : Lexeme → Option Placeholder
  | placeholder k => k
  | _ => none

/-- The token that a whole chunk is: a placeholder, or a brace by itself. -/
def ofChunk? (t : Text) : Option Lexeme :=
  match Placeholder.ofText? t with
  | some k => some (placeholder (some k))
  | none =>
    if t = blockOpen.text then some blockOpen
    else if t = blockClose.text then some blockClose
    else none

/-- Whether the token takes an argument. -/
def isPlaceholder : Lexeme → Bool
  | placeholder _ => true
  | _ => false

end Lexeme

/-- A token and the position of its first character in the template. -/
structure Token where
  /-- What the token is. -/
  lexeme : Lexeme
  /-- Where it starts. -/
  position : Nat
  deriving DecidableEq

namespace Token

/-- The characters of the token. -/
def text (t : Token) : Text := t.lexeme.text

/-- A token of a text that stands `n` characters further to the right. -/
def shifted (n : Nat) (t : Token) : Token := { t with position := t.position + n }

/-- The one space that stands behind every chunk. -/
def separator : Text := [' ']

/-- A character in front of tokens: it joins a literal that starts right behind it, and is a literal
of its own before anything else. -/
def glue (c : Char) (pos : Nat) : List Token → List Token
  | ⟨.literal t, _⟩ :: rest => ⟨.literal (c :: t), pos⟩ :: rest
  | rest => ⟨.literal [c], pos⟩ :: rest

/-- The token as it is shown to a reader: its sort, its characters in quotes and its position. -/
def display (t : Token) : Text :=
  "Token(".toList ++ t.lexeme.sort ++ ", ".toList ++ quoted t.text ++ ", pos=".toList ++
    integerText t.position ++ ")".toList

end Token

/-- The tokens of a chunk, or of an ending of one, whose first character stands at `pos`. -/
def tokensOfChunk (pos : Nat) : Text → List Token
  | [] => []
  | '{' :: rest => ⟨.blockOpen, pos⟩ :: tokensOfChunk (pos + 1) rest
  | '}' :: rest => ⟨.blockClose, pos⟩ :: tokensOfChunk (pos + 1) rest
  | '?' :: [] => [⟨.placeholder (some .generic), pos⟩]
  | '?' :: c :: rest =>
    match Placeholder.ofSuffix? c with
    | some k => ⟨.placeholder (some k), pos⟩ :: tokensOfChunk (pos + 2) rest
    | none => Token.glue '?' pos (tokensOfChunk (pos + 1) (c :: rest))
  | c :: rest => Token.glue c pos (tokensOfChunk (pos + 1) rest)

/-- The tokens of a chunk and the separator behind it. -/
def Chunk.tokens (c : Chunk) : List Token :=
  let tokens :=
    match Lexeme.ofChunk? c.text with
    | some whole => [⟨whole, c.start⟩]
    | none => tokensOfChunk c.start c.text
  tokens ++ [⟨.literal Token.separator, c.stop⟩]

/-- The tokens of a template. -/
def tokenize (template : Text) : List Token := (chunks template).flatMap Chunk.tokens

/-- The kinds of the placeholders of a template, from its chunks alone. -/
def placeholders (template : Text) : List Placeholder :=
  (chunks template).flatMap fun c => Placeholder.all c.text

/-- The count of placeholders of a template. -/
def countPlaceholders (template : Text) : Nat := (placeholders template).length

end QueryTemplate
