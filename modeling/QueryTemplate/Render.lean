import QueryTemplate.Binary64
import QueryTemplate.Numeral
import QueryTemplate.Template
import QueryTemplate.Text
import QueryTemplate.Value

/-!
# Rendering arguments

An argument becomes a part of the query by the kind of its placeholder and by the options, or it is
refused for a fault.
-/

namespace QueryTemplate

/-!
## Options of a compilation

Three settings decide what is accepted: how texts become numbers, what a skip marker outside of
every block means, and whether identifiers are checked.
-/

/-- How a text becomes a number. -/
inductive Coercion where
  /-- The numeral at its start counts, and a text without one is zero. -/
  | loose
  /-- The whole text must be a numeral. -/
  | strict
  deriving DecidableEq

/-- What a skip marker outside of every conditional block means. -/
inductive SkipPolicy where
  /-- It is an error. -/
  | refuse
  /-- Its placeholder is left out. -/
  | leaveOut
  deriving DecidableEq

/-- The settings of a compilation. -/
structure Options where
  /-- How texts become numbers. -/
  coercion : Coercion
  /-- What a skip marker outside of every block means. -/
  skipOutsideBlock : SkipPolicy
  /-- Whether identifiers must be free of backticks and control characters. -/
  validateIdentifiers : Bool
  deriving DecidableEq

namespace Coercion

/-- The word for the setting. -/
def text : Coercion → Text
  | loose => "loose".toList
  | strict => "strict".toList

end Coercion

namespace SkipPolicy

/-- The word for the setting. -/
def text : SkipPolicy → Text
  | refuse => "error".toList
  | leaveOut => "omit".toList

end SkipPolicy

namespace Options

/-- The settings where nothing else is said. -/
def default : Options where
  coercion := .loose
  skipOutsideBlock := .refuse
  validateIdentifiers := true

end Options

instance : Inhabited Options := ⟨.default⟩

/-!
## Why an argument has no text

A fault is the reason why an argument cannot be rendered for a placeholder. Most faults blame the
argument, for its type or for its value, and are reported with the argument's index. The few others
come from a conversion that a check before it did not foresee, or from the caller's own escaping.
-/

/-- What is wrong with an argument that is refused. -/
inductive Refusal where
  /-- Its type does not suit the placeholder. -/
  | type
  /-- Its type suits the placeholder, and its value does not. -/
  | value
  deriving DecidableEq

/-- A reason why an argument has no text. -/
inductive Fault where
  /-- A value of this kind is not allowed for the placeholder. -/
  | notAllowed (got : Text) (place : Placeholder)
  /-- A list of identifiers holds something that is no text. -/
  | notAName (got : Text)
  /-- A skip marker stands outside of every conditional block. -/
  | skipOutsideBlock
  /-- An integer is beyond the digit limit. -/
  | integerTooLong
  /-- A number that is infinite or no number has no text. -/
  | notFinite (x : Binary64)
  /-- A number that is infinite or no number has no integer part. -/
  | noIntegerPart (x : Binary64)
  /-- An integer does not fit into 64 bits. -/
  | outOfIntegerRange
  /-- An integer is beyond the largest number with a point. -/
  | outOfFloatRange
  /-- A text, which shows this, is no integer. -/
  | notAnInteger (shown : Text)
  /-- A text, which shows this, is no number. -/
  | notANumber (shown : Text)
  /-- An identifier is empty. -/
  | emptyIdentifier
  /-- An identifier, which shows this, holds a backtick or a control character. -/
  | unsafeIdentifier (shown : Text)
  /-- The caller's escaping refuses a text, and may say for which argument. -/
  | refused (what : Refusal) (reason : Text) (index : Option Nat)
  /-- A numeral in a text, which shows this, stands next to an information separator, which numerals
  may not. -/
  | unreadable (shown : Text)
  /-- A key of a mapping cannot be written, for an integer beyond the digit limit. -/
  | keyTooLong
  /-- The placeholder declares no kind. -/
  | kindless
  /-- The caller's escaping fails with an error of its own name. -/
  | escaperFailed (name reason : Text)
  deriving DecidableEq

namespace Fault

/-- A numeral of this text stands next to an information separator. -/
abbrev unreadableNumber (t : Text) : Fault := unreadable (quoted t)

/-- Whether a fault blames the argument, and what of it; `none` for the faults that do not. -/
def refusal? : Fault → Option Refusal
  | notAllowed _ _ | notAName _ | skipOutsideBlock => some .type
  | integerTooLong | notFinite _ | noIntegerPart _ | outOfIntegerRange | outOfFloatRange
  | notAnInteger _ | notANumber _ | emptyIdentifier | unsafeIdentifier _ => some .value
  | refused what _ _ => some what
  | unreadable _ | keyTooLong | kindless | escaperFailed _ _ => none

/-- The index that a fault brings along; only the caller's escaping ever does. -/
def ownIndex? : Fault → Option Nat
  | refused _ _ index => index
  | _ => none

/-- The words for a kind of placeholder. -/
def place : Placeholder → Text
  | .generic => "a generic placeholder".toList
  | .integer => "an integer placeholder".toList
  | .float => "a float placeholder".toList
  | .identifier => "an identifier placeholder".toList
  | .array => "an array placeholder".toList

/-- The wording of a fault. -/
def reason : Fault → Text
  | notAllowed got .array =>
    "only a list or a mapping is allowed for ".toList ++ place .array ++ ", got ".toList ++ got
  | notAllowed got k => got ++ " is not allowed for ".toList ++ place k
  | notAName got => "identifier list may contain only strings, got ".toList ++ got
  | skipOutsideBlock => "skip marker used outside of a conditional block".toList
  | integerTooLong => "integer is too large to render".toList
  | notFinite x => "non-finite float ".toList ++ x.text ++ " cannot be rendered".toList
  | noIntegerPart x =>
    "non-finite float ".toList ++ x.text ++ " cannot be converted to integer".toList
  | outOfIntegerRange => "integer is out of 64-bit integer range".toList
  | outOfFloatRange => "integer is out of float range".toList
  | notAnInteger shown => shown ++ " is not an integer".toList
  | notANumber shown => shown ++ " is not a number".toList
  | emptyIdentifier => "empty identifier".toList
  | unsafeIdentifier shown =>
    "identifier ".toList ++ shown ++ " contains a backtick or control character".toList
  | refused _ text _ => text
  | unreadable shown => "could not convert string to float: ".toList ++ shown
  | keyTooLong => digitLimitMessage
  | kindless => "Unknown placeholder kind: None".toList
  | escaperFailed _ text => text

/-- The index reported for a fault of the argument `given`. An index that the fault brings along
wins, and a fault that does not blame the argument has none. -/
def index? (f : Fault) (given : Option Nat) : Option Nat :=
  if f.refusal?.isSome then f.ownIndex? <|> given else none

/-- The wording with the index of the argument, if one is reported. -/
def message (f : Fault) (given : Option Nat) : Text :=
  match f.index? given with
  | some i => "argument #".toList ++ integerText i ++ ": ".toList ++ f.reason
  | none => f.reason

end Fault

/-!
## String literals and scalars

A text becomes a literal between single quotes; its inside is escaped by the caller's function or,
where there is none, by a backslash in front of every backslash and every single quote.
-/

/-- The single quote around a literal. -/
def singleQuote : Char := '\x27'

/-- A character inside a literal. -/
def escapeChar (c : Char) : Text := if c = '\\' || c = singleQuote then ['\\', c] else [c]

/-- A backslash in front of every backslash and every single quote. -/
def escapeText (t : Text) : Text := t.flatMap escapeChar

/-- The same in two passes, of which the backslashes come first: the ones in front of the quotes
must not be escaped again. -/
theorem escapeText_eq_replaced (t : Text) :
    escapeText t =
      Text.replaced singleQuote ['\\', singleQuote] (Text.replaced '\\' ['\\', '\\'] t) := by
  have hchar : ∀ c : Char, escapeChar c =
      Text.replaced singleQuote ['\\', singleQuote] (if c = '\\' then ['\\', '\\'] else [c]) := by
    intro c
    by_cases hbackslash : c = '\\'
    · rw [hbackslash]
      rfl
    · by_cases hquote : c = singleQuote
      · rw [hquote]
        rfl
      · simp [escapeChar, Text.replaced, hbackslash, hquote]
  rw [Text.replaced, Text.replaced, List.flatMap_assoc, escapeText]
  congr 1
  funext c
  exact hchar c

/-- An escaping: the inside of a literal for a text, or a fault. -/
abbrev Escaper := Text → Except Fault Text

/-- What a compilation renders its arguments with. -/
structure Renderer where
  /-- The settings. -/
  options : Options
  /-- The escaping of texts. -/
  escaper : Escaper

/-- The escaping with backslashes never fails. -/
def backslashEscaper : Escaper := fun t => .ok (escapeText t)

/-- The text that stands for a null value. -/
def nullText : Text := "NULL".toList

/-- The text of a truth value. -/
def boolText (b : Bool) : Text := if b then ['1'] else ['0']

/-- The text of an integer within the digit limit. -/
def intText (i : Int) : Except Fault Text :=
  match integerText? i with
  | some t => .ok t
  | none => .error .integerTooLong

/-- The text of a finite number. -/
def floatText (x : Binary64) : Except Fault Text :=
  if x.isFinite then .ok x.text else .error (.notFinite x)

namespace Renderer

/-- A text between single quotes. -/
def literal (r : Renderer) (t : Text) : Except Fault Text := do
  let inside ← r.escaper t
  return singleQuote :: inside ++ [singleQuote]

/-- The text of a scalar. -/
def scalar (r : Renderer) (v : Value) : Except Fault Text :=
  match v.shape with
  | .null => .ok nullText
  | .bool b => .ok (boolText b)
  | .int i => intText i
  | .float x => floatText x
  | .text t => r.literal t
  | .member m => r.literal m.value
  | s => .error (.notAllowed s.describe .generic)

end Renderer

/-!
## Identifiers

An identifier stands between backticks. Nothing inside is escaped, so a name is checked unless the
options say otherwise: it is not empty and holds neither a backtick nor a control character. Of a
member of a choice of texts the text is checked, and the name of the member is written.
-/

/-- The quote around an identifier. -/
def backtick : Char := '\x60'

/-- A backtick or a control character of ASCII. -/
def isUnsafeInIdentifier (c : Char) : Bool := c = backtick || c.toNat < 0x20 || c.toNat = 0x7F

namespace Renderer

/-- A text as a name between backticks. Its characters are checked, and what is written for it
stands between the backticks. -/
def quoteName (r : Renderer) (characters shown written : Text) : Except Fault Text :=
  if r.options.validateIdentifiers && characters.isEmpty then .error .emptyIdentifier
  else if r.options.validateIdentifiers && characters.any isUnsafeInIdentifier then
    .error (.unsafeIdentifier shown)
  else .ok (backtick :: written ++ [backtick])

/-- A name between backticks. -/
def quoteIdentifier (r : Renderer) (name : Text) : Except Fault Text :=
  r.quoteName name (quoted name) name

/-- A member of a choice between backticks. -/
def quoteMember (r : Renderer) (m : Member) : Except Fault Text :=
  r.quoteName m.value (Display.member m) (Display.memberName m)

/-- An item of a list of identifiers. -/
def listedIdentifier (r : Renderer) (item : Value) : Except Fault Text :=
  match item.shape with
  | .text name => r.quoteIdentifier name
  | .member m => r.quoteMember m
  | s => .error (.notAName s.describe)

/-- The separator between the parts of a list. -/
def listSeparator : Text := ", ".toList

/-- The text of an argument of an identifier placeholder. -/
def identifier (r : Renderer) (v : Value) : Except Fault Text :=
  match v.shape with
  | .text name => r.quoteIdentifier name
  | .member m => r.quoteMember m
  | .items items => do return Text.joined listSeparator (← items.mapM r.listedIdentifier)
  | s => .error (.notAllowed s.describe .identifier)

end Renderer

/-!
## Arguments as numbers

An integer placeholder takes numbers and texts and renders an integer of 64 bits; a float
placeholder renders a number of the binary64 format. A text is read as a numeral: strictly, the
whole text must be one; loosely, the numeral at its start counts and a text without one is zero.
Integers beyond 64 bits are refused strictly and clamped loosely.
-/

/-- The least integer of 64 bits. -/
def leastInteger : Int := -(1 <<< 63 : Nat)

/-- The greatest integer of 64 bits. -/
def greatestInteger : Int := (1 <<< 63 : Nat) - 1

/-- An integer in the range of 64 bits: strictly only if it lies there, loosely the nearest one. -/
def fitInteger (c : Coercion) (i : Int) : Except Fault Int :=
  if leastInteger ≤ i && i ≤ greatestInteger then .ok i
  else
    match c with
    | .strict => .error .outOfIntegerRange
    | .loose => .ok (if 0 < i then greatestInteger else leastInteger)

/-- Whether blanks around a numeral keep it from being read as a number with a point. -/
def spoilsNumber (blanks : Text) : Bool := blanks.any isInformationSeparator

/-- The integer part of the number that a numeral with a point or an exponent denotes. An infinite
one counts as the bound on its side. -/
def integerPart (x : Binary64) : Int :=
  match x.truncated? with
  | some i => i
  | none => if x.isNegative then leastInteger else greatestInteger

/-- A text as an integer, not yet fitted; `shown` is what the text shows inside a message. -/
def integerOfText (c : Coercion) (t shown : Text) : Except Fault Int :=
  match c with
  | .strict =>
    match Numeral.readAll? t with
    | some (n, _) => if n.isInteger then .ok n.integer else .error (.notAnInteger shown)
    | none => .error (.notAnInteger shown)
  | .loose =>
    match Numeral.read? t with
    | none => .ok 0
    | some (n, _) =>
      if n.isInteger then .ok n.integer
      else if spoilsNumber n.lead then .error (.unreadableNumber n.text)
      else .ok (integerPart n.toBinary64)

/-- A text as a number with a point; `shown` is what the text shows inside a message. -/
def floatOfText (c : Coercion) (t shown : Text) : Except Fault Binary64 :=
  match c with
  | .strict =>
    match Numeral.readAll? t with
    | some (n, rest) =>
      if spoilsNumber n.lead || spoilsNumber rest then .error (.unreadable shown)
      else .ok n.toBinary64
    | none => .error (.notANumber shown)
  | .loose =>
    match Numeral.read? t with
    | none => .ok .zero
    | some (n, _) =>
      if spoilsNumber n.lead then .error (.unreadableNumber n.text) else .ok n.toBinary64

/-- An integer as a number with a point. -/
def floatOfInt (i : Int) : Except Fault Binary64 :=
  match Binary64.ofInt? i with
  | some x => .ok x
  | none => .error .outOfFloatRange

/-- A truth value as an integer. -/
def intOfBool (b : Bool) : Int := if b then 1 else 0

namespace Renderer

/-- The text of an integer that is fitted into 64 bits. -/
def fittedText (r : Renderer) (i : Int) : Except Fault Text := do
  return integerText (← fitInteger r.options.coercion i)

/-- The text of an argument of an integer placeholder. -/
def integer (r : Renderer) (v : Value) : Except Fault Text :=
  match v.shape with
  | .null => .ok nullText
  | .bool b => .ok (boolText b)
  | .int i => r.fittedText i
  | .float x =>
    match x.truncated? with
    | some i => r.fittedText i
    | none => .error (.noIntegerPart x)
  | .text t => do r.fittedText (← integerOfText r.options.coercion t (quoted t))
  | .member m => do
    r.fittedText (← integerOfText r.options.coercion m.value (Display.member m))
  | s => .error (.notAllowed s.describe .integer)

/-- The text of an argument of a float placeholder. -/
def float (r : Renderer) (v : Value) : Except Fault Text :=
  match v.shape with
  | .null => .ok nullText
  | .bool b => do floatText (← floatOfInt (intOfBool b))
  | .int i => do floatText (← floatOfInt i)
  | .float x => floatText x
  | .text t => do floatText (← floatOfText r.options.coercion t (quoted t))
  | .member m => do floatText (← floatOfText r.options.coercion m.value (Display.member m))
  | s => .error (.notAllowed s.describe .float)

end Renderer

/-!
## Arguments of every placeholder

An array placeholder takes a list, whose items become scalars, or a mapping, whose entries become
pairs of an identifier and a scalar. `Renderer.render` chooses by the kind of the placeholder alone;
whether the argument suits it is checked by what renders it.
-/

/-- The name that a key of a mapping stands for. -/
def keyName (key : Value) : Except Fault Text :=
  match key.keyText? with
  | some name => .ok name
  | none => .error .keyTooLong

namespace Renderer

/-- The separator between the key and the value of a pair. -/
def pairSeparator : Text := " = ".toList

/-- A pair of a column and a scalar. The key is rendered first. -/
def pair (r : Renderer) (entry : Value × Value) : Except Fault Text := do
  let name ← keyName entry.1
  let column ← r.quoteIdentifier name
  let value ← r.scalar entry.2
  return column ++ pairSeparator ++ value

/-- The text of an argument of an array placeholder. -/
def array (r : Renderer) (v : Value) : Except Fault Text :=
  match v.shape with
  | .items items => do return Text.joined listSeparator (← items.mapM r.scalar)
  | .entries entries => do return Text.joined listSeparator (← entries.mapM r.pair)
  | s => .error (.notAllowed s.describe .array)

/-- The text of an argument for a placeholder of the given kind. -/
def render (r : Renderer) (kind : Placeholder) (v : Value) : Except Fault Text :=
  match kind with
  | .generic => r.scalar v
  | .integer => r.integer v
  | .float => r.float v
  | .identifier => r.identifier v
  | .array => r.array v

/-- The text of an argument for a placeholder that may lack its kind. -/
def render? (r : Renderer) : Option Placeholder → Value → Except Fault Text
  | some kind, v => r.render kind v
  | none, _ => .error .kindless

end Renderer

end QueryTemplate
