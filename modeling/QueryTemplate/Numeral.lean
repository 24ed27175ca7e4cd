import QueryTemplate.Binary64
import QueryTemplate.Text

/-!
# Numerals at the start of a text

A numeral is blanks, a sign if there is one, digits with at most one point among them, and an
exponent if there is one. Its digits may be of any script. A text is read from its start as far as
a numeral goes, so `12abc` begins with the numeral `12`, `1e` with `1`, and `.` with none.
-/

namespace QueryTemplate

/-- The exponent of a numeral. -/
structure Numeral.Exponent where
  /-- The letter, `e` or `E`. -/
  mark : Char
  /-- The sign, if one is written. -/
  sign : Option Char
  /-- The digits. -/
  digits : Text
  deriving DecidableEq

/-- A numeral by its parts. -/
structure Numeral where
  /-- The blanks before it. -/
  lead : Text
  /-- The sign, if one is written. -/
  sign : Option Char
  /-- The digits before the point. -/
  whole : Text
  /-- The digits after the point, if a point is written. -/
  fraction : Option Text
  /-- The exponent, if one is written. -/
  exponent : Option Numeral.Exponent
  deriving DecidableEq

namespace Numeral

/-- Whether a character is a sign. -/
def isSign (c : Char) : Bool := c = '+' || c = '-'

/-- The sign at the start of a text, and what follows it. -/
def splitSign : Text → Option Char × Text
  | [] => (none, [])
  | c :: rest => if isSign c then (some c, rest) else (none, c :: rest)

/-- The exponent at the start of a text, and what follows it. A letter without digits after it is no
exponent and stays in the text. -/
def splitExponent : Text → Option Exponent × Text
  | [] => (none, [])
  | c :: rest =>
    if c = 'e' || c = 'E' then
      let (sign, digits) := splitSign rest
      if (digits.takeWhile isDigit).isEmpty then (none, c :: rest)
      else (some ⟨c, sign, digits.takeWhile isDigit⟩, digits.dropWhile isDigit)
    else (none, c :: rest)

/-- The point at the start of a text with the digits behind it, and what follows them. -/
def splitFraction : Text → Option Text × Text
  | '.' :: rest => (some (rest.takeWhile isDigit), rest.dropWhile isDigit)
  | t => (none, t)

/-- The longest numeral at the start of a text, and what follows it. There is none unless a digit
stands on one of the two sides of the point. -/
def read? (t : Text) : Option (Numeral × Text) :=
  let (lead, t) := t.splitWhile isBlank
  let (sign, t) := splitSign t
  let (whole, t) := t.splitWhile isDigit
  let (fraction, t) := splitFraction t
  if whole.isEmpty && (fraction.getD []).isEmpty then none
  else
    let (exponent, t) := splitExponent t
    some (⟨lead, sign, whole, fraction, exponent⟩, t)

/-- The numeral that is the whole of a text, blanks at the end aside, and those blanks. -/
def readAll? (t : Text) : Option (Numeral × Text) :=
  match read? t with
  | some (n, rest) => if rest.all isBlank then some (n, rest) else none
  | none => none

/-- The text of an exponent. -/
def Exponent.text (e : Exponent) : Text := e.mark :: e.sign.toList ++ e.digits

/-- The text of a numeral. -/
def text (n : Numeral) : Text :=
  n.lead ++ n.sign.toList ++ n.whole ++ (n.fraction.map ('.' :: ·)).getD [] ++
    (n.exponent.map Exponent.text).getD []

/-- Whether the numeral has a minus sign. -/
def isNegative (n : Numeral) : Bool := n.sign = some '-'

/-- Whether the numeral has neither point nor exponent. -/
def isInteger (n : Numeral) : Bool := n.fraction.isNone && n.exponent.isNone

/-- The greatest count of digits that is read exactly: every number of 64 bits has at most
nineteen. -/
def significantLimit : Nat := 19

/-- The number that the digits before the point denote, with the sign of the numeral. Of longer
texts only the ASCII zeros in front are looked at: more than nineteen digits behind them stand for
the first number beyond the range of 64 bits on their side. -/
def integer (n : Numeral) : Int :=
  let digits := n.whole.dropWhile (· = '0')
  if significantLimit < digits.length then
    if n.isNegative then -(1 <<< 63 : Nat) - 1 else (1 <<< 63 : Nat)
  else if n.isNegative then -(Digits.value digits : Int)
  else Digits.value digits

/-- The value of an exponent. -/
def Exponent.value (e : Exponent) : Int :=
  if e.sign = some '-' then -(Digits.value e.digits : Int) else Digits.value e.digits

/-- The number of the binary64 format nearest to the numeral. -/
def toBinary64 (n : Numeral) : Binary64 :=
  let fraction := n.fraction.getD []
  let power : Int := (n.exponent.map Exponent.value).getD 0
  Binary64.ofDecimal n.isNegative (Digits.value (n.whole ++ fraction)) (power - fraction.length)

end Numeral

end QueryTemplate
