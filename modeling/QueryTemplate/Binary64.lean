import QueryTemplate.Text

/-!
# Numbers of the binary64 format

A number of the format is its 64 bits: a sign bit, eleven bits of exponent and fifty-two bits of
fraction. Nothing here uses machine arithmetic: a finite number is read as `± m · 2 ^ e` with a
natural `m` and an integer `e`, and everything said about it is said of `m` and `e`.

The bits below the sign, taken as one natural number, rise with the magnitude of the number, and
the infinity follows the largest finite number. Rounding relies on both.
-/

namespace QueryTemplate

/-- A number of the binary64 format. -/
structure Binary64 where
  /-- The 64 bits, the sign the most significant. -/
  bits : UInt64
  deriving DecidableEq

namespace Binary64

/-- What the bits of a number say. -/
inductive Reading where
  /-- Not a number, whatever its other bits. -/
  | nan
  /-- The infinity of a sign. -/
  | infinite (negative : Bool)
  /-- The number `± m · 2 ^ e`. -/
  | finite (negative : Bool) (m : Nat) (e : Int)
  deriving DecidableEq

/-- The least exponent of a finite number, which all numbers below the normal ones share. -/
def leastExponent : Int := -1074

/-- The first significand of the normal numbers. -/
def firstNormal : Nat := 1 <<< 52

/-- The magnitude bits of the infinity. -/
def infinityMagnitude : Nat := 2047 <<< 52

/-- The bits below the sign. -/
def magnitude (x : Binary64) : Nat := x.bits.toNat % (1 <<< 63)

/-- Whether the sign bit is set. -/
def isNegative (x : Binary64) : Bool := 1 <<< 63 ≤ x.bits.toNat

/-- Reads the three fields. The exponent field zero has no hidden bit; the largest field value
marks the infinities and everything that is no number. -/
def reading (x : Binary64) : Reading :=
  let field := x.magnitude >>> 52
  let fraction := x.magnitude % (1 <<< 52)
  if field = 2047 then
    if fraction = 0 then .infinite x.isNegative else .nan
  else if field = 0 then .finite x.isNegative fraction leastExponent
  else .finite x.isNegative (firstNormal + fraction) (leastExponent + (field - 1 : Nat))

/-- The number with the given sign and magnitude bits. -/
def ofMagnitude (negative : Bool) (magnitude : Nat) : Binary64 :=
  ⟨UInt64.ofNat ((if negative then 1 <<< 63 else 0) + magnitude)⟩

/-- Whether the number is neither infinite nor no number at all. -/
def isFinite (x : Binary64) : Bool := x.magnitude >>> 52 != 2047

/-- The positive zero. -/
def zero : Binary64 := ofMagnitude false 0

/-- The infinity of a sign. -/
def infinity (negative : Bool) : Binary64 := ofMagnitude negative infinityMagnitude

/-- A number that is no number. -/
def nan : Binary64 := ofMagnitude false (infinityMagnitude + 1 <<< 51)

/-- The number with the other sign. -/
def negated (x : Binary64) : Binary64 := ofMagnitude (!x.isNegative) x.magnitude

/-- The integer part: the exact value with what stands behind the point cut off. Only a finite
number has one. -/
def truncated? (x : Binary64) : Option Int :=
  match x.reading with
  | .finite negative m e =>
    let n : Nat := if 0 ≤ e then m <<< e.toNat else m >>> (-e).toNat
    some (if negative then -(n : Int) else n)
  | _ => none

end Binary64

/-!
## Rounding to binary64

An exact quotient of natural numbers becomes the nearest number of the format; of two equally near
ones, that with the even significand. A quotient beyond the largest finite number by half a step or
more becomes the infinity.
-/

/-- The natural number nearest to `num / den`; of two equally near ones, the even one. -/
def nearestEven (num den : Nat) : Nat :=
  let q := num / den
  let r := num % den
  if 2 * r < den then q
  else if den < 2 * r then q + 1
  else q + q % 2

/-- The exponent of the largest power of two that is at most `num / den`, for positive numbers. -/
def floorLog2 (num den : Nat) : Int :=
  let guess : Int := (Nat.log2 num : Int) - Nat.log2 den
  let reached : Bool :=
    if 0 ≤ guess then den <<< guess.toNat ≤ num else den ≤ num <<< (-guess).toNat
  if reached then guess else guess - 1

namespace Binary64

/-- The exponent of the significand's last bit in the number nearest to `num / den`. -/
def exponentFor (num den : Nat) : Int := max leastExponent (floorLog2 num den - 52)

/-- The magnitude bits of the number nearest to `num / den`. A significand that is rounded up to the
next power of two carries into the exponent field, which is the right number there as well. -/
def magnitudeOfRatio (num den : Nat) : Nat :=
  if num = 0 then 0
  else
    let e := exponentFor num den
    let significand :=
      if 0 ≤ e then nearestEven num (den <<< e.toNat)
      else nearestEven (num <<< (-e).toNat) den
    min infinityMagnitude ((e - leastExponent).toNat <<< 52 + significand)

/-- The number nearest to `± num / den`. -/
def ofRatio (negative : Bool) (num den : Nat) : Binary64 :=
  ofMagnitude negative (magnitudeOfRatio num den)

/-- An upper bound of the count of decimal digits of a positive number. -/
def digitBound (n : Nat) : Nat := n.log2 * 30103 / 100000 + 2

/-- The number nearest to `± digits · 10 ^ exponent`. Exponents that are out of reach for every
number of that many digits are decided without computing the power. -/
def ofDecimal (negative : Bool) (digits : Nat) (exponent : Int) : Binary64 :=
  if digits = 0 then ofMagnitude negative 0
  else if 400 < exponent then infinity negative
  else if (digitBound digits : Int) + exponent < -330 then ofMagnitude negative 0
  else if 0 ≤ exponent then ofRatio negative (digits * Nat.pow 10 exponent.toNat) 1
  else ofRatio negative digits (Nat.pow 10 (-exponent).toNat)

/-- The number nearest to an integer; `none` if that is an infinity. -/
def ofInt? (i : Int) : Option Binary64 :=
  let x := ofRatio (i < 0) i.natAbs 1
  if x.isFinite then some x else none

end Binary64

/-!
## The shortest decimal text of a binary64 number

Among the decimals that round to a given finite number, the shortest ones have the fewest digits,
and the one nearest to the number is taken. The search is exact: for one digit, two digits and so on
it looks at the two neighbours of the number on that decimal grid and takes a grid's neighbour as
soon as one lies in the interval that rounds to the number.
-/

/-- A decimal `digits · 10 ^ exponent`. -/
structure Decimal where
  /-- All digits as one number. -/
  digits : Nat
  /-- The power of ten of the last digit. -/
  exponent : Int
  deriving DecidableEq

/-- The reals that round to a number, and the number itself, in units of `2 ^ unit`. -/
structure Interval where
  /-- The lower end. -/
  low : Nat
  /-- The number. -/
  value : Nat
  /-- The upper end. -/
  high : Nat
  /-- The exponent of the unit. -/
  unit : Int
  /-- Whether the ends belong to the interval. -/
  closed : Bool

namespace Interval

/-- The interval of `m · 2 ^ e`. The step below a power of two is half the step above it, unless
the number has the least exponent. An end lies midway between two numbers and rounds to the even
one. -/
def around (m : Nat) (e : Int) : Interval where
  low := if m = Binary64.firstNormal && Binary64.leastExponent < e then 4 * m - 1 else 4 * m - 2
  value := 4 * m
  high := 4 * m + 2
  unit := e - 2
  closed := m % 2 = 0

/-- The numbers `n` of units and `10 ^ k` as natural numbers of one common unit. -/
def scaled (i : Interval) (k : Int) (n : Nat) : Nat :=
  (if 0 ≤ i.unit then n <<< i.unit.toNat else n) * (if 0 ≤ k then 1 else Nat.pow 10 (-k).toNat)

/-- The step `10 ^ k` of a decimal grid in the common unit of `scaled`. -/
def step (i : Interval) (k : Int) : Nat :=
  (if 0 ≤ i.unit then 1 else 1 <<< (-i.unit).toNat) * (if 0 ≤ k then Nat.pow 10 k.toNat else 1)

/-- Whether the point `d · 10 ^ k` lies in the interval. -/
def holds (i : Interval) (k : Int) (d : Nat) : Bool :=
  let point := d * i.step k
  let low := i.scaled k i.low
  let high := i.scaled k i.high
  if i.closed then low ≤ point && point ≤ high else low < point && point < high

/-- The neighbour of the number on the grid of step `10 ^ k` that lies in the interval; of two, the
nearer one, and of two equally near ones the even one. -/
def gridPoint? (i : Interval) (k : Int) : Option Nat :=
  let value := i.scaled k i.value
  let step := i.step k
  let below := value / step
  let rest := value % step
  match i.holds k below, i.holds k (below + 1) with
  | true, true =>
    some (if 2 * rest < step || (2 * rest = step && below % 2 = 0) then below else below + 1)
  | true, false => some below
  | false, true => some (below + 1)
  | false, false => none

/-- The first grid with a point in the interval, from the step `10 ^ k` on to finer steps, for at
most `count` grids; past them the finest grid's lower neighbour. -/
def firstPoint (i : Interval) : Nat → Int → Decimal
  | 0, k => ⟨i.scaled k i.value / i.step k, k⟩
  | count + 1, k =>
    match i.gridPoint? k with
    | some d => ⟨d, k⟩
    | none => firstPoint i count (k - 1)

/-- The power of ten of the leading digit of the number, or the next one. -/
def leadingPower (i : Interval) : Int :=
  let bits : Int := (Nat.log2 i.value : Int) + i.unit
  Int.fdiv (bits * 30103) 100000 + 1

end Interval

/-- A decimal without zeros at the end of its digits. -/
def Decimal.withoutTrailingZeros : Nat → Decimal → Decimal
  | 0, d => d
  | fuel + 1, d =>
    if d.digits ≠ 0 && d.digits % 10 = 0 then
      withoutTrailingZeros fuel ⟨d.digits / 10, d.exponent + 1⟩
    else d

/-- The shortest decimal that rounds to the positive number `m · 2 ^ e`, and the nearest of those.
The first grid may lie above the number, and on the grid of seventeen digits there is always a
point, so the search ends within nineteen grids. -/
def shortestDecimal (m : Nat) (e : Int) : Decimal :=
  let interval := Interval.around m e
  let found := interval.firstPoint 19 interval.leadingPower
  found.withoutTrailingZeros 400

/-- How the digits of a number are set out. -/
structure DecimalLayout where
  /-- The least power of ten of a leading digit that is written without an exponent. -/
  leastPositional : Int
  /-- The greatest power of ten of a leading digit that is written without an exponent. -/
  greatestPositional : Int
  /-- The least count of digits in an exponent. -/
  exponentWidth : Nat

namespace DecimalLayout

/-- The layout of numbers in queries and messages: positional from `0.0001` to below `1e+16`, and
exponents of two digits or more. -/
def query : DecimalLayout where
  leastPositional := -4
  greatestPositional := 15
  exponentWidth := 2

/-- An exponent: its sign always, and zeros in front up to the least width. -/
def exponentText (layout : DecimalLayout) (power : Int) : Text :=
  let digits := Digits.ofNat power.natAbs
  (if power < 0 then '-' else '+') ::
    Text.filled (layout.exponentWidth - digits.length) '0' ++ digits

/-- The text of a decimal. Positional notation always has a point with a digit on each of its sides;
with an exponent the point stands behind the first digit, if another follows. -/
def text (layout : DecimalLayout) (d : Decimal) : Text :=
  let digits := Digits.ofNat d.digits
  let power : Int := d.exponent + digits.length - 1
  if layout.leastPositional ≤ power && power ≤ layout.greatestPositional then
    if power < 0 then "0.".toList ++ Text.filled (-power - 1).toNat '0' ++ digits
    else
      let whole := power.toNat + 1
      let fraction := digits.drop whole
      digits.take whole ++ Text.filled (whole - digits.length) '0' ++ '.' ::
        (if fraction.isEmpty then ['0'] else fraction)
  else
    digits.take 1 ++ (if digits.length = 1 then [] else '.' :: digits.drop 1) ++
      'e' :: layout.exponentText power

end DecimalLayout

namespace Binary64

/-- The text of a number: the shortest decimal that reads back as the number. -/
def text (x : Binary64) : Text :=
  match x.reading with
  | .nan => "nan".toList
  | .infinite negative => if negative then "-inf".toList else "inf".toList
  | .finite negative m e =>
    let digits := DecimalLayout.query.text (if m = 0 then ⟨0, 0⟩ else shortestDecimal m e)
    if negative then '-' :: digits else digits

end Binary64

end QueryTemplate
