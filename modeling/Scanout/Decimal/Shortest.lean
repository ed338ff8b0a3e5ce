import Scanout.Decimal.Binary
import Scanout.Decimal.Plain

/-!
# The shortest decimal that reads back

Every binary64 number owns an interval of reals that round to it. Its shortest decimal is the
point of the coarsest decimal grid `10 ^ scale` that lies in the interval; of two such points the
nearer one. A grid has a point in the interval only if one of the number's two neighbours on that
grid is one, so only those two are tried.

`Style` collects what is a matter of taste: which numbers are written without an exponent, and how
an exponent, a missing fraction and the special values look.
-/

set_option autoImplicit false

namespace Scanout.Decimal

/-- The positive reals `low / unit` to `high / unit` that round to `value / unit`. -/
structure Interval where
  low : Nat
  value : Nat
  high : Nat
  unit : Nat
  closed : Bool
  deriving Inhabited

/-- The interval of the reals that round to a positive binary64 number. The gap below a power of
two is half the gap above it, and the ends belong to the number with an even significand. -/
def Binary.interval (number : Binary) : Interval :=
  let powerOfTwo := number.significand == leastNormalSignificand && leastExponent < number.exponent
  let scale := Nat.pow 2 (number.exponent - 2).toNat
  { low := (4 * number.significand - if powerOfTwo then 1 else 2) * scale
    value := 4 * number.significand * scale
    high := (4 * number.significand + 2) * scale
    unit := Nat.pow 2 (2 - number.exponent).toNat
    closed := number.significand % 2 == 0 }

namespace Interval

/-- The same interval measured in units of `10 ^ scale`. -/
def onGrid (interval : Interval) (scale : Int) : Interval :=
  let shrink := Nat.pow 10 (-scale).toNat
  { interval with
    low := interval.low * shrink
    value := interval.value * shrink
    high := interval.high * shrink
    unit := interval.unit * Nat.pow 10 scale.toNat }

def holds (interval : Interval) (point : Nat) : Bool :=
  let position := point * interval.unit
  if interval.closed then interval.low ≤ position && position ≤ interval.high
  else interval.low < position && position < interval.high

/-- The nearest whole number in the interval. A point half-way between two goes up. -/
def nearest? (interval : Interval) : Option Nat :=
  let below := interval.value / interval.unit
  let above := below + 1
  let rounded :=
    if 2 * (interval.value % interval.unit) < interval.unit then below else above
  match interval.holds below && below != 0, interval.holds above with
  | true, true => some rounded
  | true, false => some below
  | false, true => some above
  | false, false => none

/-- How many times a fraction below one is multiplied by ten until it reaches one. -/
def tensUntilOne : Nat → Nat → Nat → Nat
  | 0, _, _ => 0
  | fuel + 1, numerator, denominator =>
    if denominator ≤ numerator then 0 else tensUntilOne fuel (numerator * 10) denominator + 1

/-- The power of ten of the leading digit of the interval's value. -/
def order (interval : Interval) : Int :=
  if interval.unit ≤ interval.value then
    ((toString (interval.value / interval.unit)).length : Int) - 1
  else
    -(tensUntilOne 400 interval.value interval.unit : Int)

/-- The first grid with a point in the interval, out of the next grids from `count` digits on. If
none of them has one, the point below the value on the grid behind them. -/
def shortestFrom (interval : Interval) : Nat → Nat → Nat × Int
  | 0, count =>
    let scale := interval.order + 1 - count
    let grid := interval.onGrid scale
    (grid.value / grid.unit, scale)
  | more + 1, count =>
    let scale := interval.order + 1 - count
    match (interval.onGrid scale).nearest? with
    | some point => (point, scale)
    | none => shortestFrom interval more (count + 1)

/-- A point and the scale of its grid: the shortest decimal of the interval. Seventeen digits
always suffice. -/
def shortest (interval : Interval) : Nat × Int := interval.shortestFrom 17 1

end Interval

structure Style where
  /-- The least power of ten that is written without an exponent. -/
  positionalFrom : Int
  /-- The least power of ten that is written with an exponent again. -/
  positionalBelow : Int
  /-- What stands behind a whole number without an exponent. -/
  wholeSuffix : String
  exponentMark : String
  nan : String
  infinity : String

/-- Digits with a point behind the first `place` of them. -/
def positional (style : Style) (digits : List Char) (place : Int) : String :=
  if place ≤ 0 then
    "0." ++ String.ofList (List.replicate (-place).toNat '0' ++ digits)
  else if digits.length ≤ place.toNat then
    String.ofList (digits ++ List.replicate (place.toNat - digits.length) '0') ++ style.wholeSuffix
  else
    String.ofList (digits.take place.toNat) ++ "." ++ String.ofList (digits.drop place.toNat)

def scientific (style : Style) (digits : List Char) (order : Int) : String :=
  let fraction := digits.drop 1
  String.ofList (digits.take 1)
    ++ (if fraction.isEmpty then "" else "." ++ String.ofList fraction)
    ++ style.exponentMark ++ toString order

def Binary.text (style : Style) (number : Binary) : String :=
  if number.significand = 0 then "0" ++ style.wholeSuffix
  else
    let (point, scale) := number.interval.shortest
    let written := (toString point).toList
    let order := (written.length : Int) - 1 + scale
    let digits := dropTrailingZeros written
    if style.positionalFrom ≤ order ∧ order < style.positionalBelow then
      positional style digits (order + 1)
    else
      scientific style digits order

def Style.text (style : Style) (number : Float) : String :=
  match readBinary64 number.toBits with
  | .nan => style.nan
  | .infinite negative => (if negative then "-" else "") ++ style.infinity
  | .finite value => (if value.negative then "-" else "") ++ value.text style

end Scanout.Decimal
