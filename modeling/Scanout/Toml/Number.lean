import Scanout.Toml.Scan

/-!
# Reading TOML: numbers

Whole numbers are decimal with a sign, or hexadecimal, octal or binary without one, and fit a signed
register of 64 bits. A number with a fraction or an exponent is a binary64 number; one that is too
large is refused, while one that is too small in the negative is minus infinity.
-/

set_option autoImplicit false

namespace Scanout.Toml

def sign : List Char → Bool × List Char
  | '-' :: rest => (true, rest)
  | '+' :: rest => (false, rest)
  | input => (false, input)

/-- Reads decimal digits without a zero in front. -/
def wholeDigits : Reader (List Char)
  | '0' :: rest => some (['0'], rest)
  | input => digits (isDigitIn 10) input

def signed (negative : Bool) (magnitude : Nat) : Int := if negative then -magnitude else magnitude

/-- The number, if it fits a signed register of 64 bits. -/
def fitting? (number : Int) : Option Int :=
  if Int64.minValue.toInt ≤ number ∧ number ≤ Int64.maxValue.toInt then some number else none

/-- Reads the digits of a whole number to a base other than ten. -/
def wholeInBase (base : Nat) : Reader Int := fun input => do
  let (found, rest) ← digits (isDigitIn base) input
  let number ← fitting? (valueOf base found)
  some (number, rest)

def whole : Reader Int
  | '0' :: 'x' :: rest => wholeInBase 16 rest
  | '0' :: 'o' :: rest => wholeInBase 8 rest
  | '0' :: 'b' :: rest => wholeInBase 2 rest
  | input => do
    let (negative, rest) := sign input
    let (found, rest) ← wholeDigits rest
    let number ← fitting? (signed negative (valueOf 10 found))
    some (number, rest)

/-- The binary64 number nearest to `significand * 10 ^ exponent`. Exponents beyond the range of all
numbers are decided without computing the power. -/
def decimalFloat (significand : Nat) (exponent : Int) : Float :=
  let magnitude := exponent + (Nat.toDigits 10 significand).length
  if significand = 0 ∨ magnitude < -400 then 0.0
  else if 400 < magnitude then 1.0 / 0.0
  else Float.ofScientific significand (exponent < 0) exponent.natAbs

def fraction : Reader (List Char)
  | '.' :: rest => digits (isDigitIn 10) rest
  | _ => none

def exponent : Reader Int := fun input => do
  let rest ← match input with
    | 'e' :: rest => some rest
    | 'E' :: rest => some rest
    | _ => none
  let (negative, rest) := sign rest
  let (found, rest) ← digits (isDigitIn 10) rest
  some (signed negative (valueOf 10 found), rest)

/-- Reads a fraction and an exponent, of which one may be missing. -/
def fractionAndExponent : Reader (List Char × Int) := fun input =>
  match fraction input with
  | none => (exponent input).map fun (power, rest) => (([], power), rest)
  | some (places, rest) =>
    match exponent rest with
    | none => some ((places, 0), rest)
    | some (power, rest) => some ((places, power), rest)

/-- The number with its sign, unless it is too large. -/
def bounded? (negative : Bool) (number : Float) : Option Float :=
  if negative then some (-number) else if number.isInf then none else some number

/-- Reads the name of a number that has no digits. -/
def named : Reader Float := fun input =>
  let (negative, rest) := sign input
  match rest with
  | 'i' :: 'n' :: 'f' :: rest => some (if negative then -1.0 / 0.0 else 1.0 / 0.0, rest)
  | 'n' :: 'a' :: 'n' :: rest => some (0.0 / 0.0, rest)
  | _ => none

def real : Reader Float := fun input =>
  let (negative, rest) := sign input
  match wholeDigits rest with
  | none => named input
  | some (found, rest) => do
    let ((places, power), rest) ← fractionAndExponent rest
    let number ← bounded? negative
      (decimalFloat (valueOf 10 (found ++ places)) (power - places.length))
    some (number, rest)

end Scanout.Toml
