/-!
# Binary numbers read from their bits

A finite binary64 number is a sign, a whole significand and a power of two. Everything that is
printed about a `Float` starts from this exact value.
-/

set_option autoImplicit false

namespace Scanout.Decimal

/-- The number `significand * 2 ^ exponent`, negated if `negative`. -/
structure Binary where
  negative : Bool
  significand : Nat
  exponent : Int
  deriving DecidableEq, Inhabited

inductive Reading where
  | nan
  | infinite (negative : Bool)
  | finite (value : Binary)
  deriving DecidableEq, Inhabited

def leastNormalSignificand : Nat := 1 <<< 52

def leastExponent : Int := -1074

def readBinary64 (bits : UInt64) : Reading :=
  let negative := bits.toNat >>> 63 == 1
  let biased : Nat := (bits.toNat >>> 52) % 2048
  let fraction : Nat := bits.toNat % leastNormalSignificand
  if biased = 2047 then
    if fraction = 0 then .infinite negative else .nan
  else if biased = 0 then
    .finite ⟨negative, fraction, leastExponent⟩
  else
    .finite ⟨negative, leastNormalSignificand + fraction, (biased : Int) - 1075⟩

namespace Binary

/-- Numerator of the magnitude, as a fraction over `denominator`. -/
def numerator (value : Binary) : Nat := value.significand <<< value.exponent.toNat

def denominator (value : Binary) : Nat := 1 <<< (-value.exponent).toNat

end Binary

end Scanout.Decimal
