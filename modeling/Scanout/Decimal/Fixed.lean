import Scanout.Decimal.Binary
import Scanout.Decimal.Plain

/-!
# Numbers with a fixed count of places

The exact value is rounded to the nearest multiple of the last place, and a value half-way between
two multiples goes to the even one.

Main facts: `roundToEven_le_add_half` and `sub_half_le_roundToEven` bound the error by half a unit.
-/

set_option autoImplicit false

namespace Scanout.Decimal

/-- The whole number nearest to `numerator / denominator`; a half goes to the even neighbour. -/
def roundToEven (numerator denominator : Nat) : Nat :=
  let quotient := numerator / denominator
  let remainder := numerator % denominator
  if 2 * remainder < denominator then quotient
  else if denominator < 2 * remainder then quotient + 1
  else if quotient % 2 = 0 then quotient else quotient + 1

theorem roundToEven_le_add_half (numerator denominator : Nat) :
    2 * (denominator * roundToEven numerator denominator) ≤ 2 * numerator + denominator := by
  have split := Nat.div_add_mod numerator denominator
  simp only [roundToEven]
  split
  · omega
  · split
    · rw [Nat.mul_add]
      omega
    · split
      · omega
      · rw [Nat.mul_add]
        omega

theorem sub_half_le_roundToEven (numerator denominator : Nat) (positive : 0 < denominator) :
    2 * numerator ≤ 2 * (denominator * roundToEven numerator denominator) + denominator := by
  have split := Nat.div_add_mod numerator denominator
  have small := Nat.mod_lt numerator positive
  simp only [roundToEven]
  split
  · omega
  · split
    · rw [Nat.mul_add]
      omega
    · split
      · omega
      · rw [Nat.mul_add]
        omega

/-- A whole number of units of `10 ^ -places`, written with that many places. -/
def placesText (places units : Nat) : String :=
  toString (units / Nat.pow 10 places) ++ "." ++ padded places (units % Nat.pow 10 places)

/-- A number with `places` places after the point. -/
def fixedText (places : Nat) (number : Float) : String :=
  match readBinary64 number.toBits with
  | .nan => "NaN"
  | .infinite negative => if negative then "-inf" else "inf"
  | .finite value =>
    let units := roundToEven (value.numerator * Nat.pow 10 places) value.denominator
    (if value.negative then "-" else "") ++ placesText places units

end Scanout.Decimal
