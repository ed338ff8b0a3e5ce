import Scanout.Decimal.Plain
import Scanout.Saturating

/-!
# Durations

A duration is a whole number of nanoseconds, without an upper bound.

`Duration.text` writes it in the largest of the units s, ms, µs and ns that leaves a non-zero whole
part. The fraction is exact and ends in a non-zero digit.
-/

set_option autoImplicit false

namespace Scanout

/-- A length of time in whole nanoseconds. -/
structure Duration where
  nanos : Nat
  deriving DecidableEq, Inhabited

namespace Duration

def zero : Duration := ⟨0⟩

def ofMillis (millis : Nat) : Duration := ⟨millis * 1000000⟩

def isZero (duration : Duration) : Bool := duration.nanos == 0

/-- The duration in a 64-bit register: too long a duration reads as the greatest value. -/
def clampedNanos (duration : Duration) : UInt64 :=
  saturate64 duration.nanos

/-- Seconds as a binary64 number: whole seconds and the fraction are rounded one by one. -/
def seconds (duration : Duration) : Float :=
  (UInt64.ofNat (duration.nanos / 1000000000)).toFloat
    + (UInt64.ofNat (duration.nanos % 1000000000)).toFloat / 1000000000.0

/-- The text of `nanos` in a unit of `10 ^ places` nanoseconds. -/
def textInUnit (nanos places : Nat) (unit : String) : String :=
  let whole := nanos / Nat.pow 10 places
  let fraction := Decimal.trimmedFraction places (nanos % Nat.pow 10 places)
  if fraction.isEmpty then toString whole ++ unit else toString whole ++ "." ++ fraction ++ unit

/-- The duration in its largest unit with a non-zero whole part, as in `16.666666ms`. -/
def text (duration : Duration) : String :=
  let nanos := duration.nanos
  if 1000000000 ≤ nanos then textInUnit nanos 9 "s"
  else if 1000000 ≤ nanos then textInUnit nanos 6 "ms"
  else if 1000 ≤ nanos then textInUnit nanos 3 "µs"
  else textInUnit nanos 0 "ns"

end Duration

end Scanout
