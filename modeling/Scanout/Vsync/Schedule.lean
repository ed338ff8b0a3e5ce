import Scanout.Clock.HostTime

/-!
# The schedule of ticks

Ticks lie on a grid of whole periods. A timer that has fallen behind skips to the first grid point
after the present, so missed ticks are never made up in a burst.

`behind` and `skipped` are the two quantities of that jump: the time by which the deadline has
passed and the number of periods that lead past the present. `catchUp?` computes the jump with
checked registers, and has no result if the number of periods does not fit.
-/

set_option autoImplicit false

namespace Scanout.Vsync

/-- The distance of two ticks in the clock's register: at least one nanosecond. -/
def stride (period : Duration) : UInt64 :=
  if period.isZero then 1 else period.clampedNanos

def behind (deadline now : HostTime) : UInt64 := now.nanos - deadline.nanos

/-- The number of periods from a passed deadline to the first tick after the present. -/
def skipped (deadline : HostTime) (period : Duration) (now : HostTime) : UInt64 :=
  behind deadline now / stride period + 1

/-- The first tick that has not passed: the deadline itself, or else the first whole number of
periods behind it that lies after the present. -/
def catchUp (deadline : HostTime) (period : Duration) (now : HostTime) : HostTime :=
  if now.nanos ≤ deadline.nanos then deadline
  else
    ⟨saturatingAdd deadline.nanos (saturatingMul (skipped deadline period now) (stride period))⟩

/-- The same jump, if every difference, quotient and sum on the way fits its register. -/
def catchUp? (deadline : HostTime) (period : Duration) (now : HostTime) : Option HostTime :=
  if now.nanos ≤ deadline.nanos then some deadline
  else do
    let behind ← checkedSub? now.nanos deadline.nanos
    let periods ← checkedDiv? behind (stride period)
    let skipped ← checkedAdd? periods 1
    return ⟨saturatingAdd deadline.nanos (saturatingMul skipped (stride period))⟩

end Scanout.Vsync
