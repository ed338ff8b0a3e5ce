import Scanout.Clock.Duration

/-!
# Host time

A point on the monotonic clock, counted in nanoseconds in a 64-bit register. Sums stop at the end
of the register and differences at zero; `HostTime.checkedAdd?` reports the end instead.
-/

set_option autoImplicit false

namespace Scanout

/-- A point on the monotonic clock, in nanoseconds. -/
structure HostTime where
  nanos : UInt64
  deriving DecidableEq, Inhabited

namespace HostTime

def last : HostTime := ⟨UInt64.ofNat (UInt64.size - 1)⟩

/-- The later point, if the clock reaches it. -/
def checkedAdd? (time : HostTime) (duration : Duration) : Option HostTime :=
  if time.nanos.toNat + duration.nanos < UInt64.size then
    some ⟨UInt64.ofNat (time.nanos.toNat + duration.nanos)⟩
  else none

/-- The later point, or the last point of the clock. -/
def add (time : HostTime) (duration : Duration) : HostTime :=
  (time.checkedAdd? duration).getD last

/-- The time from `earlier` on, or no time if `earlier` is later. -/
def since (time earlier : HostTime) : Duration := ⟨time.nanos.toNat - earlier.nanos.toNat⟩

def compare (time other : HostTime) : Ordering := Ord.compare time.nanos.toNat other.nanos.toNat

def text (time : HostTime) : String := "HostTime(" ++ toString time.nanos.toNat ++ ")"

def micros (time : HostTime) : Float := time.nanos.toFloat / 1000.0

theorem toNat_add (time : HostTime) (duration : Duration) :
    (time.add duration).nanos.toNat =
      min (time.nanos.toNat + duration.nanos) (UInt64.size - 1) := by
  unfold add checkedAdd?
  split
  · rename_i fits
    rw [Option.getD_some, UInt64.toNat_ofNat_of_lt' fits]
    omega
  · have limit : last.nanos.toNat = UInt64.size - 1 := by decide
    rw [Option.getD_none, limit]
    omega

end HostTime

end Scanout
