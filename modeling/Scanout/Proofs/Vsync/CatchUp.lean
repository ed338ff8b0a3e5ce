import Scanout.Proofs.Vsync.Grid

/-!
# Catching up to the first tick that has not passed

In exact numbers, the ticks of a timer that lie after the present form the set `ticksAfter`. A
deadline that has passed moves to the least of them, `nextTick`, or to the end of the clock where
that lies beyond it (`catchUp_caughtUp`).

A register is involved twice: a period that is too long for it counts as its greatest value, and a
product or sum that is too large stops there. Neither shows in the result, since a period that was
cut short leads to the end of the clock anyway (`min_tick_stride`).
-/

set_option autoImplicit false

namespace Scanout.Vsync

/-- The points of a grid that lie after the present. -/
def ticksAfter (start width now : Nat) : Set Nat :=
  {tick | (∃ count, tick = start + count * width) ∧ now < tick}

/-- The distance of two ticks in exact numbers. A period of zero counts as one nanosecond. -/
def exactStride (period : Duration) : Nat := max 1 period.nanos

/-- The least point of a grid after the present, where the grid starts before it. -/
def nextTick (start width now : Nat) : Nat := start + ((now - start) / width + 1) * width

theorem nextTick_isLeast {start width now : Nat} (positive : 0 < width) (begun : start ≤ now) :
    IsLeast (ticksAfter start width now) (nextTick start width now) := by
  unfold nextTick
  have beyond : now - start < ((now - start) / width + 1) * width := by
    rw [Nat.mul_comm]
    exact Nat.lt_mul_div_succ (now - start) positive
  refine ⟨⟨⟨_, rfl⟩, by omega⟩, ?_⟩
  rintro tick ⟨⟨count, rfl⟩, later⟩
  -- fewer periods than that do not lead past the present
  have enough : (now - start) / width < count := by
    apply (Nat.div_lt_iff_lt_mul positive).mpr
    omega
  have product : ((now - start) / width + 1) * width ≤ count * width :=
    Nat.mul_le_mul_right width enough
  omega

theorem nextTick_far (start width now : Nat) : start + width ≤ nextTick start width now := by
  unfold nextTick
  have one : width ≤ ((now - start) / width + 1) * width :=
    Nat.le_mul_of_pos_left width (Nat.succ_pos _)
  omega

/-- Up to the end of the clock, cutting a period short makes no difference. -/
theorem min_tick_stride (start now : Nat) (period : Duration) :
    min (nextTick start (stride period).toNat now) (UInt64.size - 1)
      = min (UInt64.size - 1) (nextTick start (exactStride period) now) := by
  have clamped := toNat_stride period
  have room : 1 ≤ UInt64.size - 1 := by decide
  by_cases fits : period.nanos ≤ UInt64.size - 1
  · have same : (stride period).toNat = exactStride period := by
      unfold exactStride
      omega
    rw [same, Nat.min_comm]
  · have short : (stride period).toNat = UInt64.size - 1 := by omega
    have long : UInt64.size - 1 ≤ exactStride period := by
      unfold exactStride
      omega
    have far := nextTick_far start (stride period).toNat now
    have farther := nextTick_far start (exactStride period) now
    omega

/-- What it means that a deadline has been brought up to the present, in exact numbers. -/
structure CaughtUp (deadline : HostTime) (period : Duration) (now result : HostTime) : Prop where
  unelapsed : now.nanos ≤ deadline.nanos → result = deadline
  elapsed : deadline.nanos < now.nanos → ∃ tick,
    IsLeast (ticksAfter deadline.nanos.toNat (exactStride period) now.nanos.toNat) tick
      ∧ result.nanos.toNat = min (UInt64.size - 1) tick
  notBefore : now.nanos ≤ result.nanos
  after : deadline.nanos < now.nanos → now.nanos < result.nanos

/-- **Before the very end of the clock, a deadline that has passed moves to the least tick after the
present, or to the end of the clock if that tick lies beyond it; any other deadline stays.** -/
theorem catchUp_caughtUp (deadline : HostTime) (period : Duration) {now : HostTime}
    (early : now.nanos < HostTime.last.nanos) :
    CaughtUp deadline period now (catchUp deadline period now) := by
  have inside : now.nanos.toNat < UInt64.size - 1 := toNat_last ▸ UInt64.lt_iff_toNat_lt.mp early
  have moved : deadline.nanos < now.nanos →
      IsLeast (ticksAfter deadline.nanos.toNat (exactStride period) now.nanos.toNat)
          (nextTick deadline.nanos.toNat (exactStride period) now.nanos.toNat)
        ∧ (catchUp deadline period now).nanos.toNat = min (UInt64.size - 1)
          (nextTick deadline.nanos.toNat (exactStride period) now.nanos.toNat) := by
    intro passed
    have begun : deadline.nanos.toNat < now.nanos.toNat := UInt64.lt_iff_toNat_lt.mp passed
    have positive : 0 < exactStride period := Nat.le_max_left 1 period.nanos
    refine ⟨nextTick_isLeast positive (Nat.le_of_lt begun), ?_⟩
    rw [toNat_catchUp period passed early, ← min_tick_stride]
    rfl
  have after : deadline.nanos < now.nanos → now.nanos < (catchUp deadline period now).nanos := by
    intro passed
    obtain ⟨⟨⟨_, later⟩, _⟩, result⟩ := moved passed
    apply UInt64.lt_iff_toNat_lt.mpr
    omega
  refine ⟨catchUp_of_le period, fun passed => ⟨_, moved passed⟩, ?_, after⟩
  rcases UInt64.le_or_lt now.nanos deadline.nanos with ahead | passed
  · rw [catchUp_of_le period ahead]
    exact ahead
  · exact UInt64.le_of_lt (after passed)

/-- A period of more than the whole clock: the next tick lies beyond its end. -/
theorem catchUp_caughtUp_long :
    (⟨1001⟩ : HostTime).nanos < HostTime.last.nanos
      ∧ CaughtUp ⟨1000⟩ ⟨UInt64.size + 7⟩ ⟨1001⟩ (catchUp ⟨1000⟩ ⟨UInt64.size + 7⟩ ⟨1001⟩)
      ∧ catchUp ⟨1000⟩ ⟨UInt64.size + 7⟩ ⟨1001⟩ = HostTime.last := by
  have early : (⟨1001⟩ : HostTime).nanos < HostTime.last.nanos := by decide
  exact ⟨early, catchUp_caughtUp ⟨1000⟩ ⟨UInt64.size + 7⟩ early, by decide⟩

/-- On the grid exactly, the tick of the present has passed. -/
example : catchUp ⟨1000⟩ ⟨10⟩ ⟨1030⟩ = ⟨1040⟩ := by decide

end Scanout.Vsync
