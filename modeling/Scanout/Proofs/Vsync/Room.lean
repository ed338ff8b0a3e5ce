import Scanout.Proofs.Vsync.Grid

/-!
# The room that catching up needs

Catching up works in registers of 64 bits. Its product and its last sum saturate; its difference,
its quotient and the sum that counts the periods have to fit. The difference does, since it is only
taken when the deadline has passed, and so does the quotient, since a stride is never zero. The
count of periods fits with one exception, `WholeClock`: from the first point of the clock to the
last in steps of a nanosecond there is one period too many (`skipped_fits_iff`).

`catchUp_safe` is the result for all deadlines, periods and presents.
-/

set_option autoImplicit false

namespace Scanout.Vsync

/-- The whole clock lies between the deadline and the present, in steps of a nanosecond. -/
def WholeClock (deadline : HostTime) (period : Duration) (now : HostTime) : Prop :=
  deadline = ⟨0⟩ ∧ now = HostTime.last ∧ period.nanos ≤ 1

theorem wholeClock_iff_toNat {deadline now : HostTime} {period : Duration} :
    WholeClock deadline period now ↔ deadline.nanos.toNat = 0
      ∧ now.nanos.toNat = UInt64.size - 1 ∧ (stride period).toNat = 1 := by
  obtain ⟨first⟩ := deadline
  obtain ⟨present⟩ := now
  have zero : (⟨first⟩ : HostTime) = ⟨0⟩ ↔ first.toNat = 0 := by
    rw [HostTime.mk.injEq, ← UInt64.toNat_inj, UInt64.toNat_zero]
  have last : (⟨present⟩ : HostTime) = HostTime.last ↔ present.toNat = UInt64.size - 1 := by
    rw [← toNat_last, UInt64.toNat_inj, HostTime.last, HostTime.mk.injEq]
  have one : period.nanos ≤ 1 ↔ (stride period).toNat = 1 := by
    have clamped := toNat_stride period
    have room : 1 < UInt64.size - 1 := by decide
    omega
  exact and_congr zero (and_congr last one)

/-- A quotient reaches the end of the register only for the greatest dividend and the divisor
one. -/
theorem div_add_one_lt_iff {dividend divisor limit : Nat} (positive : 0 < divisor)
    (great : 1 < limit) (fits : dividend < limit) :
    dividend / divisor + 1 < limit ↔ ¬ (dividend = limit - 1 ∧ divisor = 1) := by
  constructor
  · rintro small ⟨rfl, rfl⟩
    rw [Nat.div_one] at small
    omega
  · intro other
    by_cases one : divisor = 1
    · subst one
      rw [Nat.div_one]
      omega
    · have half : dividend / divisor ≤ dividend / 2 := Nat.div_le_div_left (by omega) (by decide)
      omega

theorem skipped_fits_iff {deadline now : HostTime} (period : Duration)
    (passed : deadline.nanos < now.nanos) :
    (now.nanos.toNat - deadline.nanos.toNat) / (stride period).toNat + 1 < UInt64.size
      ↔ ¬ WholeClock deadline period now := by
  have room : 1 < UInt64.size := by decide
  have begun := UInt64.lt_iff_toNat_lt.mp passed
  have inside : now.nanos.toNat < UInt64.size := now.nanos.toNat_lt
  rw [div_add_one_lt_iff (stride_pos period) room (by omega), wholeClock_iff_toNat]
  omega

/-- With a count of periods that fits, the result is not before the present. -/
theorem le_catchUp {deadline now : HostTime} {period : Duration}
    (fits : ¬ WholeClock deadline period now) :
    now.nanos ≤ (catchUp deadline period now).nanos := by
  rcases UInt64.le_or_lt now.nanos deadline.nanos with ahead | passed
  · rw [catchUp_of_le period ahead]
    exact ahead
  · have caught := toNat_catchUp_of_fits passed ((skipped_fits_iff period passed).mpr fits)
    have beyond := Nat.lt_mul_div_succ (now.nanos.toNat - deadline.nanos.toNat) (stride_pos period)
    have inside : now.nanos.toNat < UInt64.size := now.nanos.toNat_lt
    rw [Nat.mul_comm] at beyond
    apply UInt64.le_iff_toNat_le.mpr
    omega

/-- With one period too many the count starts over at none, and the deadline stays. -/
theorem catchUp_wholeClock {deadline now : HostTime} {period : Duration}
    (whole : WholeClock deadline period now) :
    deadline.nanos < now.nanos ∧ catchUp deadline period now = deadline := by
  obtain ⟨first, last, one⟩ := wholeClock_iff_toNat.mp whole
  obtain ⟨rfl, rfl, -⟩ := whole
  have passed : (⟨0⟩ : HostTime).nanos < HostTime.last.nanos := by decide
  have step : stride period = 1 := UInt64.toNat_inj.mp one
  refine ⟨passed, ?_⟩
  rw [catchUp, if_neg (UInt64.not_le.mpr passed), skipped, step]
  decide

theorem checkedAdd?_one (count : UInt64) :
    checkedAdd? count 1 = if count.toNat + 1 < UInt64.size then some (count + 1) else none := rfl

/-- Once the deadline has passed, only the count of periods can fail to fit. -/
theorem catchUp?_of_passed {deadline now : HostTime} (period : Duration)
    (passed : deadline.nanos < now.nanos) :
    checkedSub? now.nanos deadline.nanos = some (behind deadline now)
      ∧ checkedDiv? (behind deadline now) (stride period)
        = some (behind deadline now / stride period)
      ∧ catchUp? deadline period now
        = (checkedAdd? (behind deadline now / stride period) 1).map fun _ =>
            catchUp deadline period now := by
  have difference : checkedSub? now.nanos deadline.nanos = some (behind deadline now) :=
    if_pos (UInt64.le_of_lt passed)
  have nonzero : stride period ≠ 0 := fun zero => by
    have positive := stride_pos period
    rw [zero] at positive
    exact Nat.lt_irrefl 0 positive
  have quotient : checkedDiv? (behind deadline now) (stride period)
      = some (behind deadline now / stride period) := if_neg nonzero
  refine ⟨difference, quotient, ?_⟩
  rw [catchUp?, catchUp, if_neg (UInt64.not_le.mpr passed), if_neg (UInt64.not_le.mpr passed),
    difference, Option.bind_eq_bind, Option.bind_some, quotient, Option.bind_some, checkedAdd?_one,
    skipped]
  split <;> rfl

/-- **For all deadlines, periods and presents, catching up stays within its registers unless the
whole clock lies between deadline and present, in steps of a nanosecond.** Neither the difference nor
the quotient ever fails; only the count of periods does. Where it fits, the result is the one of
wrapping registers and is not before the present. Where it does not, wrapping registers keep the
deadline, which lies before the present. -/
theorem catchUp_safe (deadline : HostTime) (period : Duration) (now : HostTime) :
    (deadline.nanos < now.nanos →
        checkedSub? now.nanos deadline.nanos = some (behind deadline now)
        ∧ checkedDiv? (behind deadline now) (stride period)
          = some (behind deadline now / stride period)
        ∧ (checkedAdd? (behind deadline now / stride period) 1 = none
          ↔ WholeClock deadline period now))
      ∧ (catchUp? deadline period now = none ↔ WholeClock deadline period now)
      ∧ (∀ result, catchUp? deadline period now = some result →
          result = catchUp deadline period now ∧ now.nanos ≤ result.nanos)
      ∧ ((catchUp deadline period now).nanos < now.nanos ↔ WholeClock deadline period now) := by
  have counted : deadline.nanos < now.nanos →
      (checkedAdd? (behind deadline now / stride period) 1 = none
        ↔ WholeClock deadline period now) := by
    intro passed
    have fits := skipped_fits_iff period passed
    rw [checkedAdd?_one, UInt64.toNat_div, toNat_behind passed]
    split
    · rename_i small
      exact iff_of_false (Option.some_ne_none _) (fits.mp small)
    · rename_i large
      exact iff_of_true rfl (not_not.mp (mt fits.mpr large))
  have early :
      (catchUp deadline period now).nanos < now.nanos ↔ WholeClock deadline period now := by
    constructor
    · intro before
      by_contra fits
      exact UInt64.not_le.mpr before (le_catchUp fits)
    · intro whole
      obtain ⟨passed, stays⟩ := catchUp_wholeClock whole
      rwa [stays]
  rcases UInt64.le_or_lt now.nanos deadline.nanos with ahead | passed
  · have same : catchUp? deadline period now = some deadline := if_pos ahead
    have other : ¬ WholeClock deadline period now := fun whole =>
      UInt64.not_le.mpr (catchUp_wholeClock whole).1 ahead
    refine ⟨fun passed => absurd ahead (UInt64.not_le.mpr passed), ?_, ?_, early⟩
    · rw [same]
      exact iff_of_false (Option.some_ne_none _) other
    · intro result found
      obtain rfl := Option.some.inj (same.symm.trans found)
      exact ⟨(catchUp_of_le period ahead).symm, ahead⟩
  · obtain ⟨difference, quotient, jump⟩ := catchUp?_of_passed period passed
    refine ⟨fun _ => ⟨difference, quotient, counted passed⟩, ?_, ?_, early⟩
    · rw [jump, Option.map_eq_none_iff]
      exact counted passed
    · intro result found
      rw [jump] at found
      obtain ⟨count, some, rfl⟩ := Option.map_eq_some_iff.mp found
      refine ⟨rfl, le_catchUp fun whole => ?_⟩
      rw [(counted passed).mpr whole] at some
      cases some

/-- From the first point of the clock, at its last point, there is one period too many. -/
theorem catchUp_overrun :
    catchUp? ⟨0⟩ ⟨1⟩ HostTime.last = none
      ∧ (catchUp ⟨0⟩ ⟨1⟩ HostTime.last).nanos < HostTime.last.nanos := by
  decide

end Scanout.Vsync
