import Mathlib
import Scanout.Vsync.Schedule

/-!
# The grid of ticks

A deadline that has passed is moved by whole periods, and by none if it has not: `catchUp_onGrid`
says so as long as the sum stays below the end of the clock. `toNat_catchUp` is the sum itself,
which stops at that end.
-/

set_option autoImplicit false

namespace Scanout.Vsync

theorem toNat_last : HostTime.last.nanos.toNat = UInt64.size - 1 := by decide

theorem toNat_stride (period : Duration) :
    (stride period).toNat = max 1 (min period.nanos (UInt64.size - 1)) := by
  unfold stride Duration.isZero
  by_cases zero : period.nanos = 0
  · simp [zero]
  · have positive : (period.nanos == 0) = false := by simpa using zero
    have room : 1 ≤ UInt64.size - 1 := by decide
    rw [positive, if_neg Bool.false_ne_true, Duration.clampedNanos, toNat_saturate64]
    omega

theorem stride_pos (period : Duration) : 0 < (stride period).toNat := by
  rw [toNat_stride]
  omega

theorem toNat_behind {deadline now : HostTime} (passed : deadline.nanos < now.nanos) :
    (behind deadline now).toNat = now.nanos.toNat - deadline.nanos.toNat :=
  UInt64.toNat_sub_of_le _ _ (UInt64.le_of_lt passed)

theorem toNat_skipped_of_fits {deadline now : HostTime} {period : Duration}
    (passed : deadline.nanos < now.nanos)
    (fits : (now.nanos.toNat - deadline.nanos.toNat) / (stride period).toNat + 1 < UInt64.size) :
    (skipped deadline period now).toNat
      = (now.nanos.toNat - deadline.nanos.toNat) / (stride period).toNat + 1 := by
  unfold skipped
  rw [UInt64.toNat_add, UInt64.toNat_div, toNat_behind passed, UInt64.toNat_one]
  exact Nat.mod_eq_of_lt fits

/-- A deadline that has passed moves to the first point of the grid behind the present, or to the
end of the clock, if the number of periods fits its register. -/
theorem toNat_catchUp_of_fits {deadline now : HostTime} {period : Duration}
    (passed : deadline.nanos < now.nanos)
    (fits : (now.nanos.toNat - deadline.nanos.toNat) / (stride period).toNat + 1 < UInt64.size) :
    (catchUp deadline period now).nanos.toNat
      = min (deadline.nanos.toNat
          + ((now.nanos.toNat - deadline.nanos.toNat) / (stride period).toNat + 1)
            * (stride period).toNat)
        (UInt64.size - 1) := by
  rw [catchUp, if_neg (UInt64.not_le.mpr passed)]
  simp only [saturatingAdd, saturatingMul, toNat_saturate64, toNat_skipped_of_fits passed fits]
  omega

/-- Before the very end of the clock the number of periods fits its register. -/
theorem skipped_fits (deadline : HostTime) (period : Duration) {now : HostTime}
    (early : now.nanos < HostTime.last.nanos) :
    (now.nanos.toNat - deadline.nanos.toNat) / (stride period).toNat + 1 < UInt64.size := by
  have quotient_le := Nat.div_le_self (now.nanos.toNat - deadline.nanos.toNat)
    (stride period).toNat
  have before_end : now.nanos.toNat < UInt64.size - 1 :=
    toNat_last ▸ UInt64.lt_iff_toNat_lt.mp early
  omega

theorem toNat_catchUp {deadline now : HostTime} (period : Duration)
    (passed : deadline.nanos < now.nanos) (early : now.nanos < HostTime.last.nanos) :
    (catchUp deadline period now).nanos.toNat
      = min (deadline.nanos.toNat
          + ((now.nanos.toNat - deadline.nanos.toNat) / (stride period).toNat + 1)
            * (stride period).toNat)
        (UInt64.size - 1) :=
  toNat_catchUp_of_fits passed (skipped_fits deadline period early)

theorem catchUp_of_le {deadline now : HostTime} (period : Duration)
    (ahead : now.nanos ≤ deadline.nanos) : catchUp deadline period now = deadline :=
  if_pos ahead

/-- Catching up moves a deadline by whole periods. -/
theorem catchUp_onGrid {deadline now : HostTime} {period : Duration}
    (early : now.nanos < HostTime.last.nanos)
    (inside : (catchUp deadline period now).nanos < HostTime.last.nanos)
    (running : period.isZero = false) :
    now.nanos ≤ (catchUp deadline period now).nanos
      ∧ ∃ count, (catchUp deadline period now).nanos.toNat
          = deadline.nanos.toNat + count * period.nanos := by
  rcases UInt64.le_or_lt now.nanos deadline.nanos with ahead | passed
  · rw [catchUp_of_le period ahead]
    exact ⟨ahead, 0, by omega⟩
  · have caught := toNat_catchUp period passed early
    have beyond := Nat.lt_mul_div_succ (now.nanos.toNat - deadline.nanos.toNat) (stride_pos period)
    rw [Nat.mul_comm] at beyond
    generalize (now.nanos.toNat - deadline.nanos.toNat) / (stride period).toNat + 1 = count
      at caught beyond
    rw [UInt64.lt_iff_toNat_lt, toNat_last] at inside
    have exactly : (catchUp deadline period now).nanos.toNat
        = deadline.nanos.toNat + count * (stride period).toNat := by omega
    have positive : 0 < count := Nat.pos_of_mul_pos_right (Nat.zero_lt_of_lt beyond)
    -- a period that was clamped would have led to the end of the clock
    have unclamped : (stride period).toNat = period.nanos := by
      have one_stride := Nat.le_mul_of_pos_left (stride period).toNat positive
      have nonzero : period.nanos ≠ 0 := by simpa [Duration.isZero] using running
      have clamped := toNat_stride period
      omega
    have passed_nat := UInt64.lt_iff_toNat_lt.mp passed
    exact ⟨UInt64.le_iff_toNat_le.mpr (by omega), count, unclamped ▸ exactly⟩

end Scanout.Vsync
