import Scanout.Proofs.Display.Repeated

/-!
# Calls that reach the display and its backend

A call that reaches the display ends as the display has it end, whether it comes through the device
or not (`runAt_eq`).

How often a backend is asked to commit, and for what, cannot be seen from the end of a call. So
`Backend.noting` is the same backend with a list of the frames that it was asked to commit; calls
end with it as they do without the list (`runAt_noting`).
-/

set_option autoImplicit false

namespace Scanout

variable {σ : Type}

namespace Backend

/-- The backend, beside a list of the frames that it was asked to commit. -/
def noting (backend : Backend σ) : Backend (σ × List Frame) where
  displayConfigs := fun (state, noted) =>
    ((backend.displayConfigs state).1, (backend.displayConfigs state).2, noted)
  prepare := fun frame (state, noted) =>
    ((backend.prepare frame state).1, (backend.prepare frame state).2, noted)
  commit := fun frame (state, noted) =>
    ((backend.commit frame state).1, (backend.commit frame state).2, noted ++ [frame])
  setActiveConfig := fun index (state, noted) =>
    ((backend.setActiveConfig index state).1, (backend.setActiveConfig index state).2, noted)
  setPowerMode := fun mode (state, noted) =>
    ((backend.setPowerMode mode state).1, (backend.setPowerMode mode state).2, noted)

end Backend

theorem Display.run_noting (display : Display) (backend : Backend σ) (call : BackendCall)
    (state : σ) (noted : List Frame) :
    (display.run backend.noting call (state, noted)).1 = (display.run backend call state).1 := by
  unfold Display.run
  cases display.begin call with
  | finished result notices => rfl
  | asking question => cases question <;> rfl

namespace Device

variable {device : Device} {access : Access}

/-- The end of a call that has reached the display. -/
def concludeAt (device : Device) (access : Access) (call : BackendCall)
    (outcome : Outcome CallResult) : Reply CallResult :=
  match access with
  | .device id => device.conclude id call outcome
  | .display => device.settle outcome

theorem runAt_eq (reached : device.reaches access = true) (backend : Backend σ)
    (call : BackendCall) (state : σ) :
    device.runAt backend access call state
      = device.concludeAt access call (device.display.run backend call state).1 := by
  cases access with
  | display => rfl
  | device id => exact congrArg Prod.fst (run_eq reached backend call state)

theorem display_concludeAt (device : Device) (access : Access) (call : BackendCall)
    (outcome : Outcome CallResult) :
    (device.concludeAt access call outcome).device.display = outcome.display := by
  cases access with
  | display => rfl
  | device id =>
      simp only [concludeAt, conclude]
      split <;> rfl

theorem display_runAt (reached : device.reaches access = true) (backend : Backend σ)
    (call : BackendCall) (state : σ) :
    (device.runAt backend access call state).device.display
      = (device.display.run backend call state).1.display := by
  rw [runAt_eq reached, display_concludeAt]

/-- Notices are passed on; nothing else depends on them. -/
theorem concludeAt_congr (device : Device) (access : Access) (call : BackendCall)
    {outcome other : Outcome CallResult} (result : outcome.result = other.result)
    (display : outcome.display = other.display) :
    (device.concludeAt access call outcome).result = (device.concludeAt access call other).result
      ∧ (device.concludeAt access call outcome).device
        = (device.concludeAt access call other).device
      ∧ (device.concludeAt access call outcome).events
        = (device.concludeAt access call other).events := by
  obtain ⟨said, after, notices⟩ := outcome
  dsimp only at result display
  subst said after
  cases access with
  | display => exact ⟨rfl, rfl, rfl⟩
  | device id =>
      simp only [concludeAt, conclude]
      cases other.result <;> exact ⟨rfl, rfl, rfl⟩

def backendAt (device : Device) (backend : Backend σ) (access : Access) (call : BackendCall)
    (state : σ) : σ :=
  match access with
  | .device id => (device.run id backend call state).2
  | .display => (device.display.run backend call state).2

theorem backendAt_eq (reached : device.reaches access = true) (backend : Backend σ)
    (call : BackendCall) (state : σ) :
    device.backendAt backend access call state
      = (device.display.run backend call state).2 := by
  cases access with
  | display => rfl
  | device id => exact congrArg Prod.snd (run_eq reached backend call state)

/-- The frames that the backend is asked to commit in the course of a call. -/
def committedAt (device : Device) (backend : Backend σ) (access : Access) (call : BackendCall)
    (state : σ) : List Frame :=
  (device.backendAt backend.noting access call (state, [])).2

/-- Noting what is committed changes nothing. -/
theorem runAt_noting (reached : device.reaches access = true) (backend : Backend σ)
    (call : BackendCall) (state : σ) (noted : List Frame) :
    device.runAt backend.noting access call (state, noted)
      = device.runAt backend access call state := by
  rw [runAt_eq reached, runAt_eq reached, Display.run_noting]

end Device

end Scanout
