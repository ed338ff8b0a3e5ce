import Scanout.Device.Layers

/-!
# Calls of a device

A device passes calls on to its display, reports those that succeed, and lets its timer follow the
active configuration. As with a display, a call that asks the backend has two halves.
-/

set_option autoImplicit false

namespace Scanout

namespace Device

def eventCount (count : Nat) : UInt32 := saturate32 count

/-- What a device reports about a call that needs no backend and has succeeded. -/
def callEvents (id : DisplayId) : DisplayCall → List TraceEvent
  | .acceptChanges => [⟨id, ⟨0⟩, .accepted⟩]
  | _ => []

def call (device : Device) (id : DisplayId) : DisplayCall → Reply CallResult
  | .edit layer edit => device.editLayer id layer edit
  | request =>
    match device.find id with
    | .error cause => { result := .error cause, device := device }
    | .ok display =>
      match display.call request with
      | (.error cause, after) =>
        { result := .error cause, device := { device with display := after } }
      | (.ok result, after) =>
        { result := .ok result
          device := { device with display := after }
          events := callEvents id request }

/-- What a device reports about a call that asks the backend and has succeeded. -/
def backendEvents (id : DisplayId) (display : Display) : CallResult → List TraceEvent
  | .summary summary =>
    [⟨id, ⟨0⟩, .validated (eventCount summary.typeChanges) (eventCount summary.requests)
      summary.status⟩]
  | .fence retire =>
    [⟨id, ⟨0⟩, .presented (UInt64.ofNat display.framesPresented)
      (retire.id?.map UInt64.ofNat)⟩]
  | .done => []
  | .replaced _ => []

/-- The timer after a switch to the display's active configuration. One without a period leaves the
timer as it is. -/
def followConfig (timer : Vsync.Timer) (display : Display) : Vsync.Timer :=
  match display.activeConfig? with
  | none => timer
  | some config => timer.setPeriod config.shape.vsyncPeriod

def timerAfter (timer : Vsync.Timer) (display : Display) : BackendCall → Vsync.Timer
  | .setActiveConfig _ => followConfig timer display
  | _ => timer

def conclude (device : Device) (id : DisplayId) (call : BackendCall)
    (outcome : Outcome CallResult) : Reply CallResult :=
  let after := { device with display := outcome.display }
  match outcome.result with
  | .error cause => { result := .error cause, device := after, notices := outcome.notices }
  | .ok result =>
    { result := .ok result
      device := { after with timer := timerAfter device.timer outcome.display call }
      notices := outcome.notices
      events := backendEvents id outcome.display result }

/-- The first half of a call that asks the backend: the end of the call, or a question. -/
def begin (device : Device) (id : DisplayId) (call : BackendCall) :
    Reply CallResult ⊕ Question :=
  match device.find id with
  | .error cause => .inl { result := .error cause, device := device }
  | .ok display =>
    match display.begin call with
    | .finished result notices => .inl (device.conclude id call ⟨result, display, notices⟩)
    | .asking question => .inr question

variable {σ : Type}

def complete (device : Device) (id : DisplayId) (backend : Backend σ) (call : BackendCall)
    (question : Question) (state : σ) : Reply CallResult × σ :=
  let (outcome, after) := device.display.complete backend question state
  (device.conclude id call outcome, after)

def run (device : Device) (id : DisplayId) (backend : Backend σ) (call : BackendCall)
    (state : σ) : Reply CallResult × σ :=
  match device.begin id call with
  | .inl reply => (reply, state)
  | .inr question => device.complete id backend call question state

def setVsyncEnabled (device : Device) (id : DisplayId) (enabled : Bool) :
    Except Error Unit × Device :=
  match device.find id with
  | .error cause => (.error cause, device)
  | .ok _ => (.ok (), { device with timer := device.timer.setEnabled enabled })

/-- Stops the timer and waits for the last frame, within the time that the settings allow. -/
def shutdown (device : Device) (fences : FenceTable) : Device × List Notice :=
  ({ device with timer := device.timer.stop },
    match fences.waitTimeout device.display.retireFence with
    | .ok _ => []
    | .error cause => [.retireFenceLost cause])

end Device

end Scanout
