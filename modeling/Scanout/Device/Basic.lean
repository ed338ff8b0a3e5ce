import Scanout.Display.Call
import Scanout.Settings.Basic
import Scanout.Trace.Event
import Scanout.Vsync.Ticks
import Scanout.Vsync.Timer

/-!
# Devices

A device is what a client opens. It has one display, knows which display a layer belongs to, numbers
the layers, and keeps the vsync timer, the buffered ticks and the callbacks. `Device.openOn` sets
one up on a backend; the display's first configuration becomes active and its period paces the
timer.
-/

set_option autoImplicit false

namespace Scanout

open Vsync (CallbackId TickQueue Timer)

structure Device where
  settings : Settings
  display : Display
  /-- The display that each layer belongs to. -/
  owners : List (LayerId × DisplayId) := []
  layerNumbers : Numbering := {}
  hotplug : Option CallbackId := none
  refresh : Option CallbackId := none
  ticks : TickQueue := {}
  timer : Timer := {}
  deriving Inhabited

/-- The end of a call of a device. -/
structure Reply (answer : Type) where
  result : Except Error answer
  device : Device
  notices : List Notice := []
  events : List TraceEvent := []

namespace Device

variable {σ : Type}

/-- The display of a device: the one it has, or else one with the backend's configurations. The
backend is asked only if there is none. -/
def ensureDisplay (settings : Settings) (id : DisplayId) (present : Option Display)
    (backend : Backend σ) (state : σ) : (Except Error Display × List Notice) × σ :=
  match present with
  | some display => ((.ok display, []), state)
  | none =>
    match backend.displayConfigs state with
    | (.error cause, after) => ((.error cause.toError, [.backendFailed cause]), after)
    | (.ok shapes, after) =>
      let configs := DisplayConfig.coalesce shapes
      if configs.isEmpty then ((.error .badConfig, [.noConfigs]), after)
      else
        let required := settings.clientTarget.requireForClientLayers
        ((.ok (.create id settings.displayName required configs), []), after)

/-- The period that paces a display: that of its active configuration, unless it has none. -/
def pace (settings : Settings) (display : Display) : Duration :=
  match display.activeConfig? with
  | none => settings.defaultPeriod
  | some config =>
    if config.shape.vsyncPeriod.isZero then settings.defaultPeriod else config.shape.vsyncPeriod

/-- Sets up a device around its display and starts the timer. -/
def start (settings : Settings) (display : Display) (now : HostTime) :
    Except Error Device × List Notice :=
  let period := pace settings display
  match Timer.start {} (now.add period) period with
  | .error cause => (.error .noResources, [.timerRefused cause.message])
  | .ok timer =>
    (.ok {
      settings := settings
      display := display
      timer := timer.setEnabled settings.vsync.startEnabled }, [])

def openOn (backend : Backend σ) (settings : Settings) (id : DisplayId) (now : HostTime)
    (state : σ) : (Except Error Device × List Notice) × σ :=
  match ensureDisplay settings id none backend state with
  | ((.error cause, notices), after) => ((.error cause, notices), after)
  | ((.ok display, notices), after) =>
    let (result, more) := start settings display now
    ((result, notices ++ more), after)

def find (device : Device) (id : DisplayId) : Except Error Display :=
  if device.display.id = id then .ok device.display else .error .badDisplay

def resolveLayer (device : Device) (id : DisplayId) (layer : LayerId) : Except Error Display :=
  match device.find id with
  | .error cause => .error cause
  | .ok display =>
    if device.owners.lookup layer = some id then .ok display else .error .badLayer

end Device

end Scanout
