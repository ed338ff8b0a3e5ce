import Scanout.Device.Basic

/-!
# Callbacks of a device

A client registers one callback of each kind. Whoever runs a device calls them: these functions say
which callback is due and what the device is after that decision.
-/

set_option autoImplicit false

namespace Scanout

open Vsync (CallbackId)

inductive CallbackKind where
  | hotplug
  | refresh
  | vsync
  deriving DecidableEq, Inhabited

namespace CallbackKind

def all : List CallbackKind := [hotplug, refresh, vsync]

def name : CallbackKind → String
  | hotplug => "Hotplug"
  | refresh => "Refresh"
  | vsync => "Vsync"

def label : CallbackKind → String
  | hotplug => "hotplug"
  | refresh => "refresh"
  | vsync => "vsync"

/-- The kind that a client names by a number. -/
def ofDescriptor (descriptor : Int32) : Except Error CallbackKind :=
  if descriptor = 1 then .ok hotplug
  else if descriptor = 2 then .ok refresh
  else if descriptor = 3 then .ok vsync
  else .error .badParameter

def callbackText (kind : CallbackKind) : String := "Callback(" ++ kind.name ++ ")"

end CallbackKind

namespace Device

/-- Puts in a callback in place of the one of its kind. -/
def install (device : Device) (callback : CallbackId) : CallbackKind → Device
  | .hotplug => { device with hotplug := some callback }
  | .refresh => { device with refresh := some callback }
  | .vsync => { device with ticks := device.ticks.install callback }

def uninstall (device : Device) : CallbackKind → Device
  | .hotplug => { device with hotplug := none }
  | .refresh => { device with refresh := none }
  | .vsync => { device with ticks := device.ticks.uninstall }

/-- A tick arrives: the callback that gets it at once, if it is not buffered. -/
def arrive (device : Device) (deadline : HostTime) : Option CallbackId × Device :=
  let (callback, ticks) := device.ticks.arrive deadline
  (callback, { device with ticks := ticks })

/-- The buffered ticks that a callback is given next. -/
def nextBatch (device : Device) (callback : CallbackId) : Option (List HostTime) × Device :=
  let (batch, ticks) := device.ticks.nextBatch callback
  (batch, { device with ticks := ticks })

def refreshCallback (device : Device) (id : DisplayId) : Except Error (Option CallbackId) :=
  match device.find id with
  | .error cause => .error cause
  | .ok _ => .ok device.refresh

def tickEvent (display : DisplayId) (deadline : HostTime) (buffered : Bool) : TraceEvent where
  display := display
  time := deadline
  what := .tick buffered

/-- Lets the timer run until `count` more ticks have arrived. -/
def awaitTicks (device : Device) (now : HostTime) : Nat → Device
  | 0 => device
  | count + 1 =>
    match device.timer.nextTick? now with
    | none => device
    | some (deadline, timer) =>
      awaitTicks { (device.arrive deadline).2 with timer := timer } deadline count

end Device

end Scanout
