import Scanout.Fence.Named
import Scanout.Session.Answer

/-!
# The state of a session

A session holds the device and the displays beside it, the backend's rig, the names of fences, the
callbacks that were registered, and the hooks that wait for a call of the backend.
-/

set_option autoImplicit false

namespace Scanout

open Vsync (CallbackId)

abbrev Rig := Faulty Stage

/-- A callback and the commands of its calls to come. -/
structure CallbackScript where
  label : String
  scripts : List (List Command)

structure Session where
  device : Device
  /-- Displays that the device does not know, in order of creation. -/
  others : List Display := []
  displayNumbers : Numbering := ⟨2⟩
  /-- The device's backend leaves out what it need not implement. -/
  isMinimal : Bool := false
  rig : Rig
  fenceNames : List (String × Fence) := []
  signals : List (String × Nat) := []
  callbacks : List CallbackScript := []
  hooks : List (HookPoint × List Command) := []
  tracer : Tracer := {}
  now : HostTime
  notices : List Notice := []
  events : List SessionEvent := []

namespace Session

def fenceTable (session : Session) : FenceTable := session.rig.inner.fences

def named (session : Session) : NamedFences :=
  ⟨session.fenceTable, session.fenceNames, session.signals⟩

/-- The session with other names for its fences and other states of them. -/
def withNamed (session : Session) (named : NamedFences) : Session :=
  { session with
    rig := { session.rig with inner := { session.rig.inner with fences := named.table } }
    fenceNames := named.fences
    signals := named.signals }

/-- A call that takes this route reaches a backend that leaves out what it need not implement. Only
the device was opened on such a backend; a display that is called straight is given the whole
one. -/
def isMinimalAt (session : Session) : Route → Bool
  | .device _ => session.isMinimal
  | .direct _ => false

def backendAt (session : Session) (route : Route) : Backend Rig :=
  if session.isMinimalAt route then Backend.scripted.faulty.minimal else Backend.scripted.faulty

def displayAt (session : Session) : Route → Except Error Display
  | .device id => session.device.find id
  | .direct id =>
    if session.device.display.id = id then .ok session.device.display
    else
      match session.others.find? fun display => display.id == id with
      | none => .error .badDisplay
      | some display => .ok display

def putDisplay (session : Session) (display : Display) : Session :=
  if session.device.display.id = display.id then
    { session with device := { session.device with display := display } }
  else
    { session with
      others := session.others.map fun other => if other.id == display.id then display else other }

def notify (session : Session) (notices : List Notice) : Session :=
  { session with notices := session.notices ++ notices }

def log (session : Session) (event : SessionEvent) : Session :=
  { session with events := session.events ++ [event] }

def trace (session : Session) (event : TraceEvent) : Session :=
  { session with tracer := session.tracer.report event }

/-- Takes over the end of a call of the device. -/
def absorb {answer : Type} (session : Session) (reply : Reply answer) : Session :=
  reply.events.foldl trace ({ session with device := reply.device }.notify reply.notices)

def absorbOutcome {answer : Type} (session : Session) (outcome : Outcome answer) : Session :=
  (session.putDisplay outcome.display).notify outcome.notices

def answered (session : Session) (answer : Answer) : Answered := ⟨answer, session.fenceTable⟩

/-- The first hook at a point, which is used up. -/
def takeHook (session : Session) (point : HookPoint) : Option (List Command) × Session :=
  match session.hooks.find? fun hook => hook.1 == point with
  | none => (none, session)
  | some hook =>
    (some hook.2, { session with hooks := session.hooks.eraseP fun hook => hook.1 == point })

/-- The callbacks once the next call of the one at this place is used up. -/
def useScript : List CallbackScript → Nat → List Command × List CallbackScript
  | [], _ => ([], [])
  | callback :: rest, 0 =>
    (callback.scripts.headD [], { callback with scripts := callback.scripts.drop 1 } :: rest)
  | callback :: rest, place + 1 =>
    let (commands, after) := useScript rest place
    (commands, callback :: after)

def takeScript (session : Session) (callback : CallbackId) : List Command × Session :=
  let (commands, callbacks) := useScript session.callbacks callback.number
  (commands, { session with callbacks := callbacks })

def status (session : Session) : Status where
  state := session.device.display.state
  dirtyLayers := session.device.display.dirtyLayers
  framesPresented := session.device.display.framesPresented
  order := session.device.display.layersInOrder
  bufferedTicks := session.device.ticks.pending.length
  script := session.rig.inner.script

end Session

end Scanout
