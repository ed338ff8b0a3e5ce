import Scanout.Backend.Scripted
import Scanout.Device.Callbacks
import Scanout.Device.Calls
import Scanout.Trace.Sink

/-!
# Commands of a session

A session drives a device on the scripted backend, command by command. Fences go by the names that
the session gives them. A callback comes with a script, and a hook with a list, of commands that run
when they are called, so commands are nested; `Command.weight` bounds how much there is to do.
-/

set_option autoImplicit false

namespace Scanout

inductive Route where
  /-- Through the device, which reports it. -/
  | device (id : DisplayId)
  /-- Straight to the display. -/
  | direct (id : DisplayId)
  deriving DecidableEq, Inhabited

/-- A question about a display that changes nothing. -/
inductive Query where
  | hasLayer (layer : LayerId)
  | latestFence (layer : LayerId)
  | layerInfo (layer : LayerId)
  | targetSupport (width height : UInt32) (format : PixelFormat) (dataspace : Dataspace)
  | changes
  | requests
  | releaseFences
  | retireFence
  | configs
  | activeConfig
  | configAttribute (config : ConfigId) (which : Attribute)
  | about
  | report

/-- Where a hook runs: before the backend sees a call of this kind. -/
inductive HookPoint where
  | prepare
  | commit
  | activeConfig
  | powerMode
  deriving DecidableEq, Inhabited

namespace HookPoint

def all : List HookPoint := [prepare, commit, activeConfig, powerMode]

def name : HookPoint → String
  | prepare => "prepare"
  | commit => "commit"
  | activeConfig => "set_config"
  | powerMode => "power"

end HookPoint

structure FaultChange where
  decisions : Option Int := none
  releases : Option Int := none
  power : Bool := false
  activeConfig : Bool := false
  deriving DecidableEq, Inhabited

inductive Command where
  | createLayer (display : DisplayId)
  | destroyLayer (display : DisplayId) (layer : LayerId)
  | resolveLayer (display : DisplayId) (layer : LayerId)
  | edit (route : Route) (layer : LayerId) (edit : LayerEdit)
  | setBuffer (route : Route) (layer : LayerId) (buffer : Option BufferHandle)
      (fence : Option String)
  | setClientTarget (route : Route) (buffer : Option BufferHandle) (fence : Option String)
      (dataspace : Dataspace) (damage : List Rect)
  | setOutputBuffer (route : Route) (buffer : Option BufferHandle) (fence : Option String)
  | acceptChanges (route : Route)
  | setColorMode (route : Route) (mode : ColorMode)
  /-- A call that asks the backend; a fence that it hands back may be kept under a name. -/
  | askBackend (route : Route) (call : BackendCall) (save : Option String)
  | query (route : Route) (query : Query)
  | deviceReport
  | deviceText
  | settingsText
  | displayAgain
  | newDisplay (shapes : List ConfigShape) (name : String) (requireClientTarget : Bool)
  | enableVsync (display : DisplayId) (on : Bool)
  | tick (deadline : HostTime)
  | register (kind : CallbackKind) (label : String) (scripts : List (List Command))
      (descriptor : Option Int32)
  | unregister (kind : CallbackKind)
  | requestRefresh (display : DisplayId)
  | shutdown
  | awaitTicks (display : DisplayId) (count : Nat)
  | traceTo (sink : TraceSink)
  | takeText
  | takeRecording
  | newFence (name : String)
  | finishFence (name : String) (status : FenceStatus)
  | showFence (name : String)
  | waitFence (name : String)
  | script (command : ScriptCommand)
  | fault (change : FaultChange)
  | hook (point : HookPoint) (commands : List Command)

namespace Command

def ownWeight : Nat := 12

def tickWeight : Nat := 8

mutual

/-- How much there is to do for a command: its own part and all commands in it. -/
def weight : Command → Nat
  | register _ _ scripts _ => ownWeight + scriptsWeight scripts
  | hook _ commands => ownWeight + listWeight commands
  | awaitTicks _ count => ownWeight + tickWeight * count
  | _ => ownWeight

def listWeight : List Command → Nat
  | [] => 1
  | command :: rest => weight command + listWeight rest

def scriptsWeight : List (List Command) → Nat
  | [] => 0
  | commands :: rest => 1 + listWeight commands + scriptsWeight rest

end

end Command

end Scanout
