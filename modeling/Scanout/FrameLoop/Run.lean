import Scanout.Backend.Scripted
import Scanout.Device.Callbacks
import Scanout.Device.Calls
import Scanout.Device.Report
import Scanout.FrameLoop.Options
import Scanout.Settings.Reader
import Scanout.Trace.Sink

/-!
# The frame loop

The frame loop opens a device on the scripted backend, stacks a background that the client draws, a
video plane and a cursor, and presents one frame for every tick. The backend's fences are signaled
right after each frame, as a display does on scanout. The clock moves from tick to tick.
-/

set_option autoImplicit false

namespace Scanout.FrameLoop

open Vsync (CallbackId)

inductive Failure where
  | settings (cause : SettingsError)
  | call (cause : Error)
  | noTick
  deriving DecidableEq, Inhabited

structure World where
  device : Device
  stage : Stage
  now : HostTime
  tracer : Tracer := {}
  notices : List Notice := []

structure Layers where
  background : LayerId
  video : LayerId
  cursor : LayerId
  deriving DecidableEq, Inhabited

/-- A step of the loop: it may fail, and changes the world. -/
abbrev Step (α : Type) := World → Except Failure (α × World)

def cursorBuffer : BufferHandle := ⟨0xc0⟩

def display : DisplayId := ⟨1⟩

def hotplugCallback : CallbackId := ⟨0⟩

def tickCallback : CallbackId := ⟨1⟩

def patience : Duration := .ofMillis 1000

/-- Takes over the end of a call, which must succeed. -/
def take {α : Type} (world : World) (reply : Reply α) : Except Failure (α × World) :=
  let after := { world with
    device := reply.device
    tracer := reply.events.foldl Tracer.report world.tracer
    notices := world.notices ++ reply.notices }
  match reply.result with
  | .error cause => .error (.call cause)
  | .ok value => .ok (value, after)

def call (request : DisplayCall) : Step CallResult := fun world =>
  take world (world.device.call display request)

def ask (request : BackendCall) : Step CallResult := fun world =>
  let (reply, stage) := world.device.run display Backend.scripted request world.stage
  take { world with stage := stage } reply

def edit (layer : LayerId) (edit : LayerEdit) : Step CallResult := call (.edit layer edit)

def create : Step LayerId := fun world => take world (world.device.createLayer display)

def buildLayers (width height : UInt32) : Step Layers := fun world => do
  let full := Rect.ofSize width height
  let (background, world) ← create world
  let (_, world) ← edit background (.composition .client) world
  let (video, world) ← create world
  let (_, world) ← edit video (.composition .device) world
  let (_, world) ← edit video (.z 1) world
  let (cursor, world) ← create world
  let (_, world) ← edit cursor (.composition .cursor) world
  let (_, world) ← edit cursor (.z 2) world
  let (_, world) ← edit cursor (.buffer (some cursorBuffer) .noop) world
  let (_, world) ← edit background (.displayFrame full) world
  let (_, world) ← edit video (.displayFrame (full.inset (-64.0))) world
  let (_, world) ← edit cursor (.displayFrame ⟨0.0, 0.0, 32.0, 32.0⟩) world
  .ok (⟨background, video, cursor⟩, world)

def videoBuffer (frame : UInt64) : BufferHandle := ⟨0x1000 + frame % 3⟩

/-- The buffer of the background, which changes with every thirtieth frame. -/
def backgroundBuffer (frame : UInt64) : BufferHandle := ⟨0x2000 + frame / 30 % 2⟩

def targetBuffer (frame : UInt64) : BufferHandle := ⟨0x3000 + frame % 2⟩

/-- Accepts the backend's overrides, if there are any. -/
def settle (result : CallResult) : Step Unit := fun world =>
  match result with
  | .summary summary =>
    if summary.status = .hasChanges then
      (call .acceptChanges world).map fun (_, after) => ((), after)
    else .ok ((), world)
  | _ => .ok ((), world)

/-- Moves the cursor, which stays where it is if it is not on a cursor plane. -/
def moveCursor (cursor : LayerId) (frame : UInt64) : Step Unit := fun world =>
  let x := (frame * 8).toFloat
  match edit cursor (.cursor x (x / 2.0)) world with
  | .error _ => .ok ((), world)
  | .ok (_, after) => .ok ((), after)

def presentFrame (layers : Layers) (frame : UInt64) : Step Unit := fun world => do
  let (_, world) ← edit layers.video (.buffer (some (videoBuffer frame)) .noop) world
  let (_, world) ←
    if frame % 30 = 0 then
      edit layers.background (.buffer (some (backgroundBuffer frame)) .noop) world
    else .ok (.done, world)
  let (result, world) ← ask .validate world
  let (_, world) ← settle result world
  let (_, world) ← call (.clientTarget (some (targetBuffer frame)) .noop .unknown []) world
  let (_, world) ← ask .present world
  let (_, stage) := world.stage.completeAll .signaled
  moveCursor layers.cursor frame { world with stage := stage }

/-- Waits for the next tick, and hands it to the callback. -/
def awaitTick : Step HostTime := fun world =>
  match world.device.timer.nextTick? world.now with
  | none => .error .noTick
  | some (deadline, timer) =>
    if patience.nanos ≤ (deadline.since world.now).nanos then .error .noTick
    else
      let (callback, device) := world.device.arrive deadline
      if callback = some tickCallback then
        let reported := world.tracer.report (Device.tickEvent display deadline false)
        .ok (deadline, { world with
          device := { device with timer := timer }
          now := deadline
          tracer := reported })
      else .error .noTick

def presentFrames (layers : Layers) : Nat → UInt64 → Step Unit
  | 0, _, world => .ok ((), world)
  | count + 1, frame, world => do
    let (_, world) ← awaitTick world
    let (_, world) ← presentFrame layers frame world
    presentFrames layers count (frame + 1) world

/-- The stage of the loop: one ordinary configuration, and the cursor on its plane. -/
def stage (width height : UInt32) : Stage where
  script := {
    configs := [.standard width height]
    forcedBuffers := [(cursorBuffer, .cursorOverlay)] }

/-- The device with the loop's callbacks. No tick has arrived yet, so there is nothing to hand
over. -/
def withCallbacks (device : Device) : Device :=
  let installed := (device.install hotplugCallback .hotplug).install tickCallback .vsync
  (installed.nextBatch tickCallback).2

def setUp (options : Options) (settings : Settings) (now : HostTime) : Except Failure World :=
  let enabled := { settings with vsync := { settings.vsync with startEnabled := true } }
  let ((opened, notices), stage) :=
    Device.openOn Backend.scripted enabled display now (stage options.width options.height)
  match opened with
  | .error cause => .error (.call cause)
  | .ok device =>
    .ok {
      device := withCallbacks device
      stage := stage
      now := now
      tracer := Tracer.install {} (if options.trace then .pretty else .off)
      notices := notices }

def loop (options : Options) (settings : Settings) (now : HostTime) : Except Failure World := do
  let world ← setUp options settings now
  let (layers, world) ← buildLayers options.width options.height world
  let (_, world) ← presentFrames layers options.frames.toNat 0 world
  .ok world

structure Ending where
  status : UInt32
  output : String := ""
  diagnostics : String := ""

/-- What is found under a path, where the only file of interest is `settings`. -/
abbrev Lookup := String → Settings.Place

def run (arguments : List String) (find : Lookup) (now : HostTime) : Ending :=
  match Request.ofArguments arguments with
  | .error _ => { status := 2, diagnostics := usage }
  | .ok .help => { status := 0, output := usage }
  | .ok (.run options) =>
    match Settings.load (find options.config) with
    | .error cause => { status := 1, diagnostics := "Error: " ++ cause.message ++ "\n" }
    | .ok settings =>
      match loop options settings now with
      | .error (.call cause) => { status := 1, diagnostics := "Error: " ++ cause.message ++ "\n" }
      | .error _ => { status := 1, diagnostics := "Error: timed out waiting on channel\n" }
      | .ok world =>
        { status := 0
          output := world.device.report ++ "\n"
          diagnostics := world.tracer.text }

end Scanout.FrameLoop
