import Scanout.Buffer
import Scanout.Clock.Duration
import Scanout.Layer.Attributes

/-!
# Frames for the backend

The backend knows one flat list: the display's layers back to front and behind them one slot for
the client target. On prepare it decides for each slot who composes it, on commit it answers with a
retire fence for the frame and a release fence for each slot. Answers are read by slot number.
-/

set_option autoImplicit false

namespace Scanout

/-- Where a slot is composed. -/
inductive Placement where
  | framebuffer
  | overlay
  | background
  | framebufferTarget
  /-- A stream that bypasses buffers. -/
  | sideband
  | cursorOverlay
  deriving DecidableEq, Inhabited

namespace Placement

def all : List Placement :=
  [framebuffer, overlay, background, framebufferTarget, sideband, cursorOverlay]

def name : Placement → String
  | framebuffer => "Framebuffer"
  | overlay => "Overlay"
  | background => "Background"
  | framebufferTarget => "FramebufferTarget"
  | sideband => "Sideband"
  | cursorOverlay => "CursorOverlay"

end Placement

structure Slot where
  /-- The placement asked for on prepare and decided on commit. -/
  placement : Placement
  /-- The backend must not compose the slot itself. -/
  skip : Bool
  buffer : Option BufferHandle
  /-- What the backend waits for before it reads the buffer. -/
  acquireFence : Fence
  displayFrame : Rect
  sourceCrop : Rect
  planeAlpha : Float32
  blend : BlendMode
  transform : Transform
  color : Color
  surfaceDamage : List Rect
  deriving Inhabited

/-- The slot of a client target that covers a display of this size. -/
def Slot.clientTarget (width height : UInt32) : Slot where
  placement := .framebufferTarget
  skip := false
  buffer := none
  acquireFence := .noop
  displayFrame := .ofSize width height
  sourceCrop := .ofSize width height
  planeAlpha := 1.0
  blend := .premultiplied
  transform := .identity
  color := .clear
  surfaceDamage := []

structure Frame where
  slots : List Slot := []
  /-- The list has another shape, or a layer another composition or geometry, than on the prepare
  before. -/
  geometryChanged : Bool := false
  /-- Where a display writes its composition back. -/
  outputBuffer : Option BufferHandle := none
  deriving Inhabited

namespace Frame

/-- The client target's slot, if the list ends in one. -/
def clientTarget? (frame : Frame) : Option Slot :=
  frame.slots.getLast?.filter fun slot => slot.placement == .framebufferTarget

def layerCount (frame : Frame) : Nat := frame.slots.length - 1

end Frame

structure Decision where
  placement : Placement
  /-- The client is to clear the slot's area of the client target. -/
  clearClientTarget : Bool := false
  deriving DecidableEq, Inhabited

structure CommitFences where
  /-- Completes when the frame has left the screen. -/
  retire : Fence := .noop
  /-- One fence for each slot. -/
  release : List Fence := []
  deriving DecidableEq, Inhabited

/-- Size, refresh period and density of a display; densities in dots per thousand inches. -/
structure ConfigShape where
  width : UInt32
  height : UInt32
  vsyncPeriod : Duration
  dpiX : UInt32
  dpiY : UInt32
  deriving DecidableEq, Inhabited

inductive PowerMode where
  | off
  | dozeSuspend
  | doze
  | on
  deriving DecidableEq, Inhabited

namespace PowerMode

def all : List PowerMode := [off, dozeSuspend, doze, on]

def name : PowerMode → String
  | off => "Off"
  | dozeSuspend => "DozeSuspend"
  | doze => "Doze"
  | on => "On"

end PowerMode

end Scanout
