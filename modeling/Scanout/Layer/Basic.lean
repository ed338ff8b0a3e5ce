import Scanout.Buffer
import Scanout.Fence.Deferred
import Scanout.Latched
import Scanout.Layer.Attributes
import Scanout.Layer.Stack

/-!
# Layers

A layer is one surface of a display: a buffer with its fence, a Z key, a geometry, the fences of its
last frames, and a composition that is negotiated with the backend. A layer whose colour space is
not supported counts as *unsupported* and is drawn by the client, whatever composition is pending.
-/

set_option autoImplicit false

namespace Scanout

structure Layer where
  id : LayerId
  display : DisplayId
  z : UInt32 := 0
  composition : Latched Composition := .ofValue .invalid
  content : FencedBuffer := {}
  surfaceDamage : List Rect := []
  dataspace : Dataspace := .unknown
  geometry : LayerGeometry := {}
  releaseFences : DeferredFences := {}
  deriving Inhabited

namespace Layer

def pending (layer : Layer) : Composition := layer.composition.pending

def committed (layer : Layer) : Composition := layer.composition.committed

def isDirty (layer : Layer) : Bool := layer.composition.isDirty

/-- The client has to draw the layer. -/
def isUnsupported (layer : Layer) : Bool := !layer.dataspace.isSupported

def setComposition (layer : Layer) (composition : Composition) : Layer × DirtyDelta :=
  let (changed, delta) := layer.composition.setPending composition
  ({ layer with composition := changed }, delta)

def latchComposition (layer : Layer) : Layer × DirtyDelta :=
  let (changed, delta) := layer.composition.latch
  ({ layer with composition := changed }, delta)

def pushReleaseFence (layer : Layer) (fence : Fence) : Layer :=
  { layer with releaseFences := (layer.releaseFences.push fence).1 }

structure Info where
  id : LayerId
  display : DisplayId
  z : UInt32
  pending : Composition
  committed : Composition
  unsupported : Bool
  buffer : Option BufferHandle
  dataspace : Dataspace
  geometry : LayerGeometry
  damageRects : Nat

def info (layer : Layer) : Info where
  id := layer.id
  display := layer.display
  z := layer.z
  pending := layer.pending
  committed := layer.committed
  unsupported := layer.isUnsupported
  buffer := layer.content.buffer
  dataspace := layer.dataspace
  geometry := layer.geometry
  damageRects := layer.surfaceDamage.length

end Layer

end Scanout
