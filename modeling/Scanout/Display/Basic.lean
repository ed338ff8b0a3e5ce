import Scanout.Display.Config
import Scanout.Error
import Scanout.Layer.Basic

/-!
# Displays

A display owns a stack of layers and negotiates every frame with a backend: *validate* proposes a
frame and records what the backend decided, *accept* commits the backend's overrides, *present*
shows what was validated.

The state of this protocol is not stored. `Display.state` reads it off the record of the last
validation, which exists from a successful validation to the next change that could make it stale.
-/

set_option autoImplicit false

namespace Scanout

/-- Where a display stands in the negotiation of a frame. -/
inductive DisplayState where
  /-- Something has changed since the last validation. -/
  | modified
  /-- The frame may be presented. -/
  | validatedNoChanges
  /-- The backend's overrides wait to be accepted. -/
  | validatedWithChanges
  deriving DecidableEq, Inhabited

def DisplayState.name : DisplayState → String
  | .modified => "Modified"
  | .validatedNoChanges => "ValidatedNoChanges"
  | .validatedWithChanges => "ValidatedWithChanges"

inductive ValidateStatus where
  /-- The backend takes every layer as committed. -/
  | noChanges
  /-- The backend overrides at least one layer. -/
  | hasChanges
  deriving DecidableEq, Inhabited

def ValidateStatus.name : ValidateStatus → String
  | .noChanges => "NoChanges"
  | .hasChanges => "HasChanges"

structure ValidateSummary where
  status : ValidateStatus
  typeChanges : Nat
  requests : Nat
  deriving DecidableEq, Inhabited

/-- A frame before it becomes the backend's flat list: a slot for each layer, back to front, and the
client target's slot, which always comes last. -/
structure Proposal where
  layers : List (LayerId × Slot)
  target : Slot
  geometryChanged : Bool
  outputBuffer : Option BufferHandle
  deriving Inhabited

/-- The list that the backend is shown. -/
def Proposal.frame (proposal : Proposal) : Frame where
  slots := proposal.layers.map (·.2) ++ [proposal.target]
  geometryChanged := proposal.geometryChanged
  outputBuffer := proposal.outputBuffer

def Proposal.slotCount (proposal : Proposal) : Nat := proposal.layers.length + 1

structure Validation where
  /-- The backend's overrides that are not accepted yet, back to front. -/
  typeChanges : List (LayerId × Composition) := []
  /-- What the client is asked to do, back to front. -/
  requests : List (LayerId × LayerRequest) := []
  /-- The proposed frame with the backend's decisions written into it. -/
  proposal : Proposal
  deriving Inhabited

def Validation.summary (validation : Validation) : ValidateSummary where
  status := if validation.typeChanges.isEmpty then .noChanges else .hasChanges
  typeChanges := validation.typeChanges.length
  requests := validation.requests.length

structure Display where
  id : DisplayId
  name : String
  configs : List DisplayConfig
  activeConfigId : Option ConfigId
  powerMode : PowerMode := .on
  colorMode : ColorMode := .native
  /-- The layers in order of creation. -/
  layers : List Layer := []
  /-- The layers by Z key. -/
  order : StackOrder := {}
  /-- The number of layers whose pending composition is not committed. -/
  dirtyLayers : Nat := 0
  /-- The shape or the geometry of the stack has changed since the last validation. -/
  needsFullResend : Bool := true
  /-- The number of layers of the last validation. -/
  preparedLayers : Option Nat := none
  clientTarget : FencedBuffer := {}
  clientTargetDataspace : Dataspace := .unknown
  clientTargetDamage : List Rect := []
  outputBuffer : FencedBuffer := {}
  /-- A frame with client-composed layers is presented only with a client target. -/
  requireClientTarget : Bool
  /-- The last validation, unless something has changed since. -/
  validated : Option Validation := none
  retireFence : Fence := .noop
  framesPresented : Nat := 0
  deriving Inhabited

namespace Display

/-- A display whose first configuration is active. -/
def create (id : DisplayId) (name : String) (requireClientTarget : Bool)
    (configs : List DisplayConfig) : Display where
  id := id
  name := name
  configs := configs
  activeConfigId := configs.head?.map (·.id)
  requireClientTarget := requireClientTarget

def state (display : Display) : DisplayState :=
  match display.validated with
  | none => .modified
  | some validation =>
    if validation.typeChanges.isEmpty then .validatedNoChanges else .validatedWithChanges

def config? (display : Display) (id : ConfigId) : Option DisplayConfig :=
  display.configs.find? fun config => config.id == id

def activeConfig? (display : Display) : Option DisplayConfig :=
  display.activeConfigId.bind display.config?

def layer? (display : Display) (id : LayerId) : Option Layer :=
  display.layers.find? fun layer => layer.id == id

/-- The display with a layer in place of the one with its number. -/
def putLayer (display : Display) (layer : Layer) : Display :=
  { display with
    layers := display.layers.map fun other => if other.id == layer.id then layer else other }

/-- The layers back to front. -/
def layersInOrder (display : Display) : List LayerId := display.order.layers

/-- The display after a change that makes the last validation stale. -/
def modified (display : Display) : Display := { display with validated := none }

/-- The display after a change of the stack's shape or geometry. -/
def reshaped (display : Display) : Display :=
  { display with needsFullResend := true, validated := none }

/-- The display with the effect of a change on the number of dirty layers. -/
def countDelta (display : Display) (delta : DirtyDelta) : Display :=
  { display with dirtyLayers := delta.applyTo display.dirtyLayers }

/-- A new layer at the bottom of the stack, in front of all others there. -/
def addLayer (display : Display) (id : LayerId) : Display :=
  reshaped { display with
    layers := display.layers ++ [{ id := id, display := display.id }]
    order := display.order.insert 0 id }

/-- Takes a layer away, together with its release fences. -/
def removeLayer (display : Display) (id : LayerId) : Except Error Unit × Display :=
  match display.layer? id with
  | none => (.error .badLayer, display)
  | some layer =>
    (.ok (), reshaped { display with
      layers := display.layers.filter fun other => other.id != id
      order := display.order.remove layer.z id
      dirtyLayers := if layer.isDirty then display.dirtyLayers - 1 else display.dirtyLayers })

end Display

end Scanout
