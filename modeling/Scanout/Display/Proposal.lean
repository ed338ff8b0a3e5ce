import Scanout.Display.Basic
import Scanout.Notice

/-!
# From layers to frames and back

`Display.propose` turns the layers' pending state into the list that the backend prepares,
`Display.validationOf` turns the backend's decisions into a validation, and `Display.commitFrame`
turns a validation into the list that the backend commits. `Display.deliver` hands the fences of a
commit to the layers.
-/

set_option autoImplicit false

namespace Scanout

/-- What the backend is asked to do with a layer, and whether it must keep its hands off. Layers for
the client are passed on as framebuffer slots to skip; a device or cursor layer is a framebuffer
slot that the backend may move to a plane. -/
def Layer.requested (layer : Layer) : Placement × Bool :=
  if layer.isUnsupported then (.framebuffer, true)
  else
    match layer.pending with
    | .client => (.framebuffer, true)
    | .solidColor => (.framebuffer, true)
    | .invalid => (.framebuffer, true)
    | .device => (.framebuffer, false)
    | .cursor => (.framebuffer, false)
    | .sideband => (.sideband, false)

/-- The slot of a layer before the backend has decided on it. -/
def Layer.slot (layer : Layer) : Slot where
  placement := layer.requested.1
  skip := layer.requested.2
  buffer := layer.content.buffer
  acquireFence := layer.content.fence
  displayFrame := layer.geometry.displayFrame
  sourceCrop := layer.geometry.sourceCrop
  planeAlpha := layer.geometry.planeAlpha
  blend := layer.geometry.blend
  transform := layer.geometry.transform
  color := layer.geometry.color
  surfaceDamage := layer.surfaceDamage

/-- The composition that a layer gets if the backend decides for this placement, where the placement
alone determines it. -/
def Placement.override? : Placement → Option Composition
  | .framebuffer => some .client
  | .overlay => some .device
  | .background => none
  | .framebufferTarget => none
  | .sideband => none
  | .cursorOverlay => none

/-- The one composition with which a layer may be put on this plane. -/
def Placement.planeOf? : Placement → Option Composition
  | .framebuffer => none
  | .overlay => none
  | .background => some .solidColor
  | .framebufferTarget => none
  | .sideband => some .sideband
  | .cursorOverlay => some .cursor

namespace Display

def layerSlots (display : Display) : List (LayerId × Slot) :=
  display.layersInOrder.filterMap fun id => (display.layer? id).map fun layer => (id, layer.slot)

/-- The frame that the layers ask for. -/
def propose (display : Display) : Except Error Proposal :=
  match display.activeConfig? with
  | none => .error .badDisplay
  | some config =>
    let layers := display.layerSlots
    .ok {
      layers := layers
      target := .clientTarget config.shape.width config.shape.height
      geometryChanged := display.needsFullResend || 0 < display.dirtyLayers
        || display.preparedLayers != some layers.length
      outputBuffer := display.outputBuffer.buffer }

/-- Commits the pending composition of a layer, unless the client has to draw it. -/
def latchLayer (display : Display) (id : LayerId) : Display :=
  match display.layer? id with
  | none => display
  | some layer =>
    if layer.isUnsupported then display
    else
      let (latched, delta) := layer.latchComposition
      (display.putLayer latched).countDelta delta

/-- The override that a decision means for a layer. -/
def typeChange? (layer : Layer) (decision : Decision) : Option (LayerId × Composition) :=
  (decision.placement.override?.filter (· != layer.committed)).map fun composition =>
    (layer.id, composition)

def request? (layer : Layer) (decision : Decision) : Option (LayerId × LayerRequest) :=
  if decision.clearClientTarget then some (layer.id, .clearClientTarget) else none

def decisionNotices (display : Display) (layer : Layer) (decision : Decision) : List Notice :=
  if decision.placement = .framebufferTarget then [.layerAsTarget display.id layer.id]
  else
    match decision.placement.planeOf? with
    | none => []
    | some composition =>
      if layer.committed = composition then []
      else [.layerMisplaced display.id layer.id decision.placement layer.committed]

def targetNotices (display : Display) (slot : Nat) (decision : Decision) : List Notice :=
  if decision.placement = .framebufferTarget then []
  else [.targetMoved display.id slot decision.placement]

/-- The layers that still exist, each with the decision on its slot. -/
def decidedLayers (display : Display) (proposal : Proposal) (decisions : List Decision) :
    List (Layer × Decision) :=
  (proposal.layers.zip decisions).filterMap fun ((id, _), decision) =>
    (display.layer? id).map fun layer => (layer, decision)

/-- Writes a decision into the slot of a layer that still exists. -/
def decideSlot (display : Display) (entry : (LayerId × Slot) × Decision) : LayerId × Slot :=
  if (display.layer? entry.1.1).isSome then
    (entry.1.1, { entry.1.2 with placement := entry.2.placement })
  else entry.1

/-- The validation that the backend's decisions amount to. -/
def validationOf (display : Display) (proposal : Proposal) (decisions : List Decision) :
    Validation where
  typeChanges := (display.decidedLayers proposal decisions).filterMap fun (layer, decision) =>
    typeChange? layer decision
  requests := (display.decidedLayers proposal decisions).filterMap fun (layer, decision) =>
    request? layer decision
  proposal := { proposal with layers := (proposal.layers.zip decisions).map display.decideSlot }

def allNotices (display : Display) (proposal : Proposal) (decisions : List Decision) :
    List Notice :=
  (display.decidedLayers proposal decisions).flatMap
      (fun (layer, decision) => display.decisionNotices layer decision)
    ++ (decisions.drop proposal.layers.length).flatMap
      (fun decision => display.targetNotices proposal.layers.length decision)

def latchLayers (display : Display) (proposal : Proposal) : Display :=
  proposal.layers.foldl (fun display entry => display.latchLayer entry.1) display

/-- Keeps a validation, with which nothing waits to be resent. -/
def keepValidation (display : Display) (validation : Validation) : Display :=
  { display with
    needsFullResend := false
    preparedLayers := some validation.proposal.layers.length
    validated := some validation }

/-- A slot on commit. It follows the layer's display frame, and the backend waits for no buffer that
the client composes. -/
def commitSlot (display : Display) (entry : LayerId × Slot) : Slot :=
  match display.layer? entry.1 with
  | none => entry.2
  | some layer =>
    { entry.2 with
      displayFrame := layer.geometry.displayFrame
      acquireFence :=
        if entry.2.placement = .framebuffer then .noop else entry.2.acquireFence }

def composesAny (display : Display) (proposal : Proposal) : Bool :=
  proposal.layers.any fun entry =>
    (display.layer? entry.1).isSome && entry.2.placement == .framebuffer

def commitTarget (display : Display) (slot : Slot) : Slot :=
  { slot with
    buffer := display.clientTarget.buffer
    acquireFence := display.clientTarget.fence
    surfaceDamage := display.clientTargetDamage }

/-- The frame lacks a client target that it needs. -/
def lacksClientTarget (display : Display) (proposal : Proposal) : Bool :=
  display.composesAny proposal && display.requireClientTarget
    && display.clientTarget.buffer.isNone

/-- The list that shows a validated frame. -/
def commitFrame (display : Display) (proposal : Proposal) : Frame where
  slots := proposal.layers.map display.commitSlot ++ [display.commitTarget proposal.target]
  geometryChanged := proposal.geometryChanged
  outputBuffer := display.outputBuffer.buffer

def pushReleaseFence (display : Display) (entry : LayerId × Fence) : Display :=
  match display.layer? entry.1 with
  | none => display
  | some layer => display.putLayer (layer.pushReleaseFence entry.2)

/-- The fences of a commit, each with the layer that it belongs to. The client target's fence is for
nobody. -/
def releaseShares (display : Display) (fences : CommitFences) : List (LayerId × Fence) :=
  match display.validated with
  | none => []
  | some validation => (validation.proposal.layers.map (·.1)).zip fences.release

def deliver (display : Display) (fences : CommitFences) : Display :=
  { (display.releaseShares fences).foldl pushReleaseFence display with
    retireFence := fences.retire
    framesPresented := display.framesPresented + 1 }

end Display

end Scanout
