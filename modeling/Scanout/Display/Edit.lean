import Scanout.Display.Basic

/-!
# Edits of a layer

A client changes its layers one attribute at a time. An edit that the backend has to hear about
makes the last validation stale; asking for what is already there leaves the display as it is.
Damage and the position of a cursor are passed on with the next frame and never make a validation
stale.
-/

set_option autoImplicit false

namespace Scanout

inductive LayerEdit where
  | z (z : UInt32)
  | composition (composition : Composition)
  | buffer (buffer : Option BufferHandle) (acquire : Fence)
  | surfaceDamage (rects : List Rect)
  | dataspace (dataspace : Dataspace)
  | displayFrame (rect : Rect)
  | sourceCrop (rect : Rect)
  | planeAlpha (alpha : Float32)
  | blend (mode : BlendMode)
  | transform (transform : Transform)
  | color (color : Color)
  | cursor (x y : Float)

inductive EditResult where
  | done
  /-- The content that a new buffer replaces. -/
  | replaced (previous : FencedBuffer)
  deriving DecidableEq, Inhabited

namespace Display

def setZ (display : Display) (id : LayerId) (z : UInt32) : Except Error Unit × Display :=
  match display.layer? id with
  | none => (.error .badLayer, display)
  | some layer =>
    if layer.z = z then (.ok (), display)
    else
      let moved := display.putLayer { layer with z := z }
      match moved.order.move? id layer.z z with
      | none => (.error .badLayer, moved)
      | some order => (.ok (), reshaped { moved with order := order })

/-- Asks for a composition, which takes effect with the next validation. -/
def setComposition (display : Display) (id : LayerId) (composition : Composition) :
    Except Error Unit × Display :=
  match display.layer? id with
  | none => (.error .badLayer, display)
  | some layer =>
    if layer.pending = composition then (.ok (), display)
    else
      let (changed, delta) := layer.setComposition composition
      (.ok (), ((display.putLayer changed).countDelta delta).modified)

/-- Puts in a buffer with the fence that guards it, and hands back the content before. -/
def setBuffer (display : Display) (id : LayerId) (buffer : Option BufferHandle)
    (acquire : Fence) : Except Error FencedBuffer × Display :=
  match display.layer? id with
  | none => (.error .badLayer, display)
  | some layer =>
    let (content, previous) := layer.content.replace buffer acquire
    (.ok previous, (display.putLayer { layer with content := content }).modified)

/-- Notes which parts of a layer's buffer have changed. -/
def setSurfaceDamage (display : Display) (id : LayerId) (rects : List Rect) :
    Except Error Unit × Display :=
  match display.layer? id with
  | none => (.error .badLayer, display)
  | some layer => (.ok (), display.putLayer { layer with surfaceDamage := rects })

/-- Sets a layer's colour space. An unsupported one leaves the layer to the client. -/
def setDataspace (display : Display) (id : LayerId) (dataspace : Dataspace) :
    Except Error Unit × Display :=
  match display.layer? id with
  | none => (.error .badLayer, display)
  | some layer =>
    let changed := { layer with dataspace := dataspace }
    if layer.isUnsupported = changed.isUnsupported then (.ok (), display.putLayer changed)
    else (.ok (), (display.putLayer changed).reshaped)

def setGeometry (display : Display) (id : LayerId) (update : LayerGeometry → LayerGeometry) :
    Except Error Unit × Display :=
  match display.layer? id with
  | none => (.error .badLayer, display)
  | some layer =>
    let changed := { layer with geometry := update layer.geometry }
    if changed.geometry != layer.geometry then (.ok (), (display.putLayer changed).reshaped)
    else (.ok (), display.putLayer changed)

/-- Sets a layer's opacity, a number from 0 to 1. -/
def setPlaneAlpha (display : Display) (id : LayerId) (alpha : Float32) :
    Except Error Unit × Display :=
  if 0.0 ≤ alpha ∧ alpha ≤ 1.0 then
    display.setGeometry id fun geometry => { geometry with planeAlpha := alpha }
  else (.error .badParameter, display)

/-- Moves a layer that is committed as a cursor. -/
def setCursorPosition (display : Display) (id : LayerId) (x y : Float) :
    Except Error Unit × Display :=
  if display.state = .validatedWithChanges then (.error .notValidated, display)
  else
    match display.layer? id with
    | none => (.error .badLayer, display)
    | some layer =>
      if layer.committed = .cursor then
        (.ok (), display.putLayer { layer with
          geometry := { layer.geometry with
            displayFrame := layer.geometry.displayFrame.withOrigin x y } })
      else (.error .badLayer, display)

def editDone (outcome : Except Error Unit × Display) : Except Error EditResult × Display :=
  (outcome.1.map fun _ => .done, outcome.2)

def edit (display : Display) (id : LayerId) : LayerEdit → Except Error EditResult × Display
  | .z z => editDone (display.setZ id z)
  | .composition composition => editDone (display.setComposition id composition)
  | .buffer buffer acquire =>
    let (result, after) := display.setBuffer id buffer acquire
    (result.map .replaced, after)
  | .surfaceDamage rects => editDone (display.setSurfaceDamage id rects)
  | .dataspace dataspace => editDone (display.setDataspace id dataspace)
  | .displayFrame rect =>
    editDone (display.setGeometry id fun geometry => { geometry with displayFrame := rect })
  | .sourceCrop rect =>
    editDone (display.setGeometry id fun geometry => { geometry with sourceCrop := rect })
  | .planeAlpha alpha => editDone (display.setPlaneAlpha id alpha)
  | .blend mode =>
    editDone (display.setGeometry id fun geometry => { geometry with blend := mode })
  | .transform transform =>
    editDone (display.setGeometry id fun geometry => { geometry with transform := transform })
  | .color color =>
    editDone (display.setGeometry id fun geometry => { geometry with color := color })
  | .cursor x y => editDone (display.setCursorPosition id x y)

end Display

end Scanout
