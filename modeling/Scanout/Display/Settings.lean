import Scanout.Display.Basic

/-!
# Settings and queries of a display

What a client sets or asks without the backend: the client target, the output buffer, the colour
mode, the results of the last validation and the fences of the last frames. None of it makes a
validation stale.
-/

set_option autoImplicit false

namespace Scanout

namespace Display

/-- Sets the buffer that the client composes into. -/
def setClientTarget (display : Display) (buffer : Option BufferHandle) (acquire : Fence)
    (dataspace : Dataspace) (damage : List Rect) : Display :=
  { display with
    clientTarget := (display.clientTarget.replace buffer acquire).1
    clientTargetDataspace := dataspace
    clientTargetDamage := damage }

/-- Sets the buffer that the display writes its composition back to. -/
def setOutputBuffer (display : Display) (buffer : Option BufferHandle) (release : Fence) :
    Display :=
  { display with outputBuffer := (display.outputBuffer.replace buffer release).1 }

/-- Selects a colour mode; the panel has only its own. -/
def setColorMode (display : Display) (mode : ColorMode) : Except Error Unit × Display :=
  if mode = .native then (.ok (), { display with colorMode := mode })
  else (.error .unsupported, display)

def colorModes : List ColorMode := [.native]

/-- A client target of this shape can be used. -/
def supportsClientTarget (display : Display) (width height : UInt32) (format : PixelFormat)
    (dataspace : Dataspace) : Except Error Unit :=
  match display.activeConfig? with
  | none => .error .unsupported
  | some config =>
    if config.shape.width = width ∧ config.shape.height = height ∧ format = .rgba8888
        ∧ dataspace = .unknown then .ok ()
    else .error .unsupported

/-- The overrides that are not accepted yet. -/
def changedCompositions (display : Display) : Except Error (List (LayerId × Composition)) :=
  match display.validated with
  | none => .error .notValidated
  | some validation => .ok validation.typeChanges

/-- What the last validation asks the client to do. -/
def requests (display : Display) : Except Error (List (LayerId × LayerRequest)) :=
  match display.validated with
  | none => .error .notValidated
  | some validation => .ok validation.requests

/-- The deferred release fences of the layers that have one, back to front. -/
def releaseFences (display : Display) : List (LayerId × Fence) :=
  display.layersInOrder.filterMap fun id =>
    match display.layer? id with
    | none => none
    | some layer =>
      if layer.releaseFences.deferred.isNoop then none
      else some (id, layer.releaseFences.deferred)

/-- The release fence that a layer got with the last frame. -/
def latestReleaseFence (display : Display) (id : LayerId) : Except Error Fence :=
  match display.layer? id with
  | none => .error .badLayer
  | some layer => .ok layer.releaseFences.latest

def layerInfo (display : Display) (id : LayerId) : Except Error Layer.Info :=
  match display.layer? id with
  | none => .error .badLayer
  | some layer => .ok layer.info

def activeConfig (display : Display) : Except Error DisplayConfig :=
  match display.activeConfig? with
  | none => .error .badConfig
  | some config => .ok config

def configAttribute (display : Display) (id : ConfigId) (which : Attribute) :
    Except Error UInt64 :=
  match display.config? id with
  | none => .error .badConfig
  | some config => .ok (config.valueOf which)

end Display

end Scanout
