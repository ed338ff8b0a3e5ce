import Scanout.Device.Basic

/-!
# Layers of a device

The device creates and destroys the layers of its display and keeps its own register of them. Edits
that the device itself offers look the layer up in that register; the others reach the display as
they are.
-/

set_option autoImplicit false

namespace Scanout

/-- The device itself offers this edit. -/
def LayerEdit.isResolved : LayerEdit → Bool
  | z _ => true
  | composition _ => true
  | buffer _ _ => true
  | dataspace _ => true
  | cursor _ _ => true
  | surfaceDamage _ => false
  | displayFrame _ => false
  | sourceCrop _ => false
  | planeAlpha _ => false
  | blend _ => false
  | transform _ => false
  | color _ => false

namespace Device

def layerEvent (display : DisplayId) (layer : LayerId) (change : LayerChange) : TraceEvent where
  display := display
  time := ⟨0⟩
  what := .layer layer change

def createLayer (device : Device) (id : DisplayId) : Reply LayerId :=
  match device.find id with
  | .error cause => { result := .error cause, device := device }
  | .ok display =>
    match device.layerNumbers.allocate? with
    | none => { result := .error .noResources, device := device }
    | some (number, numbering) =>
      { result := .ok ⟨number⟩
        device := { device with
          display := display.addLayer ⟨number⟩
          owners := device.owners ++ [(⟨number⟩, id)]
          layerNumbers := numbering }
        events := [layerEvent id ⟨number⟩ .created] }

def destroyLayer (device : Device) (id : DisplayId) (layer : LayerId) : Reply Unit :=
  match device.resolveLayer id layer with
  | .error cause => { result := .error cause, device := device }
  | .ok display =>
    match display.removeLayer layer with
    | (.error cause, after) =>
      { result := .error cause, device := { device with display := after } }
    | (.ok _, after) =>
      { result := .ok ()
        device := { device with
          display := after
          owners := device.owners.filter fun entry => entry.1 != layer }
        events := [layerEvent id layer .destroyed] }

def editEvents (id : DisplayId) (layer : LayerId) : LayerEdit → List TraceEvent
  | .z z => [layerEvent id layer (.movedTo z)]
  | _ => []

def resolveEdit (device : Device) (id : DisplayId) (layer : LayerId) (edit : LayerEdit) :
    Except Error Display :=
  if edit.isResolved then device.resolveLayer id layer else device.find id

def editLayer (device : Device) (id : DisplayId) (layer : LayerId) (edit : LayerEdit) :
    Reply CallResult :=
  match device.resolveEdit id layer edit with
  | .error cause => { result := .error cause, device := device }
  | .ok display =>
    match display.edit layer edit with
    | (.error cause, after) =>
      { result := .error cause, device := { device with display := after } }
    | (.ok result, after) =>
      { result := .ok result.toCallResult
        device := { device with display := after }
        events := editEvents id layer edit }

end Device

end Scanout
