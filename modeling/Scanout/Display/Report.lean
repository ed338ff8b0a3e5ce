import Scanout.Display.Basic

/-!
# Reports about a display

The texts that an operator reads: one line that names the display, and a description of all that it
holds.
-/

set_option autoImplicit false

namespace Scanout

namespace Display

def text (display : Display) : String :=
  "Display \x7b id: " ++ display.id.text ++ ", state: " ++ display.state.name ++ ", .. \x7d"

/-- The line of a configuration; the active one is marked. -/
def configLine (display : Display) (config : DisplayConfig) : String :=
  let mark := if display.activeConfigId = some config.id then "*" else " "
  "   " ++ mark ++ "[" ++ toString config.id.number.toNat ++ "] " ++ config.text ++ "\n"

def layerLine (layer : Layer) : String :=
  "      [" ++ toString layer.id.number.toNat ++ "] z=" ++ toString layer.z.toNat ++ " type="
    ++ layer.pending.label ++ "/" ++ layer.committed.label
    ++ (if layer.isUnsupported then " (forced client)" else "") ++ " buffer="
    ++ BufferHandle.optionText layer.content.buffer ++ " frame="
    ++ layer.geometry.displayFrame.text ++ "\n"

def report (display : Display) : String :=
  "  Display " ++ toString display.id.number.toNat ++ ": " ++ display.state.name ++ " \""
    ++ display.name ++ "\"\n"
    ++ "    power " ++ display.powerMode.name ++ ", color " ++ display.colorMode.name ++ ", "
    ++ toString display.framesPresented ++ " frame(s) presented\n"
    ++ String.join (display.configs.map display.configLine)
    ++ "    client target " ++ BufferHandle.optionText display.clientTarget.buffer ++ " "
    ++ display.clientTargetDataspace.text ++ ", output "
    ++ BufferHandle.optionText display.outputBuffer.buffer ++ "\n"
    ++ "    " ++ toString display.layers.length ++ " layer(s), " ++ toString display.dirtyLayers
    ++ " dirty:\n"
    ++ String.join ((display.layersInOrder.filterMap display.layer?).map layerLine)

end Display

end Scanout
