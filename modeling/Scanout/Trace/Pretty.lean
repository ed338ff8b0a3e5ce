import Scanout.Decimal.Fixed
import Scanout.Trace.Event

/-!
# Trace events as lines of text

One line for each event; times are in microseconds with one place after the point.
-/

set_option autoImplicit false

namespace Scanout

namespace TraceEvent

def microsText (time : HostTime) : String := Decimal.fixedText 1 time.micros ++ "µs"

def statusText : ValidateStatus → String
  | .noChanges => "no-changes"
  | .hasChanges => "has-changes"

def retireText : Option UInt64 → String
  | none => "none"
  | some id => "fence#" ++ toString id.toNat

def changeText : LayerChange → String
  | .created => "created"
  | .destroyed => "destroyed"
  | .movedTo z => "z=" ++ toString z.toNat

def line (event : TraceEvent) : String :=
  let display := "display=" ++ toString event.display.number.toNat
  let time := " at " ++ microsText event.time
  match event.what with
  | .validated typeChanges requests status =>
    "[validate] " ++ display ++ " " ++ statusText status ++ " types="
      ++ toString typeChanges.toNat ++ " requests=" ++ toString requests.toNat ++ time ++ "\n"
  | .accepted => "[accept] " ++ display ++ time ++ "\n"
  | .presented frame retire =>
    "[present] " ++ display ++ " frame=" ++ toString frame.toNat ++ " retire="
      ++ retireText retire ++ time ++ "\n"
  | .tick buffered =>
    "[vsync] " ++ display ++ " deadline=" ++ microsText event.time
      ++ (if buffered then " (buffered)" else "") ++ "\n"
  | .layer layer change =>
    "[layer] " ++ display ++ " layer=" ++ toString layer.number.toNat ++ " " ++ changeText change
      ++ time ++ "\n"

end TraceEvent

end Scanout
