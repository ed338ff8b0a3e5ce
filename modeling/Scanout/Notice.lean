import Scanout.Backend.Frame
import Scanout.Error
import Scanout.Identity

/-!
# Notices

What the adapter tells an operator besides its answers: warnings about calls that could not be
served as asked, and errors about backends that break their contract. The wording is fixed here.
-/

set_option autoImplicit false

namespace Scanout

inductive Severity where
  | warning
  | error
  deriving DecidableEq, Inhabited

def Severity.name : Severity → String
  | .warning => "warn"
  | .error => "error"

/-- One thing that an operator should know. -/
inductive Notice where
  | backendFailed (cause : BackendError)
  | decisionCount (display : DisplayId) (returned expected : Nat)
  | targetMoved (display : DisplayId) (slot : Nat) (placement : Placement)
  | layerMisplaced (display : DisplayId) (layer : LayerId) (placement : Placement)
      (committed : Composition)
  | layerAsTarget (display : DisplayId) (layer : LayerId)
  | clientTargetMissing (display : DisplayId)
  | releaseCount (display : DisplayId) (returned expected : Nat)
  | noConfigs
  | zeroPeriodIgnored
  | timerRefused (reason : String)
  | retireFenceLost (cause : FenceError)
  deriving DecidableEq, Inhabited

namespace Notice

def severity : Notice → Severity
  | backendFailed _ => .warning
  | zeroPeriodIgnored => .warning
  | timerRefused _ => .warning
  | retireFenceLost _ => .warning
  | decisionCount _ _ _ => .error
  | targetMoved _ _ _ => .error
  | layerMisplaced _ _ _ _ => .error
  | layerAsTarget _ _ => .error
  | clientTargetMissing _ => .error
  | releaseCount _ _ _ => .error
  | noConfigs => .error

/-- The plane of a placement that only some compositions may take. -/
def planeName : Placement → String
  | .background => "background"
  | .sideband => "sideband"
  | .cursorOverlay => "cursor plane"
  | placement => placement.name

def text : Notice → String
  | backendFailed cause => "backend call failed: " ++ cause.message
  | decisionCount display returned expected =>
    display.text ++ ": backend returned " ++ toString returned ++ " decisions for "
      ++ toString expected ++ " slots"
  | targetMoved display slot placement =>
    display.text ++ ": target slot " ++ toString slot ++ " came back as " ++ placement.name
  | layerMisplaced display layer placement committed =>
    display.text ++ ": " ++ layer.text ++ " put on " ++ planeName placement
      ++ " but committed as " ++ committed.label
  | layerAsTarget display layer =>
    display.text ++ ": " ++ layer.text ++ " came back as the framebuffer target"
  | clientTargetMissing display =>
    display.text ++ ": present with client-composed layers but no client target"
  | releaseCount display returned expected =>
    display.text ++ ": backend returned " ++ toString returned ++ " release fences for "
      ++ toString expected ++ " slots"
  | noConfigs => "backend reported no display configs"
  | zeroPeriodIgnored => "ignoring zero vsync period"
  | timerRefused reason => reason
  | retireFenceLost cause => "shutdown: " ++ cause.message ++ "; proceeding"

end Notice

end Scanout
