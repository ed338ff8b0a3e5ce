import Scanout.Backend.Interface
import Scanout.Display.Proposal

/-!
# The negotiation of a frame

Every call that needs the backend has two halves. The first decides from the display alone whether
the call ends here or what to ask the backend; the second takes the backend's answer. They are apart
because other calls may change the display before the backend answers.

A call that fails leaves the display as it was.
-/

set_option autoImplicit false

namespace Scanout

/-- The first half of a call. -/
inductive Begun (question answer : Type) where
  | finished (result : Except Error answer) (notices : List Notice)
  | asking (question : question)

structure Outcome (answer : Type) where
  result : Except Error answer
  display : Display
  notices : List Notice := []

namespace Display

def failed {answer : Type} (display : Display) (cause : BackendError) : Outcome answer where
  result := .error cause.toError
  display := display
  notices := [.backendFailed cause]

/-- Proposes a frame, unless the last validation still holds. -/
def beginValidate (display : Display) : Begun Proposal ValidateSummary :=
  match display.validated with
  | some validation => .finished (.ok validation.summary) []
  | none =>
    match display.propose with
    | .error cause => .finished (.error cause) []
    | .ok proposal => .asking proposal

/-- Takes the backend's decisions on a proposed frame. -/
def finishValidate (display : Display) (proposal : Proposal) :
    Except BackendError (List Decision) → Outcome ValidateSummary
  | .error cause => display.failed cause
  | .ok decisions =>
    if decisions.length = proposal.slotCount then
      let latched := display.latchLayers proposal
      let validation := latched.validationOf proposal decisions
      { result := .ok validation.summary
        display := latched.keepValidation validation
        notices := latched.allNotices proposal decisions }
    else
      { result := .error .noResources
        display := display
        notices := [.decisionCount display.id decisions.length proposal.slotCount] }

def acceptChange (display : Display) (change : LayerId × Composition) : Display :=
  match display.layer? change.1 with
  | none => display
  | some layer =>
    let (asked, asking) := layer.setComposition change.2
    let (latched, latching) := asked.latchComposition
    ((display.putLayer latched).countDelta asking).countDelta latching

def acceptChanges (display : Display) : Except Error Unit × Display :=
  match display.validated with
  | none => (.error .notValidated, display)
  | some validation =>
    (.ok (), { validation.typeChanges.foldl acceptChange display with
      validated := some { validation with typeChanges := [] } })

/-- The frame to commit, if the display is validated and its overrides are accepted. -/
def beginPresent (display : Display) : Begun Frame Fence :=
  match display.validated with
  | none => .finished (.error .notValidated) []
  | some validation =>
    if !validation.typeChanges.isEmpty then .finished (.error .notValidated) []
    else if display.lacksClientTarget validation.proposal then
      .finished (.error .badDisplay) [.clientTargetMissing display.id]
    else .asking (display.commitFrame validation.proposal)

/-- Takes the fences of a commit of `frame`, one for each slot. -/
def finishPresent (display : Display) (frame : Frame) :
    Except BackendError CommitFences → Outcome Fence
  | .error cause => display.failed cause
  | .ok fences =>
    if fences.release.length = frame.slots.length then
      { result := .ok fences.retire, display := display.deliver fences }
    else
      { result := .error .noResources
        display := display
        notices := [.releaseCount display.id fences.release.length frame.slots.length] }

/-- The backend's index of a configuration that is not active yet. -/
def beginSetActiveConfig (display : Display) (id : ConfigId) : Begun Nat Unit :=
  if display.activeConfigId = some id then .finished (.ok ()) []
  else
    match (display.config? id).bind (·.backendIndices.head?) with
    | none => .finished (.error .badConfig) []
    | some index => .asking index

/-- Makes a configuration active once the backend has switched to it. -/
def finishSetActiveConfig (display : Display) (id : ConfigId) :
    Except BackendError Unit → Outcome Unit
  | .error cause => display.failed cause
  | .ok _ =>
    { result := .ok (), display := reshaped { display with activeConfigId := some id } }

/-- Notes a power mode once the backend has applied it. -/
def finishSetPowerMode (display : Display) (mode : PowerMode) :
    Except BackendError Unit → Outcome Unit
  | .error cause => display.failed cause
  | .ok _ => { result := .ok (), display := { display with powerMode := mode } }

end Display

end Scanout
