import Scanout.Display.Edit
import Scanout.Display.Protocol
import Scanout.Display.Settings

/-!
# Calls of a display

All calls that change a display, as data. A `DisplayCall` needs the display alone; a `BackendCall`
begins with a question to the backend, or ends without one, and is completed by the answer.
`Display.run` is the whole of such a call with a backend that answers at once.
-/

set_option autoImplicit false

namespace Scanout

/-- A call that needs no backend. -/
inductive DisplayCall where
  | edit (layer : LayerId) (edit : LayerEdit)
  | clientTarget (buffer : Option BufferHandle) (acquire : Fence) (dataspace : Dataspace)
      (damage : List Rect)
  | outputBuffer (buffer : Option BufferHandle) (release : Fence)
  | acceptChanges
  | colorMode (mode : ColorMode)

/-- A call that asks the backend. -/
inductive BackendCall where
  | validate
  | present
  | setActiveConfig (id : ConfigId)
  | setPowerMode (mode : PowerMode)
  deriving DecidableEq, Inhabited

inductive Question where
  | prepare (proposal : Proposal)
  | commit (frame : Frame)
  | activeConfig (id : ConfigId) (index : Nat)
  | powerMode (mode : PowerMode)

inductive CallResult where
  | done
  | replaced (previous : FencedBuffer)
  | summary (summary : ValidateSummary)
  | fence (fence : Fence)
  deriving DecidableEq, Inhabited

def EditResult.toCallResult : EditResult → CallResult
  | done => .done
  | replaced previous => .replaced previous

namespace Begun

def map {question question' answer answer' : Type} (ask : question → question')
    (tell : answer → answer') : Begun question answer → Begun question' answer'
  | finished result notices => finished (result.map tell) notices
  | asking about => asking (ask about)

end Begun

namespace Outcome

def map {answer answer' : Type} (tell : answer → answer') (outcome : Outcome answer) :
    Outcome answer' where
  result := outcome.result.map tell
  display := outcome.display
  notices := outcome.notices

end Outcome

namespace Display

def call (display : Display) : DisplayCall → Except Error CallResult × Display
  | .edit layer edit =>
    let (result, after) := display.edit layer edit
    (result.map EditResult.toCallResult, after)
  | .clientTarget buffer acquire dataspace damage =>
    (.ok .done, display.setClientTarget buffer acquire dataspace damage)
  | .outputBuffer buffer release => (.ok .done, display.setOutputBuffer buffer release)
  | .acceptChanges =>
    let (result, after) := display.acceptChanges
    (result.map fun _ => .done, after)
  | .colorMode mode =>
    let (result, after) := display.setColorMode mode
    (result.map fun _ => .done, after)

/-- The first half of a call that asks the backend. -/
def begin (display : Display) : BackendCall → Begun Question CallResult
  | .validate => display.beginValidate.map .prepare .summary
  | .present => display.beginPresent.map .commit .fence
  | .setActiveConfig id =>
    (display.beginSetActiveConfig id).map (.activeConfig id) fun _ => .done
  | .setPowerMode mode => .asking (.powerMode mode)

variable {σ : Type}

def complete (display : Display) (backend : Backend σ) (question : Question) (state : σ) :
    Outcome CallResult × σ :=
  match question with
  | .prepare proposal =>
    let (answer, after) := backend.prepare proposal.frame state
    ((display.finishValidate proposal answer).map .summary, after)
  | .commit frame =>
    let (answer, after) := backend.commit frame state
    ((display.finishPresent frame answer).map .fence, after)
  | .activeConfig id index =>
    let (answer, after) := backend.setActiveConfig index state
    ((display.finishSetActiveConfig id answer).map fun _ => .done, after)
  | .powerMode mode =>
    let (answer, after) := backend.setPowerMode mode state
    ((display.finishSetPowerMode mode answer).map fun _ => .done, after)

def run (display : Display) (backend : Backend σ) (call : BackendCall) (state : σ) :
    Outcome CallResult × σ :=
  match display.begin call with
  | .finished result notices => (⟨result, display, notices⟩, state)
  | .asking question => display.complete backend question state

end Display

end Scanout
