import Mathlib
import Scanout.Display.Call

/-!
# Turns of a display

Whatever clients, devices and backends do, a display sees one *turn* after the other. A turn brings
along what the display does not decide itself: the number of a new layer and the backend's answers.
Validating and presenting are one turn each, since the backend leaves the display alone while it
prepares or commits a frame; a switch of the configuration or of the power mode is a turn of its own
once the backend has answered.

`Display.after` is the display after a list of turns. `Memory` is what somebody remembers who has
watched them: the last negotiation with the backend, the overrides accepted since, and the buffers
set last.
-/

set_option autoImplicit false

namespace Scanout

/-- One step of a display's history. -/
inductive Turn where
  | idle
  | addLayer (id : LayerId)
  | removeLayer (id : LayerId)
  | call (call : DisplayCall)
  /-- A validation with a backend that answers like `prepare`. -/
  | validate (prepare : Frame → Except BackendError (List Decision))
  /-- A presentation with a backend that answers like `commit`. -/
  | present (commit : Frame → Except BackendError CommitFences)
  /-- The backend answers to a switch to another configuration. -/
  | switchConfig (id : ConfigId) (answer : Except BackendError Unit)
  /-- The backend answers to a switch of the power mode. -/
  | switchPower (mode : PowerMode) (answer : Except BackendError Unit)

/-- What display and backend have agreed on: the frame proposed and the decision on each slot. -/
structure Negotiation where
  proposal : Proposal
  decisions : List Decision

namespace Display

/-- A validation from its beginning to its end. -/
def validateWith (display : Display) (prepare : Frame → Except BackendError (List Decision)) :
    Except Error ValidateSummary × Display :=
  match display.beginValidate with
  | .finished result _ => (result, display)
  | .asking proposal =>
    let outcome := display.finishValidate proposal (prepare proposal.frame)
    (outcome.result, outcome.display)

/-- A presentation from its beginning to its end. -/
def presentWith (display : Display) (commit : Frame → Except BackendError CommitFences) :
    Except Error Fence × Display :=
  match display.beginPresent with
  | .finished result _ => (result, display)
  | .asking frame =>
    let outcome := display.finishPresent frame (commit frame)
    (outcome.result, outcome.display)

def turn (display : Display) : Turn → Except Error CallResult × Display
  | .idle => (.ok .done, display)
  | .addLayer id => (.ok .done, display.addLayer id)
  | .removeLayer id => ((display.removeLayer id).1.map fun _ => .done, (display.removeLayer id).2)
  | .call call => display.call call
  | .validate prepare =>
    ((display.validateWith prepare).1.map .summary, (display.validateWith prepare).2)
  | .present commit =>
    ((display.presentWith commit).1.map .fence, (display.presentWith commit).2)
  | .switchConfig id answer =>
    ((display.finishSetActiveConfig id answer).result.map fun _ => .done,
      (display.finishSetActiveConfig id answer).display)
  | .switchPower mode answer =>
    ((display.finishSetPowerMode mode answer).result.map fun _ => .done,
      (display.finishSetPowerMode mode answer).display)

def after (display : Display) : List Turn → Display
  | [] => display
  | turn :: rest => after (display.turn turn).2 rest

/-- What a validation agrees on with a backend that answers like `prepare`. -/
def negotiated? (display : Display) (prepare : Frame → Except BackendError (List Decision)) :
    Option Negotiation :=
  match display.beginValidate with
  | .finished _ _ => none
  | .asking proposal =>
    match prepare proposal.frame with
    | .error _ => none
    | .ok decisions =>
      if decisions.length = proposal.slotCount then some ⟨proposal, decisions⟩ else none

end Display

/-- The number of the layer that a turn adds. -/
def Turn.added? : Turn → Option LayerId
  | .addLayer id => some id
  | _ => none

theorem Turn.added?_eq_some_iff {turn : Turn} {id : LayerId} :
    turn.added? = some id ↔ turn = .addLayer id := by
  cases turn <;> simp [added?]

/-- A new layer has a higher number than the layers that are there. -/
def Turn.FreshOn (display : Display) : Turn → Prop
  | .addLayer id => ∀ layer ∈ display.layers, layer.id.number.toNat < id.number.toNat
  | _ => True

/-- All new layers get numbers of their own. -/
def Display.Follows (display : Display) : List Turn → Prop
  | [] => True
  | turn :: rest => turn.FreshOn display ∧ (display.turn turn).2.Follows rest

/-- What the turns so far have told. -/
structure Memory where
  negotiation : Option Negotiation := none
  /-- The overrides accepted since, in the order of acceptance. -/
  accepted : List (LayerId × Composition) := []
  clientTarget : FencedBuffer := {}
  clientTargetDamage : List Rect := []
  outputBuffer : Option BufferHandle := none

namespace Memory

def next (memory : Memory) (display : Display) : Turn → Memory
  | .call (.clientTarget buffer acquire _ damage) =>
    { memory with clientTarget := ⟨buffer, acquire⟩, clientTargetDamage := damage }
  | .call (.outputBuffer buffer _) => { memory with outputBuffer := buffer }
  | .call .acceptChanges =>
    match display.validated with
    | none => memory
    | some validation => { memory with accepted := memory.accepted ++ validation.typeChanges }
  | .validate prepare =>
    match display.negotiated? prepare with
    | none => memory
    | some negotiation => { memory with negotiation := some negotiation, accepted := [] }
  | _ => memory

def through (memory : Memory) (display : Display) : List Turn → Memory
  | [] => memory
  | turn :: rest => (memory.next display turn).through (display.turn turn).2 rest

end Memory

end Scanout
