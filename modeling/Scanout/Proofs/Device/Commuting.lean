import Scanout.Proofs.Device.Failure
import Scanout.Proofs.Display.Commuting

/-!
# Operations on two layers commute

A client destroys a layer through its device, and sets its attributes through the device or straight
through the display. The device either refuses to pass the operation on, for what it has registered
of this layer, or the display alters the layer (`operate_eq`). An operation on another layer touches
neither. So operations on two layers may change places: each one is answered alike, and the same
device comes out (`commutes_run`).
-/

set_option autoImplicit false

namespace Scanout

/-- What a client asks of a device, or straight of its display, for one layer. -/
inductive LayerOperation where
  | destroy (id : DisplayId)
  | edit (access : Access) (edit : LayerEdit)

namespace LayerOperation

def alteration : LayerOperation → Alteration
  | destroy _ => .destroy
  | edit _ change => .edit change

/-- Why the operation does not reach the display, if it does not. -/
def refusal? (device : Device) (layer : LayerId) : LayerOperation → Option Error
  | destroy id => failure? (device.resolveLayer id layer)
  | edit (.device id) change => failure? (device.resolveEdit id layer change)
  | edit .display _ => none

def owners (layer : LayerId) (owners : List (LayerId × DisplayId)) :
    LayerOperation → List (LayerId × DisplayId)
  | destroy _ => owners.filter fun entry => entry.1 != layer
  | edit _ _ => owners

/-- What the device reports of an operation that ends like this. -/
def events (layer : LayerId) : Except Error CallResult → LayerOperation → List TraceEvent
  | .error _, _ => []
  | .ok _, destroy id => [Device.layerEvent id layer .destroyed]
  | .ok _, edit (.device id) change => Device.editEvents id layer change
  | .ok _, edit .display _ => []

end LayerOperation

/-- All that is told of a call. -/
def Reply.told {answer : Type} (reply : Reply answer) :
    Except Error answer × List Notice × List TraceEvent :=
  (reply.result, reply.notices, reply.events)

namespace Device

def operate (device : Device) (layer : LayerId) : LayerOperation → Reply CallResult
  | .destroy id =>
    let reply := device.destroyLayer id layer
    { result := reply.result.map fun _ => .done
      device := reply.device
      notices := reply.notices
      events := reply.events }
  | .edit access change => device.callAt access (.edit layer change)

/-- Two operations, on a layer each, may change places. -/
structure Commutes (device : Device) (a : LayerId) (first : LayerOperation) (b : LayerId)
    (second : LayerOperation) : Prop where
  former : ((device.operate b second).device.operate a first).told
    = (device.operate a first).told
  latter : ((device.operate a first).device.operate b second).told
    = (device.operate b second).told
  after : ((device.operate a first).device.operate b second).device
    = ((device.operate b second).device.operate a first).device
  /-- The backend is asked about the same frame next. -/
  next : ((device.operate a first).device.operate b second).device.display.beginValidate
    = ((device.operate b second).device.operate a first).device.display.beginValidate

/-! ## One operation -/

variable {device after : Device} {a b : LayerId}

/-- The end of an operation that reaches the display. -/
def alter (device : Device) (layer : LayerId) (operation : LayerOperation) : Reply CallResult :=
  let (result, display) := device.display.turn (operation.alteration.turn layer)
  { result := result
    device := { device with
      display := display
      owners := operation.owners layer device.owners }
    events := LayerOperation.events layer result operation }

theorem operate_eq (there : a ∈ device.display.ids) (operation : LayerOperation) :
    device.operate a operation
      = match operation.refusal? device a with
        | some cause => { result := .error cause, device := device }
        | none => device.alter a operation := by
  cases operation with
  | destroy id =>
      obtain ⟨layer, found⟩ := Display.mem_ids_iff.mp there
      simp only [operate, destroyLayer, LayerOperation.refusal?]
      cases resolved : device.resolveLayer id a with
      | error cause => rfl
      | ok display =>
          rw [resolveLayer_eq_ok resolved]
          simp only [failure?, alter, LayerOperation.alteration, Alteration.turn, Display.turn,
            Display.removeLayer, found]
          rfl
  | edit access change =>
      cases access with
      | display =>
          simp only [operate, callAt, LayerOperation.refusal?, alter, LayerOperation.alteration,
            Alteration.turn, Display.turn]
          cases (device.display.call (.edit a change)).1 <;> rfl
      | device id =>
          simp only [operate, callAt, call, editLayer, LayerOperation.refusal?]
          cases resolved : device.resolveEdit id a change with
          | error cause => rfl
          | ok display =>
              rw [resolveEdit_eq_ok resolved]
              simp only [failure?, alter, LayerOperation.alteration, Alteration.turn, Display.turn,
                Display.call]
              cases device.display.edit a change with
              | mk result after => cases result <;> rfl

/-! ## An operation on another layer -/

theorem lookup_owners_other (apart : a ≠ b) (operation : LayerOperation)
    (owners : List (LayerId × DisplayId)) :
    (operation.owners b owners).lookup a = owners.lookup a := by
  cases operation with
  | edit access change => rfl
  | destroy id =>
      simp only [LayerOperation.owners]
      induction owners with
      | nil => rfl
      | cons entry rest ih =>
          obtain ⟨layer, display⟩ := entry
          by_cases here : layer = b
          · have differs : (a == layer) = false := by simpa using here ▸ apart
            rw [List.filter_cons_of_neg (by simpa using here), ih, List.lookup_cons, differs]
          · rw [List.filter_cons_of_pos (by simpa using here), List.lookup_cons, List.lookup_cons,
              ih]

/-- Whether an operation reaches the display depends on the display's number and on the entry of the
layer in the register. -/
theorem refusal?_congr (id : after.display.id = device.display.id)
    (owner : after.owners.lookup a = device.owners.lookup a) (operation : LayerOperation) :
    operation.refusal? after a = operation.refusal? device a := by
  have find : ∀ named, failure? (after.find named) = failure? (device.find named) := by
    intro named
    simp only [Device.find, id]
    split <;> rfl
  have resolve : ∀ named,
      failure? (after.resolveLayer named a) = failure? (device.resolveLayer named a) := by
    intro named
    simp only [resolveLayer, Device.find, id, owner]
    by_cases here : device.display.id = named
    · simp only [if_pos here]
      split <;> rfl
    · simp only [if_neg here]
  cases operation with
  | destroy named => exact resolve named
  | edit access change =>
      cases access with
      | display => rfl
      | device named =>
          simp only [LayerOperation.refusal?, resolveEdit]
          split
          · exact resolve named
          · exact find named

section

variable {layer : Layer} {first : LayerOperation} (stacked : device.display.Stacked)
  (apart : a ≠ b) (found : device.display.layer? a = some layer)
  (own : first.alteration.setsCursor = false)

include stacked apart found own

theorem refusal?_alter (operation : LayerOperation) :
    operation.refusal? (device.alter a first).device b = operation.refusal? device b := by
  obtain ⟨order, count, altered⟩ := Display.turn_eq stacked found own
  apply refusal?_congr
  · simp only [alter, altered]
  · exact lookup_owners_other apart.symm first device.owners

theorem mem_ids_alter (there : b ∈ device.display.ids) :
    b ∈ (device.alter a first).device.display.ids := by
  obtain ⟨other, foundOther⟩ := Display.mem_ids_iff.mp there
  exact Display.mem_ids_iff.mpr
    ⟨other, (Display.layer?_altered stacked found apart own).trans foundOther⟩

theorem operate_alter (there : b ∈ device.display.ids) (operation : LayerOperation) :
    (device.alter a first).device.operate b operation
      = match operation.refusal? device b with
        | some cause => { result := .error cause, device := (device.alter a first).device }
        | none => (device.alter a first).device.alter b operation := by
  rw [operate_eq (mem_ids_alter stacked apart found own there),
    refusal?_alter stacked apart found own]

end

theorem alter_comm (stacked : device.display.Stacked) (counted : device.display.Counted)
    {layerA layerB : Layer} (foundA : device.display.layer? a = some layerA)
    (foundB : device.display.layer? b = some layerB) (apart : a ≠ b)
    {first second : LayerOperation} (ownA : first.alteration.setsCursor = false)
    (ownB : second.alteration.setsCursor = false) :
    ((device.alter a first).device.alter b second).told = (device.alter b second).told
      ∧ ((device.alter a first).device.alter b second).device
        = ((device.alter b second).device.alter a first).device := by
  obtain ⟨told, same⟩ := Display.turn_comm stacked counted foundA foundB apart ownA ownB
  have owners : second.owners b (first.owners a device.owners)
      = first.owners a (second.owners b device.owners) := by
    cases first with
    | edit access change => rfl
    | destroy id =>
        cases second with
        | edit access change => rfl
        | destroy other => exact List.filter_comm _ _ _
  constructor
  · simp only [alter, Reply.told, told]
  · simp only [alter, same, owners]

theorem commutes_of_counted (stacked : device.display.Stacked)
    (counted : device.display.Counted) (thereA : a ∈ device.display.ids)
    (thereB : b ∈ device.display.ids) (apart : a ≠ b) {first second : LayerOperation}
    (ownA : first.alteration.setsCursor = false)
    (ownB : second.alteration.setsCursor = false) :
    device.Commutes a first b second := by
  obtain ⟨layerA, foundA⟩ := Display.mem_ids_iff.mp thereA
  obtain ⟨layerB, foundB⟩ := Display.mem_ids_iff.mp thereB
  have endA := operate_eq thereA first
  have endB := operate_eq thereB second
  have endAB := operate_alter stacked apart foundA ownA thereB second
  have endBA := operate_alter stacked apart.symm foundB ownB thereA first
  -- where one of them is refused, it is refused in either order, and the other one acts alone
  have outcome : ((device.operate b second).device.operate a first).told
        = (device.operate a first).told
      ∧ ((device.operate a first).device.operate b second).told
        = (device.operate b second).told
      ∧ ((device.operate a first).device.operate b second).device
        = ((device.operate b second).device.operate a first).device := by
    cases refusedA : first.refusal? device a with
    | some causeA =>
        cases refusedB : second.refusal? device b with
        | some causeB =>
            rw [refusedA] at endA
            rw [refusedB] at endB
            simp only [endA, endB, and_self]
        | none =>
            rw [refusedA] at endA endBA
            rw [refusedB] at endB
            simp only [endA, endB, endBA, Reply.told, and_self]
    | none =>
        cases refusedB : second.refusal? device b with
        | some causeB =>
            rw [refusedA] at endA
            rw [refusedB] at endB endAB
            simp only [endA, endB, endAB, Reply.told, and_self]
        | none =>
            obtain ⟨latter, after⟩ := alter_comm stacked counted foundA foundB apart ownA ownB
            obtain ⟨former, -⟩ := alter_comm stacked counted foundB foundA apart.symm ownB ownA
            rw [refusedA] at endA endBA
            rw [refusedB] at endB endAB
            simp only [endA, endB, endAB, endBA]
            exact ⟨former, latter, after⟩
  obtain ⟨former, latter, after⟩ := outcome
  exact ⟨former, latter, after, congrArg (fun device => device.display.beginValidate) after⟩

end Device

namespace System

variable {σ : Type} {backend : Backend σ} {system : System σ}

/-- **Operations on two layers may change places**, unless one of them sets the position of a
cursor. -/
theorem commutes_run (opened : system.Opened backend) (actions : List Action) {a b : LayerId}
    (apart : a ≠ b) (thereA : a ∈ (system.run backend actions).device.display.ids)
    (thereB : b ∈ (system.run backend actions).device.display.ids)
    {first second : LayerOperation} (ownA : first.alteration.setsCursor = false)
    (ownB : second.alteration.setsCursor = false) :
    (system.run backend actions).device.Commutes a first b second :=
  Device.commutes_of_counted (sound_run (sound_of_opened opened) backend actions).stacked
    (counted_run opened actions) thereA thereB apart ownA ownB

/-- Two layers, one of which asks for a composition. -/
def oneDirtyRun : List Action :=
  [.createLayer ⟨1⟩, .createLayer ⟨1⟩, .call .display (.edit ⟨2⟩ (.composition .device))]

/-- One layer becomes dirty, and the other one, which was, is destroyed. -/
theorem commutes_run_destroyed :
    let device := ((onScript []).run .scripted oneDirtyRun).device
    let asks := LayerOperation.edit (.device ⟨1⟩) (.composition .client)
    let goes := LayerOperation.destroy ⟨1⟩
    (onScript []).Opened .scripted ∧ ⟨1⟩ ∈ device.display.ids ∧ ⟨2⟩ ∈ device.display.ids
      ∧ device.Commutes ⟨1⟩ asks ⟨2⟩ goes
      ∧ ((device.operate ⟨1⟩ asks).device.operate ⟨2⟩ goes).device.display.dirtyLayers = 1 := by
  intro device asks goes
  have opened : (onScript []).Opened .scripted := opened_onScript []
  have thereA : ⟨1⟩ ∈ device.display.ids := by decide +kernel
  have thereB : ⟨2⟩ ∈ device.display.ids := by decide +kernel
  have commutes : device.Commutes ⟨1⟩ asks ⟨2⟩ goes :=
    commutes_run opened oneDirtyRun (by decide) thereA thereB rfl rfl
  exact ⟨opened, thereA, thereB, commutes, by decide +kernel⟩

end System

end Scanout
