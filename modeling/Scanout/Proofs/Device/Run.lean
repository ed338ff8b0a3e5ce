import Scanout.Device.Callbacks
import Scanout.Device.Calls
import Scanout.Proofs.Display.Turn

/-!
# Runs of a device

A run is a list of actions on an opened device: calls of the device, calls straight to its display,
and whatever its callbacks and its timer bring. A backend answers a prepare or a commit at once and
only looks at the display meanwhile. While it switches the configuration or the power mode it may
itself make calls, so such a switch waits in `System.waiting` until the backend `answer`s, and
switches may be nested.

Queries change nothing and are no actions. `System.turns` says what a run is for the display, and
`run_display` is the agreement of both.
-/

set_option autoImplicit false

namespace Scanout

open Vsync (CallbackId)

inductive Access where
  /-- Through the device, which is told the number of the display. -/
  | device (id : DisplayId)
  /-- Straight to the device's display. -/
  | display

/-- A switch that the backend has been asked for. -/
inductive Switch where
  | config (id : ConfigId) (index : Nat)
  | power (mode : PowerMode)

namespace Switch

def call : Switch → BackendCall
  | config id _ => .setActiveConfig id
  | power mode => .setPowerMode mode

def question : Switch → Question
  | config id index => .activeConfig id index
  | power mode => .powerMode mode

end Switch

inductive Action where
  | createLayer (id : DisplayId)
  | destroyLayer (id : DisplayId) (layer : LayerId)
  | call (access : Access) (call : DisplayCall)
  /-- A call that asks the backend. A switch is left waiting. -/
  | ask (access : Access) (call : BackendCall)
  /-- The backend answers to the latest switch that waits. -/
  | answer
  | setVsyncEnabled (id : DisplayId) (enabled : Bool)
  | install (callback : CallbackId) (kind : CallbackKind)
  | uninstall (kind : CallbackKind)
  | arrive (deadline : HostTime)
  | nextBatch (callback : CallbackId)
  | awaitTicks (now : HostTime) (count : Nat)
  | shutdown (fences : FenceTable)

/-- A device, the state of its backend, and the switches that wait for an answer, latest first. -/
structure System (σ : Type) where
  device : Device
  backend : σ
  waiting : List (Access × Switch) := []

namespace Device

/-- The device passes a call on to its display. -/
def admits (device : Device) : Access → DisplayCall → Bool
  | .display, _ => true
  | .device id, .edit layer edit => (device.resolveEdit id layer edit).isOk
  | .device id, _ => (device.find id).isOk

/-- A call reaches the device's display. -/
def reaches (device : Device) : Access → Bool
  | .display => true
  | .device id => (device.find id).isOk

def withDisplay (device : Device) (display : Display) : Device := { device with display := display }

/-- The first half of a call that asks the backend: the device after it, or a question. -/
def beginAt (device : Device) (access : Access) (call : BackendCall) : Device ⊕ Question :=
  match access with
  | .device id =>
    match device.begin id call with
    | .inl reply => .inl reply.device
    | .inr question => .inr question
  | .display =>
    match device.display.begin call with
    | .finished _ _ => .inl device
    | .asking question => .inr question

variable {σ : Type}

/-- The second half: the device after the backend has answered, and the backend. -/
def completeAt (device : Device) (backend : Backend σ) (access : Access) (call : BackendCall)
    (question : Question) (state : σ) : Device × σ :=
  match access with
  | .device id =>
    let (reply, after) := device.complete id backend call question state
    (reply.device, after)
  | .display =>
    let (outcome, after) := device.display.complete backend question state
    (device.withDisplay outcome.display, after)

end Device

namespace System

variable {σ : Type}

def withDevice (system : System σ) (device : Device) : System σ := { system with device := device }

def complete (backend : Backend σ) (system : System σ) (access : Access) (call : BackendCall)
    (question : Question) : System σ :=
  let (device, state) := system.device.completeAt backend access call question system.backend
  { system with device := device, backend := state }

/-- Asks the backend, or leaves a switch waiting. -/
def ask (backend : Backend σ) (system : System σ) (access : Access) (call : BackendCall) :
    System σ :=
  match system.device.beginAt access call with
  | .inl device => system.withDevice device
  | .inr (.prepare proposal) => system.complete backend access call (.prepare proposal)
  | .inr (.commit frame) => system.complete backend access call (.commit frame)
  | .inr (.activeConfig id index) =>
    { system with waiting := (access, .config id index) :: system.waiting }
  | .inr (.powerMode mode) => { system with waiting := (access, .power mode) :: system.waiting }

def step (backend : Backend σ) (system : System σ) : Action → System σ
  | .createLayer id => system.withDevice (system.device.createLayer id).device
  | .destroyLayer id layer => system.withDevice (system.device.destroyLayer id layer).device
  | .call (.device id) call => system.withDevice (system.device.call id call).device
  | .call .display call =>
    system.withDevice (system.device.withDisplay (system.device.display.call call).2)
  | .ask access call => system.ask backend access call
  | .answer =>
    match system.waiting with
    | [] => system
    | (access, switch) :: rest =>
      complete backend { system with waiting := rest } access switch.call switch.question
  | .setVsyncEnabled id enabled => system.withDevice (system.device.setVsyncEnabled id enabled).2
  | .install callback kind => system.withDevice (system.device.install callback kind)
  | .uninstall kind => system.withDevice (system.device.uninstall kind)
  | .arrive deadline => system.withDevice (system.device.arrive deadline).2
  | .nextBatch callback => system.withDevice (system.device.nextBatch callback).2
  | .awaitTicks now count => system.withDevice (system.device.awaitTicks now count)
  | .shutdown fences => system.withDevice (system.device.shutdown fences).1

def run (backend : Backend σ) (system : System σ) : List Action → System σ
  | [] => system
  | action :: rest => run backend (system.step backend action) rest

/-- The turn that the backend's answer to a switch is. -/
def switchTurn (backend : Backend σ) (state : σ) : Switch → Turn
  | .config id index => .switchConfig id (backend.setActiveConfig index state).1
  | .power mode => .switchPower mode (backend.setPowerMode mode state).1

/-- What an action is for the display. -/
def turn (backend : Backend σ) (system : System σ) : Action → Turn
  | .createLayer id =>
    match (system.device.createLayer id).result with
    | .ok layer => .addLayer layer
    | .error _ => .idle
  | .destroyLayer id layer =>
    match system.device.resolveLayer id layer with
    | .ok _ => .removeLayer layer
    | .error _ => .idle
  | .call access call => if system.device.admits access call then .call call else .idle
  | .ask access .validate =>
    if system.device.reaches access then
      .validate fun frame => (backend.prepare frame system.backend).1
    else .idle
  | .ask access .present =>
    if system.device.reaches access then
      .present fun frame => (backend.commit frame system.backend).1
    else .idle
  | .answer =>
    match system.waiting with
    | [] => .idle
    | (_, switch) :: _ => switchTurn backend system.backend switch
  | _ => .idle

/-- What a run is for the display. -/
def turns (backend : Backend σ) (system : System σ) : List Action → List Turn
  | [] => []
  | action :: rest => system.turn backend action :: turns backend (system.step backend action) rest

end System

/-! ## What a device leaves to its display -/

namespace Device

theorem find_eq_ok {device : Device} {id : DisplayId} {display : Display}
    (found : device.find id = .ok display) : display = device.display := by
  unfold find at found
  split at found
  · exact (Except.ok.inj found).symm
  · cases found

theorem resolveLayer_eq_ok {device : Device} {id : DisplayId} {layer : LayerId}
    {display : Display} (resolved : device.resolveLayer id layer = .ok display) :
    display = device.display := by
  unfold resolveLayer at resolved
  cases found : device.find id with
  | error cause => simp [found] at resolved
  | ok other =>
      simp only [found] at resolved
      split at resolved
      · rw [← Except.ok.inj resolved]
        exact find_eq_ok found
      · cases resolved

theorem resolveEdit_eq_ok {device : Device} {id : DisplayId} {layer : LayerId} {edit : LayerEdit}
    {display : Display} (resolved : device.resolveEdit id layer edit = .ok display) :
    display = device.display := by
  unfold resolveEdit at resolved
  split at resolved
  · exact resolveLayer_eq_ok resolved
  · exact find_eq_ok resolved

theorem awaitTicks_device (device : Device) (now : HostTime) (count : Nat) :
    ∃ ticks timer, device.awaitTicks now count
      = { device with ticks := ticks, timer := timer } := by
  induction count generalizing device now with
  | zero => exact ⟨_, _, rfl⟩
  | succ count ih =>
      simp only [awaitTicks]
      split
      · exact ⟨_, _, rfl⟩
      · rename_i deadline timer _
        exact ih { (device.arrive deadline).2 with timer := timer } deadline

theorem awaitTicks_display (device : Device) (now : HostTime) (count : Nat) :
    (device.awaitTicks now count).display = device.display := by
  obtain ⟨ticks, timer, same⟩ := device.awaitTicks_device now count
  rw [same]

theorem editLayer_display (device : Device) (id : DisplayId) (layer : LayerId)
    (edit : LayerEdit) :
    (device.editLayer id layer edit).device.display
      = if (device.resolveEdit id layer edit).isOk then (device.display.edit layer edit).2
        else device.display := by
  unfold editLayer
  cases resolved : device.resolveEdit id layer edit with
  | error cause => rfl
  | ok display =>
      rw [resolveEdit_eq_ok resolved]
      cases edited : device.display.edit layer edit with
      | mk result after => cases result <;> simp [edited, Except.isOk, Except.toBool]

theorem call_display (device : Device) (id : DisplayId) (call : DisplayCall) :
    (device.call id call).device.display
      = if device.admits (.device id) call then (device.display.call call).2
        else device.display := by
  cases call with
  | edit layer edit =>
      simp only [Device.call, admits, Display.call]
      exact editLayer_display device id layer edit
  | _ =>
      simp only [Device.call, admits, find]
      by_cases here : device.display.id = id
      · simp only [here, if_true]
        split <;> rename_i made <;> simp [made, Except.isOk, Except.toBool]
      · simp [here, Except.isOk, Except.toBool]

theorem beginAt_of_not_reaches {device : Device} {access : Access}
    (lost : device.reaches access = false) (call : BackendCall) :
    device.beginAt access call = .inl device := by
  cases access with
  | device id =>
      simp only [reaches] at lost
      simp only [beginAt, begin]
      cases found : device.find id with
      | error cause => rfl
      | ok display => simp [found, Except.isOk, Except.toBool] at lost
  | display => simp [reaches] at lost

theorem beginAt_of_finished {device : Device} {access : Access} {call : BackendCall}
    {result : Except Error CallResult} {notices : List Notice}
    (reached : device.reaches access = true)
    (finished : device.display.begin call = .finished result notices) :
    ∃ after, device.beginAt access call = .inl after ∧ after.display = device.display := by
  cases access with
  | device id =>
      simp only [reaches] at reached
      cases found : device.find id with
      | error cause => simp [found, Except.isOk, Except.toBool] at reached
      | ok display =>
          rw [find_eq_ok found] at found
          refine ⟨(device.conclude id call ⟨result, device.display, notices⟩).device, ?_, ?_⟩
          · simp only [beginAt, begin, found, finished]
          · cases result <;> rfl
  | display => exact ⟨device, by simp only [beginAt, finished], rfl⟩

theorem beginAt_of_asking {device : Device} {access : Access} {call : BackendCall}
    {question : Question} (reached : device.reaches access = true)
    (asking : device.display.begin call = .asking question) :
    device.beginAt access call = .inr question := by
  cases access with
  | device id =>
      simp only [reaches] at reached
      cases found : device.find id with
      | error cause => simp [found, Except.isOk, Except.toBool] at reached
      | ok display =>
          rw [find_eq_ok found] at found
          simp only [beginAt, begin, found, asking]
  | display => simp only [beginAt, asking]

theorem completeAt_display {σ : Type} (device : Device) (backend : Backend σ) (access : Access)
    (call : BackendCall) (question : Question) (state : σ) :
    (device.completeAt backend access call question state).1.display
      = (device.display.complete backend question state).1.display := by
  cases access with
  | device id =>
      simp only [completeAt, Device.complete, conclude]
      split <;> rfl
  | display => rfl

/-- Nothing but the display and the timer has changed. -/
def Confined (device after : Device) : Prop :=
  ∃ display timer, after = { device with display := display, timer := timer }

theorem Confined.refl (device : Device) : device.Confined device := ⟨_, _, rfl⟩

theorem Confined.owners {device after : Device} (confined : device.Confined after) :
    after.owners = device.owners := by
  obtain ⟨display, timer, rfl⟩ := confined
  rfl

theorem Confined.layerNumbers {device after : Device} (confined : device.Confined after) :
    after.layerNumbers = device.layerNumbers := by
  obtain ⟨display, timer, rfl⟩ := confined
  rfl

theorem editLayer_device (device : Device) (id : DisplayId) (layer : LayerId)
    (edit : LayerEdit) :
    ∃ display, (device.editLayer id layer edit).device = device.withDisplay display := by
  unfold editLayer
  split
  · exact ⟨device.display, rfl⟩
  · split
    · exact ⟨_, rfl⟩
    · exact ⟨_, rfl⟩

theorem call_device (device : Device) (id : DisplayId) (call : DisplayCall) :
    ∃ display, (device.call id call).device = device.withDisplay display := by
  cases call with
  | edit layer edit => exact device.editLayer_device id layer edit
  | _ =>
      simp only [Device.call]
      split
      · exact ⟨device.display, rfl⟩
      · split
        · exact ⟨_, rfl⟩
        · exact ⟨_, rfl⟩

theorem confined_conclude (device : Device) (id : DisplayId) (call : BackendCall)
    (outcome : Outcome CallResult) : device.Confined (device.conclude id call outcome).device := by
  unfold conclude
  dsimp only
  split <;> exact ⟨_, _, rfl⟩

theorem confined_beginAt {device after : Device} {access : Access} {call : BackendCall}
    (begun : device.beginAt access call = .inl after) : device.Confined after := by
  cases access with
  | device id =>
      simp only [beginAt, begin] at begun
      cases found : device.find id with
      | error cause =>
          simp only [found, Sum.inl.injEq] at begun
          rw [← begun]
          exact .refl device
      | ok display =>
          cases ended : display.begin call with
          | finished result notices =>
              simp only [found, ended, Sum.inl.injEq] at begun
              rw [← begun]
              exact device.confined_conclude id call _
          | asking question => simp [found, ended] at begun
  | display =>
      simp only [beginAt] at begun
      split at begun
      · rw [← Sum.inl.inj begun]
        exact .refl device
      · cases begun

theorem confined_completeAt {σ : Type} (device : Device) (backend : Backend σ) (access : Access)
    (call : BackendCall) (question : Question) (state : σ) :
    device.Confined (device.completeAt backend access call question state).1 := by
  cases access with
  | device id => exact device.confined_conclude id call _
  | display => exact ⟨_, device.timer, rfl⟩

end Device

namespace System

variable {σ : Type}

theorem confined_complete (backend : Backend σ) (system : System σ) (access : Access)
    (call : BackendCall) (question : Question) :
    system.device.Confined (system.complete backend access call question).device :=
  system.device.confined_completeAt backend access call question system.backend

theorem confined_ask (backend : Backend σ) (system : System σ) (access : Access)
    (call : BackendCall) : system.device.Confined (system.ask backend access call).device := by
  unfold ask
  split
  · rename_i begun
    exact Device.confined_beginAt begun
  · exact system.confined_complete backend access call _
  · exact system.confined_complete backend access call _
  · exact .refl system.device
  · exact .refl system.device

theorem complete_display (backend : Backend σ) (system : System σ) (access : Access)
    (call : BackendCall) (question : Question) :
    (system.complete backend access call question).device.display
      = (system.device.display.complete backend question system.backend).1.display :=
  system.device.completeAt_display backend access call question system.backend

theorem ask_validate_display (backend : Backend σ) (system : System σ) (access : Access) :
    (system.ask backend access .validate).device.display
      = (system.device.display.turn (system.turn backend (.ask access .validate))).2 := by
  simp only [ask, turn]
  cases reached : system.device.reaches access with
  | false =>
      rw [Device.beginAt_of_not_reaches reached]
      rfl
  | true =>
      simp only [if_true, Display.turn, Display.validateWith]
      cases begun : system.device.display.beginValidate with
      | finished result notices =>
          have ended : system.device.display.begin .validate
              = .finished (result.map .summary) notices := by
            simp only [Display.begin, begun, Begun.map]
          obtain ⟨after, beginning, same⟩ := Device.beginAt_of_finished reached ended
          rw [beginning]
          exact same
      | asking proposal =>
          have asked : system.device.display.begin .validate = .asking (.prepare proposal) := by
            simp only [Display.begin, begun, Begun.map]
          rw [Device.beginAt_of_asking reached asked]
          exact complete_display backend system access .validate (.prepare proposal)

theorem ask_present_display (backend : Backend σ) (system : System σ) (access : Access) :
    (system.ask backend access .present).device.display
      = (system.device.display.turn (system.turn backend (.ask access .present))).2 := by
  simp only [ask, turn]
  cases reached : system.device.reaches access with
  | false =>
      rw [Device.beginAt_of_not_reaches reached]
      rfl
  | true =>
      simp only [if_true, Display.turn, Display.presentWith]
      cases begun : system.device.display.beginPresent with
      | finished result notices =>
          have ended : system.device.display.begin .present
              = .finished (result.map .fence) notices := by
            simp only [Display.begin, begun, Begun.map]
          obtain ⟨after, beginning, same⟩ := Device.beginAt_of_finished reached ended
          rw [beginning]
          exact same
      | asking frame =>
          have asked : system.device.display.begin .present = .asking (.commit frame) := by
            simp only [Display.begin, begun, Begun.map]
          rw [Device.beginAt_of_asking reached asked]
          exact complete_display backend system access .present (.commit frame)

/-- Asking for a frame is the whole call. -/
theorem ask_eq_run (backend : Backend σ) (system : System σ) (id : DisplayId)
    {call : BackendCall} (frames : call = .validate ∨ call = .present) :
    system.ask backend (.device id) call
      = { system with
          device := (system.device.run id backend call system.backend).1.device
          backend := (system.device.run id backend call system.backend).2 } := by
  simp only [ask, Device.beginAt, Device.run]
  cases begun : system.device.begin id call with
  | inl reply => rfl
  | inr question =>
      cases question with
      | prepare proposal => rfl
      | commit frame => rfl
      | _ =>
          exfalso
          simp only [Device.begin] at begun
          split at begun
          · cases begun
          · rename_i display found
            rcases frames with rfl | rfl
            · simp only [Display.begin] at begun
              cases first : display.beginValidate <;> simp [first, Begun.map] at begun
            · simp only [Display.begin] at begun
              cases first : display.beginPresent <;> simp [first, Begun.map] at begun

/-- A switch leaves the display alone until the backend answers. -/
theorem ask_switch_display (backend : Backend σ) (system : System σ) (access : Access)
    (switch : Switch) :
    (system.ask backend access switch.call).device.display = system.device.display := by
  simp only [ask]
  cases reached : system.device.reaches access with
  | false =>
      rw [Device.beginAt_of_not_reaches reached]
      rfl
  | true =>
      cases begun : system.device.display.begin switch.call with
      | finished result notices =>
          obtain ⟨after, beginning, same⟩ := Device.beginAt_of_finished reached begun
          rw [beginning]
          exact same
      | asking question =>
          rw [Device.beginAt_of_asking reached begun]
          cases switch with
          | config id index =>
              cases beginning : system.device.display.beginSetActiveConfig id with
              | finished result notices =>
                  simp [Switch.call, Display.begin, beginning, Begun.map] at begun
              | asking index' =>
                  simp only [Switch.call, Display.begin, beginning, Begun.map,
                    Begun.asking.injEq] at begun
                  rw [← begun]
          | power mode =>
              simp only [Switch.call, Display.begin, Begun.asking.injEq] at begun
              rw [← begun]

/-- The display after an action is the display after its turn. -/
theorem step_display (backend : Backend σ) (system : System σ) (action : Action) :
    (system.step backend action).device.display
      = (system.device.display.turn (system.turn backend action)).2 := by
  cases action with
  | createLayer id =>
      simp only [step, turn, withDevice, Device.createLayer]
      cases found : system.device.find id with
      | error cause => rfl
      | ok display =>
          rw [Device.find_eq_ok found]
          cases system.device.layerNumbers.allocate? <;> rfl
  | destroyLayer id layer =>
      simp only [step, turn, withDevice, Device.destroyLayer]
      cases resolved : system.device.resolveLayer id layer with
      | error cause => rfl
      | ok display =>
          rw [Device.resolveLayer_eq_ok resolved]
          simp only [Display.turn]
          split <;> rename_i removed <;> rw [removed]
  | call access call =>
      cases access with
      | device id =>
          simp only [step, turn, withDevice, Device.call_display]
          split <;> rfl
      | display => rfl
  | ask access call =>
      cases call with
      | validate => exact ask_validate_display backend system access
      | present => exact ask_present_display backend system access
      | setActiveConfig id => exact ask_switch_display backend system access (.config id 0)
      | setPowerMode mode => exact ask_switch_display backend system access (.power mode)
  | answer =>
      cases waits : system.waiting with
      | nil => simp only [step, turn, waits, Display.turn]
      | cons first rest =>
          obtain ⟨access, switch⟩ := first
          simp only [step, turn, waits, complete_display]
          cases switch <;> rfl
  | setVsyncEnabled id enabled =>
      simp only [step, turn, withDevice, Device.setVsyncEnabled]
      split <;> rfl
  | install callback kind => cases kind <;> rfl
  | uninstall kind => cases kind <;> rfl
  | arrive deadline => rfl
  | nextBatch callback => rfl
  | awaitTicks now count => exact system.device.awaitTicks_display now count
  | shutdown fences => rfl

theorem run_display (backend : Backend σ) (system : System σ) (actions : List Action) :
    (system.run backend actions).device.display
      = system.device.display.after (system.turns backend actions) := by
  induction actions generalizing system with
  | nil => rfl
  | cons action rest ih =>
      simp only [run, turns, Display.after]
      rw [ih, step_display]

/-! ## Runs one action longer -/

theorem run_append (backend : Backend σ) (system : System σ) (first later : List Action) :
    system.run backend (first ++ later) = (system.run backend first).run backend later := by
  induction first generalizing system with
  | nil => rfl
  | cons action rest ih => exact ih (system.step backend action)

theorem run_concat (backend : Backend σ) (system : System σ) (actions : List Action)
    (action : Action) :
    system.run backend (actions ++ [action])
      = (system.run backend actions).step backend action :=
  run_append backend system actions [action]

theorem run_concat_display (backend : Backend σ) (system : System σ) (actions : List Action)
    (action : Action) :
    (system.run backend (actions ++ [action])).device.display
      = ((system.run backend actions).device.display.turn
        ((system.run backend actions).turn backend action)).2 := by
  rw [run_concat]
  exact step_display backend (system.run backend actions) action

end System

end Scanout
