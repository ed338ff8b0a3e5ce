import Scanout.Proofs.Device.Opened
import Scanout.Proofs.Display.Failure
import Scanout.Session.Machine
import Scanout.Vsync.Trial

/-!
# Operations that fail

An `Operation` is what a client can do with a device, or straight with its display, and be refused.
`System.attempt` says how it ends: why it failed, if it did, the device afterwards, and what the
device has reported. A call that asks the backend stands here as a whole and in its two halves,
since a switch may be under way while others are made.

An operation that fails leaves the device as it was, all that belongs to its display, its register,
its callbacks and its timer, and reports nothing (`unchanged_of_failure`).
-/

set_option autoImplicit false

namespace Scanout

open Vsync (CallbackId)

inductive Operation where
  /-- The client asks for the display, which is set up if there is none. -/
  | ensureDisplay
  | find (id : DisplayId)
  | resolveLayer (id : DisplayId) (layer : LayerId)
  | query (access : Access) (query : Query)
  | createLayer (id : DisplayId)
  | destroyLayer (id : DisplayId) (layer : LayerId)
  | call (access : Access) (call : DisplayCall)
  /-- A call that asks the backend, from its beginning to its end. -/
  | ask (access : Access) (call : BackendCall)
  | begin (access : Access) (call : BackendCall)
  /-- The second half of a call, whatever has happened since the first. -/
  | complete (access : Access) (call : BackendCall) (question : Question)
  | setVsyncEnabled (id : DisplayId) (enabled : Bool)
  /-- Registers a callback of this kind under a descriptor. -/
  | register (descriptor : Int32) (callback : CallbackId) (kind : CallbackKind)
  | requestRefresh (id : DisplayId)

def failure? {answer : Type} : Except Error answer → Option Error
  | .error cause => some cause
  | .ok _ => none

def Answer.failure? : Answer → Option Error
  | .failed cause => some cause
  | _ => none

/-- How an operation ends. -/
structure Ending where
  failure : Option Error
  device : Device
  events : List TraceEvent := []

def Reply.ending {answer : Type} (reply : Reply answer) : Ending where
  failure := failure? reply.result
  device := reply.device
  events := reply.events

namespace Device

/-- An operation that only looks at the device. -/
def looked {answer : Type} (device : Device) (result : Except Error answer) : Ending where
  failure := failure? result
  device := device

/-- The end of a call straight to the display, which the device does not report. -/
def settle (device : Device) (outcome : Outcome CallResult) : Reply CallResult where
  result := outcome.result
  device := device.withDisplay outcome.display
  notices := outcome.notices

def displayAt (device : Device) : Access → Except Error Display
  | .device id => device.find id
  | .display => .ok device.display

def callAt (device : Device) (access : Access) (call : DisplayCall) : Reply CallResult :=
  match access with
  | .device id => device.call id call
  | .display =>
    let (result, after) := device.display.call call
    device.settle ⟨result, after, []⟩

/-- The end of a call in its first half, unless the backend is asked. -/
def endAt? (device : Device) (access : Access) (call : BackendCall) :
    Option (Reply CallResult) :=
  match access with
  | .device id =>
    match device.begin id call with
    | .inl reply => some reply
    | .inr _ => none
  | .display =>
    match device.display.begin call with
    | .finished result notices => some (device.settle ⟨result, device.display, notices⟩)
    | .asking _ => none

def checkDescriptor (kind : CallbackKind) (descriptor : Int32) : Except Error Unit :=
  match CallbackKind.ofDescriptor descriptor with
  | .error cause => .error cause
  | .ok named => if named = kind then .ok () else .error .badParameter

/-- A session registers a callback exactly if its descriptor is right. -/
theorem descriptorFits_iff (kind : CallbackKind) (descriptor : Int32) :
    Session.descriptorFits kind (some descriptor) = true
      ↔ failure? (checkDescriptor kind descriptor) = none := by
  unfold checkDescriptor
  cases found : CallbackKind.ofDescriptor descriptor with
  | error cause => simp [Session.descriptorFits, found, failure?]
  | ok named =>
      by_cases same : named = kind <;> simp [Session.descriptorFits, found, failure?, same]

variable {σ : Type}

def replyAt (device : Device) (backend : Backend σ) (access : Access) (call : BackendCall)
    (question : Question) (state : σ) : Reply CallResult :=
  match access with
  | .device id => (device.complete id backend call question state).1
  | .display => device.settle (device.display.complete backend question state).1

def runAt (device : Device) (backend : Backend σ) (access : Access) (call : BackendCall)
    (state : σ) : Reply CallResult :=
  match access with
  | .device id => (device.run id backend call state).1
  | .display => device.settle (device.display.run backend call state).1

end Device

namespace System

variable {σ : Type}

def attempt (backend : Backend σ) (system : System σ) : Operation → Ending
  | .ensureDisplay =>
    let own := system.device.display
    system.device.looked
      (Device.ensureDisplay system.device.settings own.id (some own) backend system.backend).1.1
  | .find id => system.device.looked (system.device.find id)
  | .resolveLayer id layer => system.device.looked (system.device.resolveLayer id layer)
  | .query access query =>
    match system.device.displayAt access with
    | .error cause => { failure := some cause, device := system.device }
    | .ok display =>
      { failure := (Answer.ofQuery display query).failure?, device := system.device }
  | .createLayer id => (system.device.createLayer id).ending
  | .destroyLayer id layer => (system.device.destroyLayer id layer).ending
  | .call access call => (system.device.callAt access call).ending
  | .ask access call => (system.device.runAt backend access call system.backend).ending
  | .begin access call =>
    match system.device.endAt? access call with
    | none => { failure := none, device := system.device }
    | some reply => reply.ending
  | .complete access call question =>
    (system.device.replyAt backend access call question system.backend).ending
  | .setVsyncEnabled id enabled =>
    let (result, after) := system.device.setVsyncEnabled id enabled
    { failure := failure? result, device := after }
  | .register descriptor callback kind =>
    match Device.checkDescriptor kind descriptor with
    | .error cause => { failure := some cause, device := system.device }
    | .ok _ => { failure := none, device := system.device.install callback kind }
  | .requestRefresh id => system.device.looked (system.device.refreshCallback id)

/-- The operation that an action is, unless it cannot fail. -/
def operation? (system : System σ) : Action → Option Operation
  | .createLayer id => some (.createLayer id)
  | .destroyLayer id layer => some (.destroyLayer id layer)
  | .call access call => some (.call access call)
  | .ask access .validate => some (.ask access .validate)
  | .ask access .present => some (.ask access .present)
  | .ask access call => some (.begin access call)
  | .answer =>
    match system.waiting with
    | [] => none
    | (access, switch) :: _ => some (.complete access switch.call switch.question)
  | .setVsyncEnabled id enabled => some (.setVsyncEnabled id enabled)
  | _ => none

end System

/-! ## Actions and operations -/

namespace System

variable {σ : Type}

theorem ask_frame_device (backend : Backend σ) (system : System σ) (access : Access)
    {call : BackendCall} (frames : call = .validate ∨ call = .present) :
    (system.ask backend access call).device
      = (system.device.runAt backend access call system.backend).device := by
  cases access with
  | device id =>
      rw [ask_eq_run backend system id frames]
      rfl
  | display =>
      rcases frames with rfl | rfl
      · simp only [ask, Device.beginAt, Device.runAt, Display.run, Display.begin]
        cases system.device.display.beginValidate <;> rfl
      · simp only [ask, Device.beginAt, Device.runAt, Display.run, Display.begin]
        cases system.device.display.beginPresent <;> rfl

theorem begin_switch (display : Display) (switch : Switch) :
    (∃ result notices, display.begin switch.call = .finished result notices)
      ∨ ∃ asked : Switch, display.begin switch.call = .asking asked.question := by
  cases switch with
  | config id index =>
      simp only [Switch.call, Display.begin]
      cases display.beginSetActiveConfig id with
      | finished result notices => exact Or.inl ⟨_, _, rfl⟩
      | asking index => exact Or.inr ⟨.config id index, rfl⟩
  | power mode => exact Or.inr ⟨.power mode, rfl⟩

theorem ask_switch_device (backend : Backend σ) (system : System σ) (access : Access)
    (switch : Switch) :
    (system.ask backend access switch.call).device
      = (system.attempt backend (.begin access switch.call)).device := by
  cases access with
  | device id =>
      simp only [ask, Device.beginAt, attempt, Device.endAt?, Device.begin]
      cases system.device.find id with
      | error cause => rfl
      | ok display =>
          rcases begin_switch display switch with ⟨result, notices, begun⟩ | ⟨asked, begun⟩
          · simp only [begun]
            rfl
          · simp only [begun]
            cases asked <;> rfl
  | display =>
      simp only [ask, Device.beginAt, attempt, Device.endAt?]
      rcases begin_switch system.device.display switch
        with ⟨result, notices, begun⟩ | ⟨asked, begun⟩
      · simp only [begun]
        rfl
      · simp only [begun]
        cases asked <;> rfl

/-- What an action does to the device is how its operation ends. -/
theorem step_device (backend : Backend σ) (system : System σ) {action : Action}
    {operation : Operation} (named : system.operation? action = some operation) :
    (system.step backend action).device = (system.attempt backend operation).device := by
  cases action with
  | createLayer id => cases named; rfl
  | destroyLayer id layer => cases named; rfl
  | call access call => cases named; cases access <;> rfl
  | ask access call =>
      cases call with
      | validate => cases named; exact ask_frame_device backend system access (Or.inl rfl)
      | present => cases named; exact ask_frame_device backend system access (Or.inr rfl)
      | setActiveConfig id =>
          cases named
          exact ask_switch_device backend system access (.config id 0)
      | setPowerMode mode =>
          cases named
          exact ask_switch_device backend system access (.power mode)
  | answer =>
      cases waits : system.waiting with
      | nil => simp [operation?, waits] at named
      | cons first rest =>
          obtain ⟨access, switch⟩ := first
          simp only [operation?, waits, Option.some.injEq] at named
          simp only [step, waits, ← named]
          cases access <;> rfl
  | setVsyncEnabled id enabled => cases named; rfl
  | _ => cases named

end System

/-! ## Replies -/

namespace Device

variable {answer : Type} {device : Device}

/-- If the call has failed, the device is as it was and has reported nothing. -/
def Spares (device : Device) (reply : Reply answer) : Prop :=
  ∀ cause, reply.result = .error cause → reply.device = device ∧ reply.events = []

theorem spares_refused (device : Device) (cause : Error) (notices : List Notice) :
    device.Spares
      ({ result := .error cause, device := device, notices := notices } : Reply answer) :=
  fun _ _ => ⟨rfl, rfl⟩

theorem spares_done {reply : Reply answer} {value : answer} (done : reply.result = .ok value) :
    device.Spares reply := by
  intro cause failed
  rw [done] at failed
  cases failed

theorem spares_createLayer (device : Device) (id : DisplayId) :
    device.Spares (device.createLayer id) := by
  unfold createLayer
  split
  · exact device.spares_refused _ _
  · split
    · exact device.spares_refused _ _
    · exact spares_done rfl

theorem spares_destroyLayer (device : Device) (id : DisplayId) (layer : LayerId) :
    device.Spares (device.destroyLayer id layer) := by
  unfold destroyLayer
  cases resolved : device.resolveLayer id layer with
  | error cause => exact device.spares_refused _ _
  | ok display =>
      obtain rfl := resolveLayer_eq_ok resolved
      have spared := device.display.spares_removeLayer layer
      cases removed : device.display.removeLayer layer with
      | mk result after =>
          rw [removed] at spared
          cases result with
          | error cause =>
              obtain rfl : after = device.display := spared cause rfl
              simp only [removed]
              exact device.spares_refused _ _
          | ok value =>
              simp only [removed]
              exact spares_done rfl

theorem spares_editLayer (stacked : device.display.Stacked) (id : DisplayId) (layer : LayerId)
    (edit : LayerEdit) : device.Spares (device.editLayer id layer edit) := by
  unfold editLayer
  cases resolved : device.resolveEdit id layer edit with
  | error cause => exact device.spares_refused _ _
  | ok display =>
      obtain rfl := resolveEdit_eq_ok resolved
      have spared : device.display.Spares (device.display.edit layer edit) :=
        Display.spares_edit (fun _ found => stacked.held found) edit
      cases edited : device.display.edit layer edit with
      | mk result after =>
          rw [edited] at spared
          cases result with
          | error cause =>
              obtain rfl : after = device.display := spared cause rfl
              simp only [edited]
              exact device.spares_refused _ _
          | ok value =>
              simp only [edited]
              exact spares_done rfl

theorem spares_call (stacked : device.display.Stacked) (id : DisplayId) (call : DisplayCall) :
    device.Spares (device.call id call) := by
  cases call with
  | edit layer edit => exact spares_editLayer stacked id layer edit
  | _ =>
      simp only [Device.call]
      cases found : device.find id with
      | error cause => exact device.spares_refused _ _
      | ok display =>
          obtain rfl := find_eq_ok found
          dsimp only
          split
          · rename_i cause after made
            have same : after = device.display := by
              have spared := Display.spares_call stacked _ cause (congrArg Prod.fst made)
              rwa [made] at spared
            rw [same]
            exact device.spares_refused _ _
          · exact spares_done rfl

theorem spares_conclude (id : DisplayId) (call : BackendCall) {outcome : Outcome CallResult}
    (spared : device.display.Spares (outcome.result, outcome.display)) :
    device.Spares (device.conclude id call outcome) := by
  obtain ⟨result, display, notices⟩ := outcome
  cases result with
  | error cause =>
      obtain rfl : display = device.display := spared cause rfl
      exact device.spares_refused _ _
  | ok value => exact spares_done rfl

theorem spares_settle {outcome : Outcome CallResult}
    (spared : device.display.Spares (outcome.result, outcome.display)) :
    device.Spares (device.settle outcome) := by
  obtain ⟨result, display, notices⟩ := outcome
  cases result with
  | error cause =>
      obtain rfl : display = device.display := spared cause rfl
      exact device.spares_refused _ _
  | ok value => exact spares_done rfl

theorem spares_begin (device : Device) (id : DisplayId) (call : BackendCall)
    {reply : Reply CallResult} (begun : device.begin id call = .inl reply) :
    device.Spares reply := by
  unfold begin at begun
  cases found : device.find id with
  | error cause =>
      simp only [found, Sum.inl.injEq] at begun
      rw [← begun]
      exact device.spares_refused _ _
  | ok display =>
      obtain rfl := find_eq_ok found
      cases first : device.display.begin call with
      | finished result notices =>
          simp only [found, first, Sum.inl.injEq] at begun
          rw [← begun]
          exact spares_conclude id call (Display.spares_self result)
      | asking question => simp [found, first] at begun

theorem spares_callAt (stacked : device.display.Stacked) (access : Access) (call : DisplayCall) :
    device.Spares (device.callAt access call) := by
  cases access with
  | device id => exact spares_call stacked id call
  | display => exact spares_settle (Display.spares_call stacked call)

theorem spares_endAt {access : Access} {call : BackendCall} {reply : Reply CallResult}
    (ended : device.endAt? access call = some reply) : device.Spares reply := by
  unfold endAt? at ended
  split at ended
  · split at ended
    · rename_i begun
      obtain rfl := Option.some.inj ended
      exact device.spares_begin _ call begun
    · cases ended
  · split at ended
    · obtain rfl := Option.some.inj ended
      exact spares_settle (Display.spares_self _)
    · cases ended

variable {σ : Type}

theorem spares_replyAt (device : Device) (backend : Backend σ) (access : Access)
    (call : BackendCall) (question : Question) (state : σ) :
    device.Spares (device.replyAt backend access call question state) := by
  have spared := device.display.spares_complete backend question state
  cases access with
  | device id => exact spares_conclude id call spared
  | display => exact spares_settle spared

theorem spares_runAt (device : Device) (backend : Backend σ) (access : Access)
    (call : BackendCall) (state : σ) :
    device.Spares (device.runAt backend access call state) := by
  cases access with
  | device id =>
      simp only [runAt, Device.run]
      split
      · rename_i begun
        exact device.spares_begin id call begun
      · exact spares_conclude id call (device.display.spares_complete backend _ state)
  | display => exact spares_settle (device.display.spares_run backend call state)

end Device

/-! ## Endings -/

/-- If the operation has failed, the device is as it was and has reported nothing. -/
def Ending.Spares (ending : Ending) (device : Device) : Prop :=
  ∀ cause, ending.failure = some cause → ending.device = device ∧ ending.events = []

theorem Device.Spares.ending {answer : Type} {device : Device} {reply : Reply answer}
    (spares : device.Spares reply) : reply.ending.Spares device := by
  intro cause failed
  refine spares cause ?_
  cases outcome : reply.result with
  | error earlier => simpa [Reply.ending, outcome, failure?] using failed
  | ok value => simp [Reply.ending, outcome, failure?] at failed

namespace System

variable {σ : Type}

/-- An operation of a device whose display's stack is in order. -/
theorem attempt_spares {system : System σ} (stacked : system.device.display.Stacked)
    (backend : Backend σ) (operation : Operation) :
    (system.attempt backend operation).Spares system.device := by
  have unchanged : ∀ failure : Option Error,
      Ending.Spares { failure := failure, device := system.device } system.device :=
    fun _ _ _ => ⟨rfl, rfl⟩
  cases operation with
  | ensureDisplay => exact unchanged _
  | find id => exact unchanged _
  | resolveLayer id layer => exact unchanged _
  | query access query =>
      simp only [attempt]
      split <;> exact unchanged _
  | createLayer id => exact (system.device.spares_createLayer id).ending
  | destroyLayer id layer => exact (system.device.spares_destroyLayer id layer).ending
  | call access call => exact (Device.spares_callAt stacked access call).ending
  | ask access call =>
      exact (system.device.spares_runAt backend access call system.backend).ending
  | begin access call =>
      simp only [attempt]
      split
      · exact unchanged none
      · rename_i ended
        exact (Device.spares_endAt ended).ending
  | complete access call question =>
      exact (system.device.spares_replyAt backend access call question system.backend).ending
  | setVsyncEnabled id enabled =>
      simp only [attempt, Device.setVsyncEnabled]
      split
      · exact unchanged _
      · intro cause failed
        cases failed
  | register descriptor callback kind =>
      simp only [attempt]
      split
      · exact unchanged _
      · intro cause failed
        cases failed
  | requestRefresh id => exact unchanged _

/-- A device on a backend that hands out one release fence too few. -/
def onShortScript : System Stage :=
  { onScript [] with backend := {
      script := { configs := [.standard 1920 1080], shortRelease := true } } }

/-- A frame with a layer of the client is ready to be presented. -/
def readyRun : List Action :=
  [.createLayer ⟨1⟩, .call (.device ⟨1⟩) (.edit ⟨1⟩ (.composition .client)),
    .ask (.device ⟨1⟩) .validate, .call .display (.clientTarget (some ⟨9⟩) .noop .unknown [])]

end System

end Scanout
