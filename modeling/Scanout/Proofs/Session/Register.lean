import Scanout.Proofs.Device.Register

/-!
# The register in the middle of a session

Callbacks and hooks run commands of their own while other commands are under way, down to any depth.
Whatever is on the machine's stack, its next step creates one layer, destroys one, or leaves the
register and the display's layers as they are (`registers_step`). So the device's register is in
step with its display whenever a command of a callback or a hook begins, and not only between the
commands of the session itself.

A display that the device does not know has a number of its own, so that no call straight to it
reaches the device's display.
-/

set_option autoImplicit false

namespace Scanout

namespace Session

/-! ## Ends of calls -/

/-- A session takes over the device and the notices, and tells its tracer the events. -/
theorem absorb_eq {answer : Type} (session : Session) (reply : Reply answer) :
    session.absorb reply = { session with
      device := reply.device
      notices := session.notices ++ reply.notices
      tracer := reply.events.foldl Tracer.report session.tracer } := by
  have traced : ∀ (events : List TraceEvent) (session : Session),
      events.foldl trace session
        = { session with tracer := events.foldl Tracer.report session.tracer } := by
    intro events
    induction events with
    | nil => exact fun _ => rfl
    | cons event rest ih => exact fun session => ih (session.trace event)
  exact traced reply.events _

theorem absorb_device {answer : Type} (session : Session) (reply : Reply answer) :
    (session.absorb reply).device = reply.device := by
  rw [absorb_eq]

/-- Keeping a fence concerns the names of fences and the table of the backend alone. -/
theorem keepFence_eq (session : Session) (save : Option String)
    (result : Except Error CallResult) :
    ∃ rig names signals, session.keepFence save result
      = { session with rig := rig, fenceNames := names, signals := signals } := by
  unfold keepFence
  split
  · split <;> exact ⟨_, _, _, rfl⟩
  · exact ⟨_, _, _, rfl⟩

theorem keepFence_device (session : Session) (save : Option String)
    (result : Except Error CallResult) :
    (session.keepFence save result).device = session.device := by
  obtain ⟨rig, names, signals, same⟩ := session.keepFence_eq save result
  rw [same]

theorem endCall_device (session : Session) (reply : Reply CallResult) (save : Option String) :
    (session.endCall reply save).1.device = reply.device :=
  (keepFence_device _ save reply.result).trans (session.absorb_device reply)

/-- Asking the backend may use a hook up, which is told. -/
theorem ask_eq (session : Session) (route : Route) (call : BackendCall) (question : Question)
    (save : Option String) :
    ∃ hooks events, (session.ask route call question save).1
      = { session with hooks := hooks, events := events } := by
  unfold ask takeHook
  dsimp only
  split
  · cases session.hooks.find? fun hook => hook.1 == hookPoint question <;> exact ⟨_, _, rfl⟩
  · exact ⟨_, _, rfl⟩

theorem ask_device (session : Session) (route : Route) (call : BackendCall) (question : Question)
    (save : Option String) : (session.ask route call question save).1.device = session.device := by
  obtain ⟨hooks, events, same⟩ := session.ask_eq route call question save
  rw [same]

/-- A display that is called straight is the device's or has another number. -/
theorem displayAt_direct {session : Session} {id : DisplayId} {display : Display}
    (found : session.displayAt (.direct id) = .ok display) :
    display = session.device.display ∨ session.device.display.id ≠ display.id := by
  simp only [displayAt] at found
  split at found
  · exact Or.inl (Except.ok.inj found).symm
  · rename_i other
    split at found
    · cases found
    · rename_i unknown
      obtain rfl := Except.ok.inj found
      have number := List.find?_some unknown
      exact Or.inr fun same => other (same.trans (by simpa using number))

theorem endDirect_device (session : Session) (outcome : Outcome CallResult)
    (save : Option String) :
    (session.endDirect outcome save).1.device
      = if session.device.display.id = outcome.display.id then
          session.device.withDisplay outcome.display
        else session.device := by
  refine (keepFence_device _ save outcome.result).trans ?_
  unfold absorbOutcome putDisplay
  split <;> rfl

/-- A display that is called straight is put back in its own place. -/
theorem kept_endDirect {session : Session} {id : DisplayId} {display : Display}
    (found : session.displayAt (.direct id) = .ok display) {outcome : Outcome CallResult}
    (retains : display.Retains outcome.display) (save : Option String) :
    session.device.Kept (session.endDirect outcome save).1.device := by
  rw [endDirect_device]
  split
  · rename_i here
    rcases displayAt_direct found with rfl | other
    · exact session.device.kept_withDisplay retains
    · exact absurd (here.trans retains.id) other
  · exact .refl session.device

theorem kept_makeCall (session : Session) (route : Route) (call : DisplayCall) :
    session.device.Kept (session.makeCall route call).1.device := by
  cases route with
  | device id =>
      simp only [makeCall, endCall_device]
      exact session.device.kept_call id call
  | direct id =>
      simp only [makeCall]
      cases found : session.displayAt (.direct id) with
      | error cause => exact .refl session.device
      | ok display => exact kept_endDirect found (display.retains_call call) none

theorem kept_startBackendCall (session : Session) (route : Route) (call : BackendCall)
    (save : Option String) :
    session.device.Kept (session.startBackendCall route call save).1.device := by
  cases route with
  | device id =>
      cases begun : session.device.begin id call with
      | inl reply =>
          have ended : session.device.beginAt (.device id) call = .inl reply.device := by
            simp only [Device.beginAt, begun]
          simp only [startBackendCall, begun, endCall_device]
          exact session.device.kept_beginAt ended
      | inr question =>
          simp only [startBackendCall, begun, ask_device]
          exact .refl session.device
  | direct id =>
      cases found : session.displayAt (.direct id) with
      | error cause =>
          simp only [startBackendCall, found]
          exact .refl session.device
      | ok display =>
          cases begun : display.begin call with
          | finished result notices =>
              have retains : display.Retains (Outcome.display ⟨result, display, notices⟩) :=
                .refl display
              simp only [startBackendCall, found, begun]
              exact kept_endDirect found retains save
          | asking question =>
              simp only [startBackendCall, found, begun, ask_device]
              exact .refl session.device

theorem kept_completeCall (session : Session) (route : Route) (call : BackendCall)
    (question : Question) (save : Option String) :
    session.device.Kept (session.completeCall route call question save).1.device := by
  cases route with
  | device id =>
      simp only [completeCall, endCall_device]
      exact session.device.kept_completeAt (session.backendAt (.device id)) (.device id) call
        question session.rig
  | direct id =>
      cases found : session.displayAt (.direct id) with
      | error cause =>
          simp only [completeCall, found]
          exact .refl session.device
      | ok display =>
          have retains := Display.retains_completed
            (display.completed_complete (session.backendAt (.direct id)) question session.rig)
          have foundLater (rig : Rig) :
              displayAt { session with rig := rig } (.direct id) = .ok display := found
          let rig := (display.complete (session.backendAt (.direct id)) question session.rig).2
          simp only [completeCall, found]
          exact kept_endDirect (foundLater rig) retains save

/-! ## Commands -/

variable {session : Session}

theorem registers_carryOut (inStep : session.device.InStep) (command : Command) :
    ∃ entries, session.device.Registers entries (session.carryOut command).1.device := by
  cases command with
  | createLayer display =>
      refine ⟨session.device.createdEntries display, ?_⟩
      simp only [carryOut, absorb_device]
      exact session.device.registers_createLayer display
  | destroyLayer display layer =>
      refine ⟨session.device.destroyedEntries display layer, ?_⟩
      simp only [carryOut, absorb_device]
      exact Device.registers_destroyLayer inStep display layer
  | enableVsync display on => exact ⟨[], .kept (session.device.kept_setVsyncEnabled display on)⟩
  | unregister kind => exact ⟨[], .kept (session.device.kept_uninstall kind)⟩
  | awaitTicks display count =>
      exact ⟨[], .kept ((session.device.kept_awaitTicks session.now _).trans
        (Device.kept_setVsyncEnabled _ display false))⟩
  | newDisplay shapes name require =>
      simp only [carryOut, addDisplay]
      split <;> exact ⟨[], .kept (.refl session.device)⟩
  | _ => exact ⟨[], .kept ⟨rfl, rfl, .refl _⟩⟩

theorem registers_start (inStep : session.device.InStep) (command : Command) :
    ∃ entries, session.device.Registers entries (session.start command).1.device := by
  cases command with
  | edit route layer edit => exact ⟨[], .kept (session.kept_makeCall route _)⟩
  | setBuffer route layer buffer fence => exact ⟨[], .kept (session.kept_makeCall route _)⟩
  | setClientTarget route buffer fence dataspace damage =>
      exact ⟨[], .kept (session.kept_makeCall route _)⟩
  | setOutputBuffer route buffer fence => exact ⟨[], .kept (session.kept_makeCall route _)⟩
  | acceptChanges route => exact ⟨[], .kept (session.kept_makeCall route _)⟩
  | setColorMode route mode => exact ⟨[], .kept (session.kept_makeCall route _)⟩
  | askBackend route call save => exact ⟨[], .kept (session.kept_startBackendCall route call save)⟩
  | tick deadline =>
      refine ⟨[], .kept ?_⟩
      simp only [start, startTick]
      cases arrived : session.device.arrive deadline with
      | mk callback device =>
          obtain rfl : (session.device.arrive deadline).2 = device := congrArg Prod.snd arrived
          cases callback <;> exact ⟨rfl, rfl, .refl _⟩
  | register kind label scripts descriptor =>
      refine ⟨[], .kept ?_⟩
      simp only [start]
      split
      · have installed := session.device.kept_install ⟨session.callbacks.length⟩ kind
        cases kind <;> exact installed
      · exact .refl session.device
  | requestRefresh display =>
      refine ⟨[], .kept ?_⟩
      simp only [start, startRefresh]
      split <;> exact .refl session.device
  | _ =>
      simp only [start]
      exact registers_carryOut inStep _

end Session

/-! ## The machine -/

namespace Machine

variable {machine : Machine}

/-- A step creates a layer, destroys one, or leaves the register and the layers as they are. -/
theorem registers_step (inStep : machine.session.device.InStep) :
    ∃ entries, machine.session.device.Registers entries machine.step.session.device := by
  obtain ⟨session, stack, answered⟩ := machine
  have still : session.device.Registers [] session.device := .kept (.refl session.device)
  cases stack with
  | nil => exact ⟨[], still⟩
  | cons task rest =>
      cases task with
      | commands listed =>
          cases listed with
          | nil => exact ⟨[], still⟩
          | cons command later => exact Session.registers_start inStep command
      | complete route call question save =>
          exact ⟨[], .kept (session.kept_completeCall route call question save)⟩
      | call callback news =>
          simp only [step, carryOut]
          split <;> exact ⟨[], still⟩
      | reportTick display deadline buffered => exact ⟨[], still⟩
      | flush callback =>
          simp only [step, carryOut]
          split <;> exact ⟨[], .kept ⟨rfl, rfl, .refl _⟩⟩
      | deliver callback deadlines => cases deadlines <;> exact ⟨[], still⟩
      | answer answer =>
          simp only [step, carryOut]
          split <;> exact ⟨[], still⟩

theorem registered_run {history : List LayerEntry}
    (registered : machine.session.device.Registered history) (fuel : Nat) :
    ∃ entries, (Machine.run fuel machine).session.device.Registered (history ++ entries) := by
  induction fuel generalizing machine history with
  | zero => exact ⟨[], by rwa [List.append_nil]⟩
  | succ fuel ih =>
      simp only [Machine.run]
      split
      · exact ⟨[], by rwa [List.append_nil]⟩
      · obtain ⟨entries, registers⟩ := registers_step registered.inStep
        obtain ⟨later, registeredLater⟩ := ih (Device.registered_step registered registers)
        exact ⟨entries ++ later, by rwa [← List.append_assoc]⟩

end Machine

/-! ## Sessions -/

namespace Session

/-- The machine that carries out a command of a session. -/
def begin (session : Session) (command : Command) : Machine :=
  let (started, tasks) := start { session with notices := [], events := [] } command
  { session := started, stack := tasks }

def afterAll (session : Session) : List Command → Session
  | [] => session
  | command :: rest => (session.perform command).2.afterAll rest

variable {session : Session} {history : List LayerEntry}

theorem registered_begin (registered : session.device.Registered history) (command : Command)
    (fuel : Nat) :
    ∃ entries, (Machine.run fuel (session.begin command)).session.device.Registered
      (history ++ entries) := by
  have inStep : Device.InStep (Session.device { session with notices := [], events := [] }) :=
    registered.inStep
  obtain ⟨entries, registers⟩ := registers_start inStep command
  have started : (session.begin command).session.device.Registered (history ++ entries) :=
    Device.registered_step registered registers
  obtain ⟨later, registeredLater⟩ := Machine.registered_run started fuel
  exact ⟨entries ++ later, by rwa [← List.append_assoc]⟩

theorem registered_afterAll (registered : session.device.Registered history)
    (commands : List Command) :
    ∃ entries, (session.afterAll commands).device.Registered (history ++ entries) := by
  induction commands generalizing session history with
  | nil => exact ⟨[], by rwa [List.append_nil]⟩
  | cons command rest ih =>
      obtain ⟨entries, performed⟩ :=
        registered_begin registered command (command.weight + session.weight)
      obtain ⟨later, registeredLater⟩ := ih performed
      exact ⟨entries ++ later, by rwa [← List.append_assoc]⟩

/-- The device of a session and its backend, while no switch is under way. -/
def system (session : Session) : System Rig where
  device := session.device
  backend := session.rig

theorem system_of_openWith {settings : Settings} {shapes : List ConfigShape} {faults : Faults}
    {isMinimal : Bool} {now : HostTime} {notices : List Notice}
    (opened : openWith settings shapes faults isMinimal now = (.ok session, notices)) :
    session.system.Opened Backend.scripted.faulty ∧ session.callbacks = []
      ∧ session.hooks = [] := by
  simp only [openWith] at opened
  obtain ⟨result, _⟩ := Prod.mk.inj opened
  cases made : (Device.openOn Backend.scripted.faulty settings firstDisplay now
      { faults := faults, inner := { script := { configs := shapes } } }).1.1 with
  | error cause =>
      rw [made] at result
      cases result
  | ok device =>
      rw [made] at result
      rw [← Except.ok.inj result]
      exact ⟨⟨⟨settings, firstDisplay, now, _, _, _, Prod.ext (Prod.ext made rfl) rfl⟩, rfl⟩, rfl,
        rfl⟩

/-- At any point of any command of a session, the device's register has exactly the layers that the
device's display has. -/
theorem registered_during {settings : Settings} {shapes : List ConfigShape} {faults : Faults}
    {isMinimal : Bool} {now : HostTime} {notices : List Notice}
    (opened : openWith settings shapes faults isMinimal now = (.ok session, notices))
    (commands : List Command) (command : Command) (fuel : Nat) :
    let machine := Machine.run fuel ((session.afterAll commands).begin command)
    ∃ history, machine.session.device.Registered history := by
  have empty : session.device.Registered [] :=
    System.registered_of_opened (system_of_openWith opened).1
  obtain ⟨entries, registered⟩ := registered_afterAll empty commands
  obtain ⟨later, registeredLater⟩ := registered_begin registered command fuel
  exact ⟨_, registeredLater⟩

end Session

end Scanout
