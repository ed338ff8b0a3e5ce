import Scanout.Proofs.Session.Nesting
import Scanout.Proofs.Session.Register
import Scanout.Proofs.Trace.Replica

/-!
# Replicas in the middle of a session

A session tells its tracer what the device reports as soon as a call has ended, while other calls
are still under way, and ticks in between. Every step of the machine is a short run of the device,
of which the tracer is told the journal (`Machine.happens_step`). So whatever callbacks and hooks
do, and however deep they are nested, the recording is a replica of the device's display at any
point of any command (`replicated_during`).
-/

set_option autoImplicit false

namespace Scanout

/-! ## What commands may do -/

namespace Command

/-- The commands that a command puts aside for later. -/
def inner : Command → List Command
  | register _ _ scripts _ => scripts.flatten
  | hook _ commands => commands
  | _ => []

/-- The command leaves the tracer's sink alone, and straight to a display it moves no layer and
presents no frame. -/
def KeepsToDevice : Command → Prop
  | traceTo _ => False
  | edit (.direct _) _ change => ∀ z, change ≠ .z z
  | askBackend (.direct _) call _ => call ≠ .present
  | _ => True

/-- So do all commands in it. -/
inductive Routed : Command → Prop where
  | intro {command : Command} (own : command.KeepsToDevice)
      (inner : ∀ later ∈ command.inner, Routed later) : Routed command

theorem Routed.own {command : Command} : command.Routed → command.KeepsToDevice
  | .intro own _ => own

theorem Routed.later {command : Command} : command.Routed → ∀ later ∈ command.inner, later.Routed
  | .intro _ inner => inner

end Command

def Task.Routed : Task → Prop
  | .commands listed => ∀ command ∈ listed, command.Routed
  | .complete (.direct _) _ question _ => ∀ frame, question ≠ .commit frame
  | _ => True

/-- All commands that the session holds back. -/
structure Session.Routed (session : Session) : Prop where
  callbacks : ∀ callback ∈ session.callbacks, ∀ script ∈ callback.scripts, ∀ command ∈ script,
    command.Routed
  hooks : ∀ hook ∈ session.hooks, ∀ command ∈ hook.2, command.Routed

structure Machine.Routed (machine : Machine) : Prop where
  session : machine.session.Routed
  stack : ∀ task ∈ machine.stack, task.Routed

/-! ## Calls that end at once -/

namespace System

variable {σ : Type} {id : DisplayId} {call : BackendCall} {reply : Reply CallResult}

theorem ask_of_begun (backend : Backend σ) (system : System σ)
    (begun : system.device.begin id call = .inl reply) :
    (system.ask backend (.device id) call).device = reply.device := by
  simp only [ask, Device.beginAt, begun]
  rfl

theorem reported_of_begun (backend : Backend σ) (system : System σ)
    (begun : system.device.begin id call = .inl reply) :
    system.reported backend (.here (.ask (.device id) call)) = reply.events := by
  cases call <;>
    simp only [reported, operation?, attempt, Device.runAt, Device.run, Device.endAt?, begun] <;>
    rfl

end System

namespace Session

/-! ## What the device and the tracer make of a step -/

/-- For the device a step is a short run, with some backend, and the tracer is told what the device
reports in it. Its text may be taken meanwhile. -/
inductive Happens (session after : Session) : Prop where
  | intro (backend : Backend Rig) (happenings : List Happening) (events : List TraceEvent)
      (routed : ∀ happening ∈ happenings, happening.Routed)
      (device : after.device = (session.system.through backend happenings).device)
      (reported : ∀ replica : Replica,
        replica.readAll events = replica.readAll (session.system.journal backend happenings))
      (sink : after.tracer.sink = (events.foldl Tracer.report session.tracer).sink)
      (recording : after.tracer.recording
        = (events.foldl Tracer.report session.tracer).recording)

/-- The recording is a replica of the display. -/
structure Replicated (session : Session) : Prop where
  sound : session.system.Sound
  records : session.tracer.sink = .record
  recorded : ∃ events, session.tracer.recording = TraceEvent.recording events
    ∧ session.device.display.Mirrored (Replica.ofEvents events)

variable {session after : Session}

theorem happens_nothing (device : after.device = session.device)
    (tracer : after.tracer = session.tracer) : session.Happens after :=
  .intro Backend.scripted.faulty [] [] (by simp) device (fun _ => rfl)
    (congrArg Tracer.sink tracer) (congrArg Tracer.recording tracer)

theorem happens_once (backend : Backend Rig) (happening : Happening) (routed : happening.Routed)
    (device : after.device = (session.system.meet backend happening).device)
    (told : after.tracer
      = (session.system.reported backend happening).foldl Tracer.report session.tracer) :
    session.Happens after :=
  .intro backend [happening] _ (by simpa using routed) device
    (fun _ => by rw [System.journal, System.journal, List.append_nil])
    (congrArg Tracer.sink told) (congrArg Tracer.recording told)

theorem replicated_happens (replicated : session.Replicated) (happens : session.Happens after) :
    after.Replicated := by
  obtain ⟨sound, records, past, before, mirrored⟩ := replicated
  obtain ⟨backend, happenings, events, routed, device, reported, sink, recording⟩ := happens
  have soundAfter := System.sound_through sound backend happenings
  have mirroredAfter := System.mirrored_through sound backend mirrored routed
  obtain ⟨stamped, recorded, same⟩ := Tracer.recording_foldl session.tracer records events
  refine ⟨?_, ?_, past ++ stamped, ?_, ?_⟩
  · obtain ⟨stacked, numbered⟩ := soundAfter
    rw [← device] at stacked numbered
    exact ⟨stacked, numbered⟩
  · rw [sink, Tracer.sink_foldl, records]
  · rw [recording, recorded, before]
    exact (List.flatMap_append).symm
  · rw [device, Replica.ofEvents, Replica.readAll_append]
    have kept : ∀ replica : Replica, replica.readAll stamped = replica.readAll events := by
      intro replica
      simp only [Replica.readAll, same]
    rw [kept, reported]
    exact mirroredAfter

/-! ## Ends of calls -/

theorem absorb_tracer {answer : Type} (session : Session) (reply : Reply answer) :
    (session.absorb reply).tracer = reply.events.foldl Tracer.report session.tracer := by
  rw [absorb_eq]

theorem keepFence_tracer (session : Session) (save : Option String)
    (result : Except Error CallResult) :
    (session.keepFence save result).tracer = session.tracer := by
  obtain ⟨rig, names, signals, same⟩ := session.keepFence_eq save result
  rw [same]

theorem endCall_tracer (session : Session) (reply : Reply CallResult) (save : Option String) :
    (session.endCall reply save).1.tracer = reply.events.foldl Tracer.report session.tracer :=
  (keepFence_tracer _ save reply.result).trans (session.absorb_tracer reply)

theorem ask_tracer (session : Session) (route : Route) (call : BackendCall) (question : Question)
    (save : Option String) : (session.ask route call question save).1.tracer = session.tracer := by
  obtain ⟨hooks, events, same⟩ := session.ask_eq route call question save
  rw [same]

theorem endDirect_tracer (session : Session) (outcome : Outcome CallResult)
    (save : Option String) : (session.endDirect outcome save).1.tracer = session.tracer := by
  refine (keepFence_tracer _ save outcome.result).trans ?_
  unfold absorbOutcome putDisplay
  split <;> rfl

/-- A call straight to a display happens to the device if the display is its own. -/
theorem happens_endDirect {id : DisplayId} {display : Display}
    (found : session.displayAt (.direct id) = .ok display) {outcome : Outcome CallResult}
    (retains : display.Retains outcome.display) (backend : Backend Rig) {happening : Happening}
    (routed : happening.Routed)
    (met : display = session.device.display →
      (session.system.meet backend happening).device = session.device.withDisplay outcome.display)
    (silent : session.system.reported backend happening = []) (later : Session)
    (device : later.device = session.device) (tracer : later.tracer = session.tracer)
    (save : Option String) : session.Happens (later.endDirect outcome save).1 := by
  have told : (later.endDirect outcome save).1.tracer = session.tracer :=
    (later.endDirect_tracer outcome save).trans tracer
  have ended := later.endDirect_device outcome save
  rw [device] at ended
  rcases displayAt_direct found with rfl | other
  · rw [if_pos retains.id.symm] at ended
    refine happens_once backend happening routed (ended.trans (met rfl).symm) ?_
    rw [silent, told]
    rfl
  · rw [if_neg (retains.id ▸ other)] at ended
    exact happens_nothing ended told

/-! ## Commands -/

theorem happens_makeCall (session : Session) {route : Route} {call : DisplayCall}
    (routed : ∀ id, route = .direct id → ∀ layer z, call ≠ .edit layer (.z z)) :
    session.Happens (session.makeCall route call).1 := by
  cases route with
  | device id =>
      exact happens_once Backend.scripted.faulty (.here (.call (.device id) call)) trivial
        (session.endCall_device _ none) (session.endCall_tracer _ none)
  | direct id =>
      simp only [makeCall]
      cases found : session.displayAt (.direct id) with
      | error cause => exact happens_nothing rfl rfl
      | ok display =>
          have own : (Happening.here (.call .display call)).Routed := routed id rfl
          refine happens_endDirect found (display.retains_call call) Backend.scripted.faulty own ?_
            rfl session rfl rfl none
          rintro rfl
          rfl

theorem happens_startBackendCall (session : Session) (route : Route) (call : BackendCall)
    (save : Option String) : session.Happens (session.startBackendCall route call save).1 := by
  cases route with
  | device id =>
      cases begun : session.device.begin id call with
      | inl reply =>
          simp only [startBackendCall, begun]
          refine happens_once Backend.scripted.faulty (.here (.ask (.device id) call)) trivial ?_ ?_
          · rw [endCall_device]
            exact (System.ask_of_begun _ session.system begun).symm
          · rw [endCall_tracer, System.reported_of_begun _ session.system begun]
      | inr question =>
          simp only [startBackendCall, begun]
          exact happens_nothing (session.ask_device _ call question save)
            (session.ask_tracer _ call question save)
  | direct id =>
      cases found : session.displayAt (.direct id) with
      | error cause =>
          simp only [startBackendCall, found]
          exact happens_nothing rfl rfl
      | ok display =>
          cases begun : display.begin call with
          | finished result notices =>
              simp only [startBackendCall, found, begun]
              refine happens_nothing ?_ (session.endDirect_tracer _ save)
              rw [endDirect_device]
              rcases displayAt_direct found with rfl | other
              · rw [if_pos rfl]
                rfl
              · rw [if_neg other]
          | asking question =>
              simp only [startBackendCall, found, begun]
              exact happens_nothing (session.ask_device _ call question save)
                (session.ask_tracer _ call question save)

theorem happens_completeCall (session : Session) {route : Route} (call : BackendCall)
    {question : Question}
    (routed : ∀ id, route = .direct id → ∀ frame, question ≠ .commit frame)
    (save : Option String) :
    session.Happens (session.completeCall route call question save).1 := by
  cases route with
  | device id =>
      exact happens_once (session.backendAt (.device id)) (.answered (.device id) call question)
        trivial (endCall_device _ _ save) (endCall_tracer _ _ save)
  | direct id =>
      simp only [completeCall]
      cases found : session.displayAt (.direct id) with
      | error cause => exact happens_nothing rfl rfl
      | ok display =>
          have retains := Display.retains_completed
            (display.completed_complete (session.backendAt (.direct id)) question session.rig)
          have own : (Happening.answered .display call question).Routed := routed id rfl
          let rig := (display.complete (session.backendAt (.direct id)) question session.rig).2
          refine happens_endDirect found retains (session.backendAt (.direct id)) own ?_ rfl
            { session with rig := rig } rfl rfl save
          rintro rfl
          rfl

theorem happens_carryOut (session : Session) {command : Command} (own : command.KeepsToDevice) :
    session.Happens (session.carryOut command).1 := by
  cases command with
  | createLayer display =>
      exact happens_once Backend.scripted.faulty (.here (.createLayer display)) trivial
        (session.absorb_device _) (session.absorb_tracer _)
  | destroyLayer display layer =>
      exact happens_once Backend.scripted.faulty (.here (.destroyLayer display layer)) trivial
        (session.absorb_device _) (session.absorb_tracer _)
  | enableVsync display on =>
      exact happens_once Backend.scripted.faulty (.here (.setVsyncEnabled display on)) trivial rfl
        rfl
  | unregister kind =>
      exact happens_once Backend.scripted.faulty (.here (.uninstall kind)) trivial rfl rfl
  | shutdown =>
      exact happens_once Backend.scripted.faulty (.here (.shutdown session.fenceTable)) trivial rfl
        rfl
  | awaitTicks display count =>
      let missing := count - session.device.ticks.pending.length
      exact .intro Backend.scripted.faulty
        [.here (.awaitTicks session.now missing), .here (.setVsyncEnabled display false)] []
        (by simp [Happening.Routed]) rfl (fun _ => rfl) rfl rfl
  | newDisplay shapes name require =>
      simp only [carryOut, addDisplay]
      split <;> exact happens_nothing rfl rfl
  | traceTo sink => exact absurd own id
  | takeText => exact .intro Backend.scripted.faulty [] [] (by simp) rfl (fun _ => rfl) rfl rfl
  | _ => exact happens_nothing rfl rfl

theorem happens_start (session : Session) {command : Command} (own : command.KeepsToDevice) :
    session.Happens (session.start command).1 := by
  cases command with
  | edit route layer edit =>
      refine session.happens_makeCall ?_
      rintro id rfl other z same
      obtain ⟨-, moved⟩ := DisplayCall.edit.inj same
      exact own z moved
  | setBuffer route layer buffer fence => exact session.happens_makeCall (by simp)
  | setClientTarget route buffer fence dataspace damage =>
      exact session.happens_makeCall (by simp)
  | setOutputBuffer route buffer fence => exact session.happens_makeCall (by simp)
  | acceptChanges route => exact session.happens_makeCall (by simp)
  | setColorMode route mode => exact session.happens_makeCall (by simp)
  | askBackend route call save => exact session.happens_startBackendCall route call save
  | tick deadline =>
      refine happens_once Backend.scripted.faulty (.here (.arrive deadline)) trivial ?_ ?_ <;>
        simp only [start, startTick] <;> split <;> rfl
  | register kind label scripts descriptor =>
      simp only [start]
      split
      · refine happens_once Backend.scripted.faulty
          (.here (.install ⟨session.callbacks.length⟩ kind)) trivial ?_ ?_ <;> cases kind <;> rfl
      · exact happens_nothing rfl rfl
  | requestRefresh display =>
      simp only [start, startRefresh]
      split <;> exact happens_nothing rfl rfl
  | _ => exact session.happens_carryOut own

end Session

namespace Machine

variable {machine : Machine}

/-- Every step of the machine is a short run of the device, of which the tracer is told. -/
theorem happens_step (routed : ∀ task ∈ machine.stack, task.Routed) :
    machine.session.Happens machine.step.session := by
  obtain ⟨session, stack, answered⟩ := machine
  cases stack with
  | nil => exact Session.happens_nothing rfl rfl
  | cons task rest =>
      have top : task.Routed := routed task List.mem_cons_self
      cases task with
      | commands listed =>
          cases listed with
          | nil => exact Session.happens_nothing rfl rfl
          | cons command later =>
              exact session.happens_start (top command List.mem_cons_self).own
      | complete route call question save =>
          refine session.happens_completeCall call ?_ save
          rintro id rfl
          exact top
      | call callback news =>
          simp only [step, carryOut]
          split <;> exact Session.happens_nothing rfl rfl
      | reportTick display deadline buffered =>
          exact .intro Backend.scripted.faulty [] [Device.tickEvent display deadline buffered]
            (by simp) rfl (fun _ => rfl) rfl rfl
      | flush callback =>
          refine Session.happens_once Backend.scripted.faulty (.here (.nextBatch callback)) trivial
            ?_ ?_ <;> simp only [step, carryOut] <;> split <;> rfl
      | deliver callback deadlines =>
          cases deadlines <;> exact Session.happens_nothing rfl rfl
      | answer answer =>
          simp only [step, carryOut]
          split <;> exact Session.happens_nothing rfl rfl

end Machine

/-! ## What is put aside -/

namespace Session

variable {session after : Session}

/-- A session and tasks in which all that is put aside is routed. -/
structure Leads (outcome : Session × List Task) : Prop where
  session : outcome.1.Routed
  tasks : ∀ task ∈ outcome.2, task.Routed

theorem Routed.of_eq (routed : session.Routed) (callbacks : after.callbacks = session.callbacks)
    (hooks : after.hooks = session.hooks) : after.Routed :=
  ⟨callbacks ▸ routed.callbacks, hooks ▸ routed.hooks⟩

theorem leads_answer {answer : Answer} (routed : after.Routed) :
    Leads (after, [.answer answer]) :=
  ⟨routed, by simp [Task.Routed]⟩

theorem routed_absorb {answer : Type} (routed : session.Routed) (reply : Reply answer) :
    (session.absorb reply).Routed := by
  rw [absorb_eq]
  exact routed.of_eq rfl rfl

theorem routed_keepFence (routed : session.Routed) (save : Option String)
    (result : Except Error CallResult) : (session.keepFence save result).Routed := by
  obtain ⟨rig, names, signals, same⟩ := session.keepFence_eq save result
  rw [same]
  exact routed.of_eq rfl rfl

theorem leads_endCall (routed : session.Routed) (reply : Reply CallResult)
    (save : Option String) : Leads (session.endCall reply save) :=
  leads_answer (routed_keepFence (routed_absorb routed reply) save reply.result)

theorem leads_endDirect (routed : session.Routed) (outcome : Outcome CallResult)
    (save : Option String) : Leads (session.endDirect outcome save) := by
  refine leads_answer (routed_keepFence ?_ save outcome.result)
  unfold absorbOutcome putDisplay
  split <;> exact routed.of_eq rfl rfl

theorem leads_ask (routed : session.Routed) {route : Route} {call : BackendCall}
    {question : Question} {save : Option String}
    (last : Task.Routed (.complete route call question save)) :
    Leads (session.ask route call question save) := by
  unfold ask
  dsimp only
  split
  · unfold takeHook
    cases found : session.hooks.find? fun hook => hook.1 == hookPoint question with
    | none => exact ⟨routed, by simpa using last⟩
    | some hook =>
        have first : Task.Routed (.commands hook.2) :=
          routed.hooks hook (List.mem_of_find?_eq_some found)
        refine ⟨⟨routed.callbacks, fun other member => ?_⟩, by simpa [first] using last⟩
        exact routed.hooks other (List.mem_of_mem_eraseP member)
  · exact ⟨routed, by simpa using last⟩

theorem leads_makeCall (routed : session.Routed) (route : Route) (call : DisplayCall) :
    Leads (session.makeCall route call) := by
  unfold makeCall
  cases route with
  | device id => exact leads_endCall routed _ none
  | direct id =>
      dsimp only
      split
      · exact leads_answer routed
      · exact leads_endDirect routed _ none

theorem leads_startBackendCall (routed : session.Routed) (route : Route) {call : BackendCall}
    (own : ∀ id, route = .direct id → call ≠ .present) (save : Option String) :
    Leads (session.startBackendCall route call save) := by
  unfold startBackendCall
  cases route with
  | device id =>
      dsimp only
      split
      · exact leads_endCall routed _ save
      · exact leads_ask routed trivial
  | direct id =>
      dsimp only
      split
      · exact leads_answer routed
      · split
        · exact leads_endDirect routed _ save
        · rename_i begun
          exact leads_ask routed (Display.ne_commit_of_begin (own id rfl) begun)

theorem leads_completeCall (routed : session.Routed) (route : Route) (call : BackendCall)
    (question : Question) (save : Option String) :
    Leads (session.completeCall route call question save) := by
  have onRig : ∀ rig, Routed { session with rig := rig } := fun _ => routed.of_eq rfl rfl
  unfold completeCall
  cases route with
  | device id => exact leads_endCall (onRig _) _ save
  | direct id =>
      dsimp only
      split
      · exact leads_answer routed
      · exact leads_endDirect (onRig _) _ save

theorem routed_carryOut (routed : session.Routed) {command : Command} (kept : command.Routed) :
    (session.carryOut command).1.Routed := by
  cases command with
  | createLayer display => exact routed_absorb routed _
  | destroyLayer display layer => exact routed_absorb routed _
  | newDisplay shapes name require =>
      simp only [carryOut, addDisplay]
      split <;> exact routed.of_eq rfl rfl
  | hook point commands =>
      refine ⟨routed.callbacks, fun hook member => ?_⟩
      rcases List.mem_append.mp member with old | new
      · exact routed.hooks hook old
      · obtain rfl := List.mem_singleton.mp new
        exact kept.later
  | _ => exact routed.of_eq rfl rfl

theorem leads_startRegister (routed : session.Routed) (kind : CallbackKind) (label : String)
    {scripts : List (List Command)}
    (kept : ∀ script ∈ scripts, ∀ command ∈ script, command.Routed) :
    Leads (session.startRegister kind label scripts) := by
  have callbacks : ∀ callback ∈ session.callbacks ++ [⟨label, scripts⟩],
      ∀ script ∈ callback.scripts, ∀ command ∈ script, command.Routed := by
    intro callback member
    rcases List.mem_append.mp member with old | new
    · exact routed.callbacks callback old
    · obtain rfl := List.mem_singleton.mp new
      exact kept
  unfold startRegister
  cases kind <;> exact ⟨⟨callbacks, routed.hooks⟩, by simp [Task.Routed]⟩

theorem leads_start (routed : session.Routed) {command : Command} (kept : command.Routed) :
    Leads (session.start command) := by
  cases command with
  | edit route layer edit => exact leads_makeCall routed route _
  | setBuffer route layer buffer fence => exact leads_makeCall routed route _
  | setClientTarget route buffer fence dataspace damage => exact leads_makeCall routed route _
  | setOutputBuffer route buffer fence => exact leads_makeCall routed route _
  | acceptChanges route => exact leads_makeCall routed route _
  | setColorMode route mode => exact leads_makeCall routed route _
  | askBackend route call save =>
      refine leads_startBackendCall routed route ?_ save
      rintro id rfl
      exact kept.own
  | tick deadline =>
      simp only [start, startTick]
      split <;> exact ⟨routed.of_eq rfl rfl, by simp [Task.Routed]⟩
  | register kind label scripts descriptor =>
      simp only [start]
      split
      · refine leads_startRegister routed kind label fun script member command there => ?_
        exact kept.later command (List.mem_flatten.mpr ⟨script, member, there⟩)
      · exact leads_answer routed
  | requestRefresh display =>
      simp only [start, startRefresh]
      split <;> exact ⟨routed, by simp [Task.Routed]⟩
  | _ => exact leads_answer (routed_carryOut routed kept)

end Session

/-! ## The machine -/

namespace Machine

variable {machine : Machine}

theorem routed_goOn {outcome : Session × List Task} {rest : List Task}
    (leads : Session.Leads outcome) (below : ∀ task ∈ rest, task.Routed) :
    (goOn outcome rest).Routed where
  session := leads.session
  stack := List.forall_mem_append.mpr ⟨leads.tasks, below⟩

theorem routed_step (routed : machine.Routed) : machine.step.Routed := by
  obtain ⟨session, stack, answered⟩ := machine
  obtain ⟨held, tasks⟩ := routed
  cases stack with
  | nil => exact ⟨held, tasks⟩
  | cons task rest =>
      obtain ⟨top, below⟩ := List.forall_mem_cons.mp tasks
      cases task with
      | commands listed =>
          cases listed with
          | nil => exact ⟨held, below⟩
          | cons command later =>
              obtain ⟨first, others⟩ := List.forall_mem_cons.mp top
              exact routed_goOn (Session.leads_start held first)
                (List.forall_mem_cons.mpr ⟨others, below⟩)
      | complete route call question save =>
          exact routed_goOn (Session.leads_completeCall held route call question save) below
      | call callback news =>
          simp only [step, carryOut]
          split
          · exact ⟨held, below⟩
          · obtain ⟨taken, left⟩ := Session.useScript_forall held.callbacks callback.number
            exact ⟨⟨left, held.hooks⟩, List.forall_mem_cons.mpr ⟨taken, below⟩⟩
      | reportTick display deadline buffered => exact ⟨held.of_eq rfl rfl, below⟩
      | flush callback =>
          simp only [step, carryOut]
          split
          · exact ⟨held.of_eq rfl rfl, below⟩
          · refine ⟨held.of_eq rfl rfl, ?_⟩
            simpa [Task.Routed] using below
      | deliver callback deadlines =>
          cases deadlines with
          | nil => exact ⟨held, below⟩
          | cons deadline later =>
              refine ⟨held, ?_⟩
              simpa [step, carryOut, Task.Routed] using below
      | answer answer =>
          simp only [step, carryOut]
          split
          · exact ⟨held, by simp⟩
          · exact ⟨held.of_eq rfl rfl, below⟩

theorem replicated_run (routed : machine.Routed) (replicated : machine.session.Replicated)
    (fuel : Nat) :
    (Machine.run fuel machine).Routed ∧ (Machine.run fuel machine).session.Replicated := by
  induction fuel generalizing machine with
  | zero => exact ⟨routed, replicated⟩
  | succ fuel ih =>
      simp only [Machine.run]
      split
      · exact ⟨routed, replicated⟩
      · exact ih (routed_step routed)
          (Session.replicated_happens replicated (happens_step routed.stack))

end Machine

/-! ## Sessions -/

namespace Session

variable {session : Session}

theorem replicated_begin (routed : session.Routed) (replicated : session.Replicated)
    {command : Command} (kept : command.Routed) (fuel : Nat) :
    (Machine.run fuel (session.begin command)).Routed
      ∧ (Machine.run fuel (session.begin command)).session.Replicated := by
  have cleared : Routed { session with notices := [], events := [] } := routed.of_eq rfl rfl
  have started : Replicated { session with notices := [], events := [] } :=
    ⟨replicated.sound, replicated.records, replicated.recorded⟩
  obtain ⟨held, tasks⟩ := leads_start cleared kept
  exact Machine.replicated_run ⟨held, tasks⟩
    (replicated_happens started (happens_start _ kept.own)) fuel

theorem replicated_afterAll (routed : session.Routed) (replicated : session.Replicated)
    {commands : List Command} (kept : ∀ command ∈ commands, command.Routed) :
    (session.afterAll commands).Routed ∧ (session.afterAll commands).Replicated := by
  induction commands generalizing session with
  | nil => exact ⟨routed, replicated⟩
  | cons command rest ih =>
      obtain ⟨first, later⟩ := List.forall_mem_cons.mp kept
      obtain ⟨ended, performed⟩ :=
        replicated_begin routed replicated first (command.weight + session.weight)
      exact ih ended.session performed later

/-- Installing a sink is over at once. -/
theorem perform_traceTo (session : Session) (sink : TraceSink) :
    (session.perform (.traceTo sink)).2
      = { session with
          tracer := session.tracer.install sink
          notices := []
          events := [] } := by
  have ended : ∀ (fuel : Nat) (later : Session) (answered : Option Answered),
      Machine.run fuel { session := later, stack := [], answered := answered }
        = { session := later, stack := [], answered := answered } := by
    intro fuel later answered
    cases fuel <;> rfl
  obtain ⟨fuel, enough⟩ : ∃ fuel, (Command.traceTo sink).weight + session.weight = fuel + 1 :=
    ⟨11 + session.weight, by simp only [Command.weight, Command.ownWeight]; omega⟩
  simp only [perform, enough]
  exact congrArg Machine.session (ended fuel _ _)

theorem replicatedBy_of_replicated (replicated : session.Replicated) :
    session.device.display.ReplicatedBy
      (Replica.ofEvents (Playback.events session.tracer.recording)) := by
  obtain ⟨events, recorded, mirrored⟩ := replicated.recorded
  rw [recorded, Playback.events_recording]
  exact Display.replicatedBy_of_mirrored replicated.sound.stacked mirrored

/-- **Whatever callbacks and hooks do, a recording is a replica of the display,** at any point of
any command of a session that starts to record as soon as it is opened. -/
theorem replicated_during {settings : Settings} {shapes : List ConfigShape} {faults : Faults}
    {isMinimal : Bool} {now : HostTime} {notices : List Notice}
    (opened : openWith settings shapes faults isMinimal now = (.ok session, notices))
    {commands : List Command} (kept : ∀ command ∈ commands, command.Routed) {command : Command}
    (last : command.Routed) (fuel : Nat) :
    let recording := (session.perform (.traceTo .record)).2
    let machine := Machine.run fuel ((recording.afterAll commands).begin command)
    machine.session.device.display.ReplicatedBy
      (Replica.ofEvents (Playback.events machine.session.tracer.recording)) := by
  obtain ⟨isOpen, callbacks, hooks⟩ := system_of_openWith opened
  have routed : session.Routed := ⟨by simp [callbacks], by simp [hooks]⟩
  have recording : (session.perform (.traceTo .record)).2.Routed
      ∧ (session.perform (.traceTo .record)).2.Replicated := by
    rw [perform_traceTo]
    have sound := System.sound_of_opened isOpen
    exact ⟨routed.of_eq rfl rfl, ⟨sound.stacked, sound.numbered⟩, rfl, [], rfl,
      System.mirrored_of_opened isOpen⟩
  obtain ⟨routedLater, replicated⟩ := replicated_afterAll recording.1 recording.2 kept
  exact replicatedBy_of_replicated (replicated_begin routedLater replicated last fuel).2

end Session

end Scanout
