import Scanout.Session.State

/-!
# The session machine

Callbacks and hooks run commands in the middle of others. The machine keeps what is still to do on a
stack of tasks: `Session.start` turns a command into a change of the session and the tasks that
follow from it, `Machine.step` carries out the task on top. A command ends with its `answer` task;
when nothing lies below it, it is the answer of the whole step.

Every step lowers the weight of all that is left to do, and `Session.perform` runs that many steps.
-/

set_option autoImplicit false

namespace Scanout

open Vsync (CallbackId)

inductive Task where
  /-- Runs commands, each of which is told as a nested one. -/
  | commands (commands : List Command)
  /-- Asks the backend and completes the call. -/
  | complete (route : Route) (call : BackendCall) (question : Question) (save : Option String)
  | call (callback : CallbackId) (news : CallbackNews)
  | reportTick (display : DisplayId) (deadline : HostTime) (buffered : Bool)
  /-- Gives a callback the buffered ticks. -/
  | flush (callback : CallbackId)
  /-- Gives a callback the rest of a batch of ticks. -/
  | deliver (callback : CallbackId) (deadlines : List HostTime)
  | answer (answer : Answer)

namespace Session

def hookPoint : Question → HookPoint
  | .prepare _ => .prepare
  | .commit _ => .commit
  | .activeConfig _ _ => .activeConfig
  | .powerMode _ => .powerMode

/-- The backend on this route takes calls of this kind itself. -/
def isHooked (session : Session) (route : Route) : HookPoint → Bool
  | .prepare => true
  | .commit => true
  | .activeConfig => !session.isMinimalAt route
  | .powerMode => !session.isMinimalAt route

/-- Runs the hook that waits for a question, and then asks it. -/
def ask (session : Session) (route : Route) (call : BackendCall) (question : Question)
    (save : Option String) : Session × List Task :=
  let point := hookPoint question
  let last := [Task.complete route call question save]
  if session.isHooked route point then
    match session.takeHook point with
    | (none, after) => (after, last)
    | (some commands, after) => (after.log (.hooked point), .commands commands :: last)
  else (session, last)

def keepFence (session : Session) (save : Option String) : Except Error CallResult → Session
  | .ok (.fence fence) =>
    match save with
    | none => session
    | some name => session.withNamed (session.named.put name fence)
  | _ => session

def endCall (session : Session) (reply : Reply CallResult) (save : Option String) :
    Session × List Task :=
  ((session.absorb reply).keepFence save reply.result,
    [.answer (.ofResult .ofCall reply.result)])

def endDirect (session : Session) (outcome : Outcome CallResult) (save : Option String) :
    Session × List Task :=
  ((session.absorbOutcome outcome).keepFence save outcome.result,
    [.answer (.ofResult .ofCall outcome.result)])

def startBackendCall (session : Session) (route : Route) (call : BackendCall)
    (save : Option String) : Session × List Task :=
  match route with
  | .device id =>
    match session.device.begin id call with
    | .inl reply => session.endCall reply save
    | .inr question => session.ask route call question save
  | .direct _ =>
    match session.displayAt route with
    | .error cause => (session, [.answer (.failed cause)])
    | .ok display =>
      match display.begin call with
      | .finished result notices => session.endDirect ⟨result, display, notices⟩ save
      | .asking question => session.ask route call question save

def completeCall (session : Session) (route : Route) (call : BackendCall) (question : Question)
    (save : Option String) : Session × List Task :=
  match route with
  | .device id =>
    let (reply, rig) :=
      session.device.complete id (session.backendAt route) call question session.rig
    endCall { session with rig := rig } reply save
  | .direct _ =>
    match session.displayAt route with
    | .error cause => (session, [.answer (.failed cause)])
    | .ok display =>
      let (outcome, rig) := display.complete (session.backendAt route) question session.rig
      endDirect { session with rig := rig } outcome save

def makeCall (session : Session) (route : Route) (call : DisplayCall) : Session × List Task :=
  match route with
  | .device id => session.endCall (session.device.call id call) none
  | .direct _ =>
    match session.displayAt route with
    | .error cause => (session, [.answer (.failed cause)])
    | .ok display =>
      let (result, after) := display.call call
      session.endDirect ⟨result, after, []⟩ none

def startRegister (session : Session) (kind : CallbackKind) (label : String)
    (scripts : List (List Command)) : Session × List Task :=
  let callback : CallbackId := ⟨session.callbacks.length⟩
  let registered := { session with
    callbacks := session.callbacks ++ [⟨label, scripts⟩]
    device := session.device.install callback kind }
  let done := Task.answer (.text kind.callbackText)
  match kind with
  | .hotplug => (registered, [.call callback (.connected session.device.display.id), done])
  | .refresh => (registered, [done])
  | .vsync => (registered, [.flush callback, done])

/-- A descriptor, if there is one, must name the callback's kind. -/
def descriptorFits (kind : CallbackKind) : Option Int32 → Bool
  | none => true
  | some descriptor =>
    match CallbackKind.ofDescriptor descriptor with
    | .ok named => named == kind
    | .error _ => false

def startTick (session : Session) (deadline : HostTime) : Session × List Task :=
  let (callback, device) := session.device.arrive deadline
  let after := { session with device := device }
  let display := device.display.id
  match callback with
  | none => (after, [.answer .nothing])
  | some callback =>
    (after, [.call callback (.tick display deadline), .reportTick display deadline false,
      .answer .nothing])

def startRefresh (session : Session) (id : DisplayId) : Session × List Task :=
  match session.device.refreshCallback id with
  | .error cause => (session, [.answer (.failed cause)])
  | .ok none => (session, [.answer .nothing])
  | .ok (some callback) => (session, [.call callback (.refresh id), .answer .nothing])

/-- Adds a display that the device does not know. -/
def addDisplay (session : Session) (shapes : List ConfigShape) (name : String)
    (requireClientTarget : Bool) : Session × Answer :=
  match session.displayNumbers.allocate? with
  | none => (session, .failed .noResources)
  | some (number, numbering) =>
    ({ session with
        others := session.others
          ++ [.create ⟨number⟩ name requireClientTarget (DisplayConfig.coalesce shapes)]
        displayNumbers := numbering },
      .display ⟨number⟩)

def changeFaults (faults : Faults) (change : FaultChange) : Faults :=
  { faults with
    decisions := change.decisions.getD faults.decisions
    releases := change.releases.getD faults.releases
    power := faults.power || change.power
    activeConfig := faults.activeConfig || change.activeConfig }

/-- Carries out a command that is over at once. Those that are not answer nothing here. -/
def carryOut (session : Session) : Command → Session × Answer
  | .createLayer display =>
    let reply := session.device.createLayer display
    (session.absorb reply, .ofResult .layer reply.result)
  | .destroyLayer display layer =>
    let reply := session.device.destroyLayer display layer
    (session.absorb reply, .ofResult (fun _ => .nothing) reply.result)
  | .resolveLayer display layer =>
    (session, .ofResult (fun found => .display found.id)
      (session.device.resolveLayer display layer))
  | .query route query =>
    (session, .ofResult (fun display => .ofQuery display query) (session.displayAt route))
  | .deviceReport => (session, .text session.device.report)
  | .deviceText => (session, .text session.device.text)
  | .settingsText => (session, .text session.device.settings.text)
  | .displayAgain =>
    let own := session.device.display
    let ((result, notices), rig) := Device.ensureDisplay session.device.settings own.id (some own)
      (session.backendAt (.device own.id)) session.rig
    ({ session with rig := rig }.notify notices,
      .ofResult (fun display => .display display.id) result)
  | .newDisplay shapes name require => session.addDisplay shapes name require
  | .enableVsync display on =>
    let (result, device) := session.device.setVsyncEnabled display on
    ({ session with device := device }, .ofResult (fun _ => .nothing) result)
  | .unregister kind => ({ session with device := session.device.uninstall kind }, .nothing)
  | .shutdown =>
    let (device, notices) := session.device.shutdown session.fenceTable
    ({ session with device := device }.notify notices, .nothing)
  | .awaitTicks display count =>
    let awaited := session.device.awaitTicks session.now
      (count - session.device.ticks.pending.length)
    let (result, device) := awaited.setVsyncEnabled display false
    ({ session with device := device }, .ofResult (fun _ => .nothing) result)
  | .traceTo sink => ({ session with tracer := session.tracer.install sink }, .nothing)
  | .takeText =>
    let (text, tracer) := session.tracer.takeText
    ({ session with tracer := tracer }, .text text)
  | .takeRecording => (session, .text (Text.bytesHexadecimal session.tracer.recording))
  | .newFence name =>
    let (fence, named) := session.named.create name
    (session.withNamed named, .fence fence)
  | .finishFence name status =>
    let (found, named) := session.named.finish name status
    (session.withNamed named, .truth found)
  | .showFence name => (session, .fence (session.named.fence (some name)))
  | .waitFence name =>
    (session, match session.fenceTable.waitTimeout (session.named.fence (some name)) with
      | .ok _ => .completed
      | .error cause => .fenceFailed cause)
  | .script command =>
    let (answer, stage) := command.run session.rig.inner
    ({ session with rig := { session.rig with inner := stage } }, .ofScript answer)
  | .fault change =>
    ({ session with rig := { session.rig with
        faults := changeFaults session.rig.faults change } }, .nothing)
  | .hook point commands =>
    ({ session with hooks := session.hooks ++ [(point, commands)] }, .nothing)
  | _ => (session, .nothing)

/-- Starts a command: the session after it, and what is still to be done for it. -/
def start (session : Session) (command : Command) : Session × List Task :=
  match command with
  | .edit route layer edit => session.makeCall route (.edit layer edit)
  | .setBuffer route layer buffer fence =>
    session.makeCall route (.edit layer (.buffer buffer (session.named.fence fence)))
  | .setClientTarget route buffer fence dataspace damage =>
    session.makeCall route (.clientTarget buffer (session.named.fence fence) dataspace damage)
  | .setOutputBuffer route buffer fence =>
    session.makeCall route (.outputBuffer buffer (session.named.fence fence))
  | .acceptChanges route => session.makeCall route .acceptChanges
  | .setColorMode route mode => session.makeCall route (.colorMode mode)
  | .askBackend route call save => session.startBackendCall route call save
  | .tick deadline => session.startTick deadline
  | .register kind label scripts descriptor =>
    if descriptorFits kind descriptor then session.startRegister kind label scripts
    else (session, [.answer (.failed .badParameter)])
  | .requestRefresh display => session.startRefresh display
  | command =>
    let (after, answer) := session.carryOut command
    (after, [.answer answer])

end Session

/-- A session in the middle of a step. -/
structure Machine where
  session : Session
  stack : List Task
  answered : Option Answered := none

namespace Machine

def goOn (outcome : Session × List Task) (rest : List Task) : Machine where
  session := outcome.1
  stack := outcome.2 ++ rest

/-- Carries out a task; `rest` lies below it. -/
def carryOut (session : Session) (rest : List Task) : Task → Machine
  | .commands [] => { session := session, stack := rest }
  | .commands (command :: commands) =>
    goOn (session.start command) (.commands commands :: rest)
  | .complete route call question save =>
    goOn (session.completeCall route call question save) rest
  | .call callback news =>
    match session.callbacks[callback.number]? with
    | none => { session := session, stack := rest }
    | some found =>
      let (commands, after) := session.takeScript callback
      { session := after.log (.called found.label news), stack := .commands commands :: rest }
  | .reportTick display deadline buffered =>
    { session := session.trace (Device.tickEvent display deadline buffered), stack := rest }
  | .flush callback =>
    let (batch, device) := session.device.nextBatch callback
    let after := { session with device := device }
    match batch with
    | none => { session := after, stack := rest }
    | some deadlines =>
      { session := after, stack := .deliver callback deadlines :: .flush callback :: rest }
  | .deliver _ [] => { session := session, stack := rest }
  | .deliver callback (deadline :: deadlines) =>
    let display := session.device.display.id
    { session := session
      stack := .call callback (.tick display deadline) :: .reportTick display deadline true
        :: .deliver callback deadlines :: rest }
  | .answer answer =>
    let answered := session.answered answer
    if rest.isEmpty then { session := session, stack := [], answered := some answered }
    else { session := session.log (.nested answered), stack := rest }

def step (machine : Machine) : Machine :=
  match machine.stack with
  | [] => machine
  | task :: rest => carryOut machine.session rest task

/-- Carries out tasks until none is left, at most `fuel` of them. -/
def run : Nat → Machine → Machine
  | 0, machine => machine
  | fuel + 1, machine => if machine.stack.isEmpty then machine else run fuel machine.step

end Machine

namespace Session

/-- How much there is to do for all commands that the session still holds. -/
def weight (session : Session) : Nat :=
  session.callbacks.foldr (fun callback rest => Command.scriptsWeight callback.scripts + rest) 0
    + session.hooks.foldr (fun hook rest => Command.listWeight hook.2 + rest) 0
    + Command.tickWeight * session.device.ticks.pending.length

def perform (session : Session) (command : Command) : StepReport × Session :=
  let (started, tasks) := start { session with notices := [], events := [] } command
  let fuel := command.weight + session.weight
  let last := Machine.run fuel { session := started, stack := tasks }
  ({ answered := last.answered.getD (last.session.answered .nothing)
     status := last.session.status
     events := last.session.events
     notices := last.session.notices },
    last.session)

def performAll (session : Session) : List Command → List StepReport
  | [] => []
  | command :: rest =>
    let (report, after) := session.perform command
    report :: after.performAll rest

def firstDisplay : DisplayId := ⟨1⟩

/-- Opens a session on the scripted backend with these configurations, or fails as the device
does. -/
def openWith (settings : Settings) (shapes : List ConfigShape) (faults : Faults)
    (isMinimal : Bool) (now : HostTime) : Except Error Session × List Notice :=
  let rig : Rig := { faults := faults, inner := { script := { configs := shapes } } }
  let ((result, notices), after) :=
    Device.openOn Backend.scripted.faulty settings firstDisplay now rig
  (result.map fun device =>
    { device := device, isMinimal := isMinimal, rig := after, now := now }, notices)

end Session

end Scanout
