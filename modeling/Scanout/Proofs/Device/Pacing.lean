import Scanout.Proofs.Device.Opened
import Scanout.Proofs.Vsync.Cadence

/-!
# The period that paces a device

A device that is opened runs its timer with the period of the active configuration, or with the
default of its settings if that configuration has none. A switch to a configuration without a period
leaves the timer as it is, so the default is in force only as long as no active configuration has
had a period (`period_run`).

A switch waits for the backend, and other calls are made meanwhile. What carries the proof is one
action: whatever it is, the timer afterwards has the period of the configuration that is then
active, and its own from before if that has none (`step_period`).
-/

set_option autoImplicit false

namespace Scanout

open Vsync (Timer)

/-- The period of the active configuration, unless it has none. -/
def Display.reportedPeriod? (display : Display) : Option Duration :=
  match display.activeConfig? with
  | none => none
  | some config =>
    if config.shape.vsyncPeriod.isZero then none else some config.shape.vsyncPeriod

theorem Vsync.Timer.nextTick?_period {timer after : Timer} {now deadline : HostTime}
    (next : timer.nextTick? now = some (deadline, after)) : after.period = timer.period := by
  have same : ((Vsync.Ticker.begin timer).run [.pass now, .timeout]).timer = after :=
    (Vsync.Ticker.beats_undisturbed timer now).2 (deadline, after) next
  rw [← same]
  have passed : ((Vsync.Ticker.begin timer).step (.pass now)).timer.period = timer.period :=
    Vsync.Ticker.period_step fun _ other => by cases other
  exact (Vsync.Ticker.period_step fun _ other => by cases other).trans passed

namespace Display

/-- A turn that switches to no other configuration leaves the active one as it is. -/
theorem activeConfig_turned {display after : Display} {turn : Turn}
    (turned : display.Turned turn after) (stays : ∀ id, turn ≠ .switchConfig id (.ok ())) :
    after.activeConfig? = display.activeConfig? := by
  cases turned with
  | removed found =>
      rw [removeLayer_eq found]
      rfl
  | edited edited => cases edited <;> rfl
  | @accepted validation validated =>
      exact (display.amends_foldl_acceptChange validation.typeChanges).activeConfig
  | @negotiated prepare proposal decisions modified proposed agreed complete =>
      exact (display.amends_latchLayers proposal).activeConfig
  | @presented commit frame fences asking committed complete =>
      exact (amends_foldl_pushReleaseFence (display.releaseShares fences) display).activeConfig
  | switched => exact absurd rfl (stays _)
  | _ => rfl

/-- Only one call asks for a switch to a configuration. -/
theorem call_of_asks {display : Display} {call : BackendCall} {id : ConfigId} {index : Nat}
    (asks : display.begin call = .asking (.activeConfig id index)) :
    call = .setActiveConfig id := by
  cases call with
  | validate =>
      simp only [begin] at asks
      cases begun : display.beginValidate <;> simp [begun, Begun.map] at asks
  | present =>
      simp only [begin] at asks
      cases begun : display.beginPresent <;> simp [begun, Begun.map] at asks
  | setActiveConfig other =>
      simp only [begin] at asks
      cases begun : display.beginSetActiveConfig other with
      | finished result notices => simp [begun, Begun.map] at asks
      | asking place =>
          simp only [begun, Begun.map, Begun.asking.injEq, Question.activeConfig.injEq] at asks
          rw [asks.1]
  | setPowerMode mode => simp [begin] at asks

end Display

namespace Device

theorem pace_eq (settings : Settings) (display : Display) :
    pace settings display = display.reportedPeriod?.getD settings.defaultPeriod := by
  unfold pace Display.reportedPeriod?
  cases display.activeConfig? with
  | none => rfl
  | some config => cases zero : config.shape.vsyncPeriod.isZero <;> simp [zero]

theorem followConfig_period (timer : Timer) (display : Display) :
    (followConfig timer display).period = display.reportedPeriod?.getD timer.period := by
  unfold followConfig Display.reportedPeriod?
  cases display.activeConfig? with
  | none => rfl
  | some config =>
      cases zero : config.shape.vsyncPeriod.isZero <;> simp [Timer.setPeriod, zero]

theorem awaitTicks_period (device : Device) (now : HostTime) (count : Nat) :
    (device.awaitTicks now count).timer.period = device.timer.period := by
  induction count generalizing device now with
  | zero => rfl
  | succ count ih =>
      simp only [awaitTicks]
      split
      · rfl
      · rename_i next
        rw [ih]
        exact Timer.nextTick?_period next

/-- The timer has kept its period or taken that of the active configuration. -/
def FollowedBy (device after : Device) : Prop :=
  after.timer.period = device.timer.period
    ∨ after.timer.period = after.display.reportedPeriod?.getD device.timer.period

theorem conclude_followed (device : Device) (id : DisplayId) (call : BackendCall)
    (outcome : Outcome CallResult) :
    device.FollowedBy (device.conclude id call outcome).device := by
  unfold conclude
  dsimp only
  split
  · exact .inl rfl
  · cases call with
    | setActiveConfig id => exact .inr (followConfig_period device.timer outcome.display)
    | _ => exact .inl rfl

theorem beginAt_followed {device after : Device} {access : Access} {call : BackendCall}
    (begun : device.beginAt access call = .inl after) : device.FollowedBy after := by
  cases access with
  | device id =>
      simp only [beginAt, begin] at begun
      split at begun
      · rename_i reply ended
        obtain rfl := Sum.inl.inj begun
        split at ended
        · obtain rfl := Sum.inl.inj ended
          exact .inl rfl
        · split at ended
          · obtain rfl := Sum.inl.inj ended
            exact device.conclude_followed id call _
          · cases ended
      · cases begun
  | display =>
      simp only [beginAt] at begun
      split at begun
      · exact .inl (congrArg (·.timer.period) (Sum.inl.inj begun).symm)
      · cases begun

variable {σ : Type}

theorem completeAt_followed (device : Device) (backend : Backend σ) (access : Access)
    (call : BackendCall) (question : Question) (state : σ) :
    device.FollowedBy (device.completeAt backend access call question state).1 := by
  cases access with
  | device id => exact device.conclude_followed id call _
  | display => exact .inl rfl

end Device

namespace System

variable {σ : Type} {backend : Backend σ} {system : System σ}

/-! ## One action -/

theorem complete_followed (backend : Backend σ) (system : System σ) (access : Access)
    (call : BackendCall) (question : Question) :
    system.device.FollowedBy (system.complete backend access call question).device :=
  system.device.completeAt_followed backend access call question system.backend

theorem step_followed (backend : Backend σ) (system : System σ) (action : Action) :
    system.device.FollowedBy (system.step backend action).device := by
  cases action with
  | createLayer id =>
      refine .inl ?_
      simp only [step, withDevice, Device.createLayer]
      split
      · rfl
      · split <;> rfl
  | destroyLayer id layer =>
      refine .inl ?_
      simp only [step, withDevice, Device.destroyLayer]
      split
      · rfl
      · split <;> rfl
  | call access call =>
      cases access with
      | device id =>
          obtain ⟨display, same⟩ := system.device.call_device id call
          refine .inl ?_
          simp only [step, withDevice, same, Device.withDisplay]
      | display => exact .inl rfl
  | ask access call =>
      simp only [step, ask]
      split
      · rename_i begun
        exact Device.beginAt_followed begun
      · exact complete_followed backend system access call _
      · exact complete_followed backend system access call _
      · exact .inl rfl
      · exact .inl rfl
  | answer =>
      simp only [step]
      split
      · exact .inl rfl
      · exact complete_followed backend _ _ _ _
  | setVsyncEnabled id enabled =>
      refine .inl ?_
      simp only [step, withDevice, Device.setVsyncEnabled]
      split <;> rfl
  | install callback kind => cases kind <;> exact .inl rfl
  | uninstall kind => cases kind <;> exact .inl rfl
  | awaitTicks now count => exact .inl (system.device.awaitTicks_period now count)
  | _ => exact .inl rfl

/-- No switch of the configuration that waits has gone past the device. -/
def Guided (system : System σ) : Prop :=
  ∀ id index, (Access.display, Switch.config id index) ∉ system.waiting

theorem guided_step (guided : system.Guided) (backend : Backend σ) {action : Action}
    (through : ∀ id, action ≠ .ask .display (.setActiveConfig id)) :
    (system.step backend action).Guided := by
  cases action with
  | ask access call =>
      simp only [step, ask]
      split
      · exact guided
      · exact guided
      · exact guided
      · rename_i id index begun
        intro other place member
        rcases List.mem_cons.mp member with same | waits
        · obtain ⟨rfl, _⟩ := Prod.mk.inj same
          simp only [Device.beginAt] at begun
          split at begun
          · cases begun
          · rename_i asked
            obtain rfl := Sum.inr.inj begun
            exact through id (congrArg _ (Display.call_of_asks asked))
        · exact guided other place waits
      · intro other place member
        rcases List.mem_cons.mp member with same | waits
        · cases (Prod.mk.inj same).2
        · exact guided other place waits
  | answer =>
      simp only [step]
      split
      · exact guided
      · rename_i access switch rest waits
        intro id index member
        refine guided id index ?_
        rw [waits]
        exact List.mem_cons_of_mem _ member
  | call access call => cases access <;> exact guided
  | _ => exact guided

/-- Only an answer to a switch that waits switches the configuration. -/
theorem answer_of_switchConfig {action : Action} {id : ConfigId}
    {answer : Except BackendError Unit}
    (switches : system.turn backend action = .switchConfig id answer) :
    action = .answer ∧ ∃ access index rest, system.waiting = (access, .config id index) :: rest
      ∧ (backend.setActiveConfig index system.backend).1 = answer := by
  cases action with
  | answer =>
      simp only [turn] at switches
      split at switches
      · cases switches
      · rename_i access switch rest waits
        cases switch with
        | power mode => cases switches
        | config asked index =>
            obtain ⟨rfl, answered⟩ := Turn.switchConfig.inj switches
            exact ⟨rfl, access, index, rest, waits, answered⟩
  | createLayer number =>
      simp only [turn] at switches
      split at switches <;> cases switches
  | destroyLayer number layer =>
      simp only [turn] at switches
      split at switches <;> cases switches
  | call access call =>
      simp only [turn] at switches
      split at switches <;> cases switches
  | ask access call =>
      cases call with
      | validate =>
          simp only [turn] at switches
          split at switches <;> cases switches
      | present =>
          simp only [turn] at switches
          split at switches <;> cases switches
      | _ => cases switches
  | _ => cases switches

theorem switched_period (guided : system.Guided) {action : Action} {id : ConfigId}
    (switches : system.turn backend action = .switchConfig id (.ok ())) :
    (system.step backend action).device.timer.period
      = (system.step backend action).device.display.reportedPeriod?.getD
        system.device.timer.period := by
  obtain ⟨rfl, access, index, rest, waits, answered⟩ := answer_of_switchConfig switches
  cases access with
  -- a switch that is made straight on the display leaves the timer behind
  | display => exact absurd (waits ▸ List.mem_cons_self) (guided id index)
  | device number =>
      simp only [step, waits, complete, Device.completeAt, Device.complete, Switch.call,
        Switch.question, Display.complete, answered, Display.finishSetActiveConfig, Outcome.map,
        Except.map, Device.conclude, Device.timerAfter]
      exact Device.followConfig_period system.device.timer _

/-- An action leaves the timer with the period of the configuration that is then active, and with
its own if that has none. -/
theorem step_period (sound : system.Sound) (guided : system.Guided)
    (paced : ∀ period ∈ system.device.display.reportedPeriod?,
      system.device.timer.period = period)
    (backend : Backend σ) (action : Action) :
    (system.step backend action).device.timer.period
      = (system.step backend action).device.display.reportedPeriod?.getD
        system.device.timer.period := by
  -- the timer need not follow where the active configuration stays: it did so before
  by_cases switches : ∃ id, system.turn backend action = .switchConfig id (.ok ())
  · obtain ⟨id, switches⟩ := switches
    exact switched_period guided switches
  · have turned := Display.turned_turn sound.stacked.held (system.turn backend action)
    rw [← step_display] at turned
    have stays : (system.step backend action).device.display.reportedPeriod?
        = system.device.display.reportedPeriod? := by
      unfold Display.reportedPeriod?
      rw [Display.activeConfig_turned turned fun id same => switches ⟨id, same⟩]
    rcases system.step_followed backend action with kept | followed
    · rw [kept, stays]
      cases reported : system.device.display.reportedPeriod? with
      | none => rfl
      | some period => exact paced period reported
    · exact followed

/-! ## A run -/

/-- The periods that the active configuration has from state to state, where it has one. -/
def reports (backend : Backend σ) (system : System σ) : List Action → List Duration
  | [] => system.device.display.reportedPeriod?.toList
  | action :: rest =>
    system.device.display.reportedPeriod?.toList
      ++ reports backend (system.step backend action) rest

theorem period_from {fallback : Duration} (sound : system.Sound) (guided : system.Guided)
    (paced : system.device.timer.period
      = system.device.display.reportedPeriod?.getD fallback)
    {actions : List Action} (through : ∀ id, .ask .display (.setActiveConfig id) ∉ actions) :
    (system.run backend actions).device.timer.period
      = (system.reports backend actions).getLast?.getD fallback := by
  induction actions generalizing system fallback with
  | nil =>
      simp only [run, reports, paced]
      cases system.device.display.reportedPeriod? <;> rfl
  | cons action rest ih =>
      have stepped := step_period sound guided (by
        intro period reported
        rw [paced, Option.mem_def.mp reported]
        rfl) backend action
      have throughRest : ∀ id, .ask .display (.setActiveConfig id) ∉ rest :=
        fun id member => through id (List.mem_cons_of_mem action member)
      have guidedAfter : (system.step backend action).Guided :=
        guided_step guided backend fun id same => through id (same ▸ List.mem_cons_self)
      rw [run, ih (sound_step sound backend action) guidedAfter stepped throughRest, reports,
        List.getLast?_append, paced]
      cases (reports backend (system.step backend action) rest).getLast? with
      | some period => rfl
      | none => cases system.device.display.reportedPeriod? <;> rfl

end System

/-! ## Opened devices -/

namespace Device

theorem start_period {settings : Settings} {display : Display} {now : HostTime} {device : Device}
    {notices : List Notice} (started : start settings display now = (.ok device, notices)) :
    device.timer.period = pace device.settings device.display := by
  unfold start at started
  dsimp only at started
  split at started
  · cases (Prod.mk.inj started).1
  · rename_i timer begun
    rw [← Except.ok.inj (Prod.mk.inj started).1]
    exact (Vsync.Ticker.sound_begin begun).2.2

theorem openOn_period {σ : Type} {backend : Backend σ} {settings : Settings} {id : DisplayId}
    {now : HostTime} {state after : σ} {device : Device} {notices : List Notice}
    (opened : openOn backend settings id now state = ((.ok device, notices), after)) :
    device.timer.period = pace device.settings device.display := by
  unfold openOn at opened
  split at opened
  · cases opened
  · exact start_period (Prod.ext (Prod.mk.inj (Prod.mk.inj opened).1).1 rfl)

end Device

namespace System

variable {σ : Type} {backend : Backend σ} {system : System σ}

theorem getLast?_reports (backend : Backend σ) (system : System σ) (actions : List Action)
    {period : Duration}
    (reported : (system.run backend actions).device.display.reportedPeriod? = some period) :
    (system.reports backend actions).getLast? = some period := by
  induction actions generalizing system with
  | nil =>
      simp only [run] at reported
      simp only [reports, reported, Option.toList_some, List.getLast?_singleton]
  | cons action rest ih =>
      rw [reports, List.getLast?_append, ih (system.step backend action) reported]
      rfl

/-- The timer runs with the period that an active configuration had last, or with the default if
none has had one. A device that is opened on the configuration active now would run with the same
period exactly if this configuration has one or the last one was the default. -/
theorem period_run (opened : system.Opened backend) {actions : List Action}
    (through : ∀ id, .ask .display (.setActiveConfig id) ∉ actions) :
    let device := (system.run backend actions).device
    let settings := system.device.settings
    let last := (system.reports backend actions).getLast?.getD settings.defaultPeriod
    system.device.timer.period = Device.pace settings system.device.display
      ∧ device.timer.period = last
      ∧ (device.timer.period = Device.pace settings device.display
        ↔ device.display.reportedPeriod?.isSome ∨ last = settings.defaultPeriod) := by
  intro device settings last
  obtain ⟨settings', id, now, state, notices, after, isOpen⟩ := opened.device
  have paced := Device.openOn_period isOpen
  have guided : system.Guided := by
    intro id index
    rw [opened.waiting]
    exact List.not_mem_nil
  have period : device.timer.period = last := period_from (sound_of_opened opened) guided
    (paced.trans (Device.pace_eq settings system.device.display)) through
  refine ⟨paced, period, ?_⟩
  rw [period, Device.pace_eq]
  cases reported : device.display.reportedPeriod? with
  | none => simp
  | some own =>
      have lastOwn : last = own :=
        congrArg (·.getD settings.defaultPeriod) (getLast?_reports backend system actions reported)
      simp [lastOwn]

/-- A device on a panel of 90 Hz that also has a configuration without a period. -/
def onTwoShapes : System Stage :=
  let script : Script := { configs := [
    { ConfigShape.standard 1920 1080 with vsyncPeriod := ⟨11111111⟩ },
    { ConfigShape.standard 1280 720 with vsyncPeriod := .zero }] }
  { device := (Device.openOn .scripted {} ⟨1⟩ ⟨0⟩ { script := script }).1.1.toOption.getD default
    backend := { script := script } }

theorem opened_onTwoShapes : onTwoShapes.Opened .scripted where
  device := ⟨{}, ⟨1⟩, ⟨0⟩, onTwoShapes.backend, [], _, rfl⟩
  waiting := rfl

/-- The device switches to the configuration without a period. -/
def zeroPeriodRun : List Action := [.ask (.device ⟨1⟩) (.setActiveConfig ⟨2⟩), .answer]

theorem zeroPeriodRun_through (id : ConfigId) :
    .ask .display (.setActiveConfig id) ∉ zeroPeriodRun := by
  simp [zeroPeriodRun]

theorem period_run_zero :
    onTwoShapes.Opened .scripted
      ∧ (∀ id, .ask .display (.setActiveConfig id) ∉ zeroPeriodRun)
      ∧ (onTwoShapes.run .scripted zeroPeriodRun).device.timer.period = ⟨11111111⟩ :=
  ⟨opened_onTwoShapes, zeroPeriodRun_through,
    (period_run opened_onTwoShapes zeroPeriodRun_through).2.1.trans rfl⟩

/-- The period of the configuration that was active before is kept. -/
theorem zeroPeriod_kept :
    let device := (onTwoShapes.run .scripted zeroPeriodRun).device
    onTwoShapes.Opened .scripted ∧ device.display.activeConfigId = some ⟨2⟩
      ∧ Device.pace device.settings device.display = ⟨16666666⟩
      ∧ device.timer.period = ⟨11111111⟩ :=
  ⟨opened_onTwoShapes, rfl, rfl, rfl⟩

end System

end Scanout
