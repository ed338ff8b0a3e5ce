import Scanout.Proofs.Device.Attainable
import Scanout.Proofs.Display.Configs

/-!
# What a scripted backend is switched to

A display numbers its configurations, a backend the entries of its list. A scripted backend is told
the first entry that a configuration stands for, and it takes every entry of its list, so a switch
succeeds exactly if the display has the configuration. The backend's entry and the active
configuration have the same shape from the first switch on, and the power modes are the same
(`selection_run`).

A switch waits for its answer, and other switches may come in between. What carries the proof is
that every switch that waits leads to the entry that its configuration is known by (`Linked`).
-/

set_option autoImplicit false

namespace Scanout

/-! ## The scripted backend -/

namespace Stage

/-- The list of the scripted backend, and what it was switched to last. -/
def setting (stage : Stage) : List ConfigShape × Option Nat × Option PowerMode :=
  (stage.script.configs, stage.script.activeIndex, stage.script.powerMode)

theorem setting_prepare (frame : Frame) (stage : Stage) :
    (stage.prepare frame).2.setting = stage.setting := by
  unfold prepare
  dsimp only
  split <;> rfl

theorem setting_issueFence (stage : Stage) : stage.issueFence.2.setting = stage.setting := by
  unfold issueFence
  dsimp only
  split <;> rfl

theorem setting_issueFences (count : Nat) (stage : Stage) :
    (issueFences count stage).2.setting = stage.setting := by
  induction count generalizing stage with
  | zero => rfl
  | succ count ih => exact (ih stage.issueFence.2).trans stage.setting_issueFence

theorem setting_commit (frame : Frame) (stage : Stage) :
    (stage.commit frame).2.setting = stage.setting := by
  unfold commit
  dsimp only
  split
  · rfl
  · exact (setting_issueFences _ _).trans (setting_issueFence _)

theorem setting_script (command : ScriptCommand) (stage : Stage) :
    (command.run stage).2.setting = stage.setting := by
  cases command <;> rfl

theorem setActiveConfig_of_lt {stage : Stage} {index : Nat}
    (inside : index < stage.script.configs.length) :
    stage.setActiveConfig index
      = (.ok (), { stage with script := { stage.script with activeIndex := some index } }) :=
  if_pos inside

end Stage

namespace Display

theorem Amends.powerMode {relation : Layer → Layer → Prop} {display after : Display}
    (amends : Amends relation display after) : after.powerMode = display.powerMode := by
  obtain ⟨layers, dirtyLayers, rfl⟩ := amends.confined
  rfl

theorem powerMode_turned {display after : Display} {turn : Turn}
    (turned : display.Turned turn after) (stays : ∀ mode, turn ≠ .switchPower mode (.ok ())) :
    after.powerMode = display.powerMode := by
  cases turned with
  | removed found =>
      rw [removeLayer_eq found]
      rfl
  | edited edited => cases edited <;> rfl
  | @accepted validation validated =>
      exact (display.amends_foldl_acceptChange validation.typeChanges).powerMode
  | @negotiated prepare proposal decisions modified proposed agreed complete =>
      exact (display.amends_latchLayers proposal).powerMode
  | @presented commit frame fences asking committed complete =>
      exact (amends_foldl_pushReleaseFence (display.releaseShares fences) display).powerMode
  | powered => exact absurd rfl (stays _)
  | _ => rfl

/-- The entry of the backend's list that a configuration is known by. -/
def backendIndex? (display : Display) (id : ConfigId) : Option Nat :=
  (display.config? id).bind (·.backendIndices.head?)

theorem backendIndex?_congr {display after : Display} (same : after.configs = display.configs)
    (id : ConfigId) : after.backendIndex? id = display.backendIndex? id := by
  simp only [backendIndex?, config?, same]

theorem mem_ids_configs (display : Display) (id : ConfigId) :
    id ∈ display.configs.map (·.id) ↔ ∃ config, display.config? id = some config := by
  rw [← Option.isSome_iff_exists, config?, List.find?_isSome, List.mem_map]
  simp only [beq_iff_eq]

theorem backendIndex?_of_asks {display : Display} {call : BackendCall} {id : ConfigId} {index : Nat}
    (asks : display.begin call = .asking (.activeConfig id index)) :
    display.backendIndex? id = some index := by
  obtain rfl := Display.call_of_asks asks
  unfold backendIndex?
  simp only [begin, beginSetActiveConfig] at asks
  split at asks
  · cases asks
  · split at asks
    · cases asks
    · rename_i found
      cases asks
      exact found

end Display

/-! ## Runs -/

/-- What can happen to a device on a scripted backend: an action, or a command to the script. -/
inductive Cue where
  | act (action : Action)
  | script (command : ScriptCommand)

namespace System

def cue (system : System Stage) : Cue → System Stage
  | .act action => system.step .scripted action
  | .script command => { system with backend := (command.run system.backend).2 }

def perform (system : System Stage) : List Cue → System Stage
  | [] => system
  | cue :: rest => (system.cue cue).perform rest

/-- A device that has just been opened on a scripted backend with this list, which nobody has
switched. -/
structure OpenedOn (shapes : List ConfigShape) (system : System Stage) : Prop where
  device : ∃ settings id now stage notices, stage.setting = (shapes, none, none)
    ∧ Device.openOn .scripted settings id now stage
      = ((.ok system.device, notices), system.backend)
  waiting : system.waiting = []

/-- The active configuration of a display, and the entry that its backend was switched to. -/
def ActiveAgrees (shapes : List ConfigShape) (display : Display) : Option Nat → Prop
  | none => ∃ config, display.configs.head? = some config ∧ display.activeConfig? = some config
  | some index => ∃ config, shapes[index]? = some config.shape
    ∧ display.activeConfig? = some config

def PowerAgrees (display : Display) : Option PowerMode → Prop
  | none => display.powerMode = .on
  | some mode => display.powerMode = mode

/-- Display and backend agree on what is switched to, and every switch that the display accepts
succeeds. -/
structure InStep (shapes : List ConfigShape) (system : System Stage) : Prop where
  configs : system.device.display.configs = DisplayConfig.coalesce shapes
  selects : ∀ access, system.device.reaches access = true → ∀ id,
    (system.device.runAt .scripted access (.setActiveConfig id) system.backend).result
      = if id ∈ system.device.display.configs.map (·.id) then .ok .done else .error .badConfig
  /-- The backend refuses no switch that waits for its answer. -/
  answers : ∀ access id index, (access, .config id index) ∈ system.waiting →
    (Backend.scripted.setActiveConfig index system.backend).1 = .ok ()
  active : ActiveAgrees shapes system.device.display system.backend.script.activeIndex
  power : PowerAgrees system.device.display system.backend.script.powerMode

/-- The invariant of a run. -/
structure Linked (shapes : List ConfigShape) (system : System Stage) : Prop where
  configs : system.device.display.configs = DisplayConfig.coalesce shapes
  offered : system.backend.script.configs = shapes
  queued : ∀ access id index, (access, .config id index) ∈ system.waiting →
    system.device.display.backendIndex? id = some index
  active : ActiveAgrees shapes system.device.display system.backend.script.activeIndex
  power : PowerAgrees system.device.display system.backend.script.powerMode

variable {shapes : List ConfigShape} {system : System Stage}

theorem ActiveAgrees.congr {display after : Display} {index : Option Nat}
    (agrees : ActiveAgrees shapes display index) (configs : after.configs = display.configs)
    (active : after.activeConfig? = display.activeConfig?) : ActiveAgrees shapes after index := by
  cases index <;> simpa only [ActiveAgrees, configs, active] using agrees

theorem ActiveAgrees.exists {display : Display} {index : Option Nat}
    (agrees : ActiveAgrees shapes display index) :
    ∃ config, display.activeConfig? = some config := by
  cases index <;> exact ⟨agrees.choose, agrees.choose_spec.2⟩

theorem PowerAgrees.congr {display after : Display} {mode : Option PowerMode}
    (agrees : PowerAgrees display mode) (power : after.powerMode = display.powerMode) :
    PowerAgrees after mode := by
  cases mode <;> exact power.trans agrees

theorem OpenedOn.opened (opened : system.OpenedOn shapes) : system.Opened .scripted := by
  obtain ⟨settings, id, now, stage, notices, -, isOpen⟩ := opened.device
  exact ⟨⟨settings, id, now, stage, notices, _, isOpen⟩, opened.waiting⟩

theorem sound_cue (sound : system.Sound) (cue : Cue) : (system.cue cue).Sound := by
  cases cue with
  | act action => exact sound_step sound .scripted action
  | script command => exact ⟨sound.stacked, sound.numbered⟩

theorem answer_of_switchPower {σ : Type} {system : System σ} {backend : Backend σ}
    {action : Action} {mode : PowerMode} {answer : Except BackendError Unit}
    (switches : system.turn backend action = .switchPower mode answer) : action = .answer := by
  cases action with
  | answer => rfl
  | createLayer number =>
      simp only [turn] at switches
      split at switches <;> cases switches
  | destroyLayer number layer =>
      simp only [turn] at switches
      split at switches <;> cases switches
  | call access call =>
      simp only [turn] at switches
      split at switches <;> cases switches
  | ask access call =>
      cases call with
      | validate =>
          simp only [turn] at switches
          split at switches <;> cases switches
      | present =>
          simp only [turn] at switches
          split at switches <;> cases switches
      | _ => cases switches
  | _ => cases switches

theorem complete_backend {σ : Type} (backend : Backend σ) (system : System σ) (access : Access)
    (call : BackendCall) (question : Question) :
    (system.complete backend access call question).backend
      = (system.device.display.complete backend question system.backend).2 := by
  cases access <;> rfl

/-- Only an answer to a switch changes what the backend is switched to. -/
theorem setting_step (system : System Stage) {action : Action} (other : action ≠ .answer) :
    (system.step .scripted action).backend.setting = system.backend.setting := by
  cases action with
  | answer => exact absurd rfl other
  | ask access call =>
      simp only [step, ask]
      split
      · rfl
      · rw [complete_backend]
        exact Stage.setting_prepare _ _
      · rw [complete_backend]
        exact Stage.setting_commit _ _
      · rfl
      · rfl
  | call access call => cases access <;> rfl
  | _ => rfl

namespace Linked

/-- The entry that a configuration is known by has its shape. -/
theorem entry (linked : system.Linked shapes) {id : ConfigId} {index : Nat}
    (known : system.device.display.backendIndex? id = some index) :
    ∃ config, system.device.display.config? id = some config
      ∧ shapes[index]? = some config.shape := by
  obtain ⟨config, found, first⟩ := Option.bind_eq_some_iff.mp known
  have listed : config ∈ DisplayConfig.coalesce shapes :=
    linked.configs ▸ List.mem_of_find?_eq_some found
  exact ⟨config, found, (DisplayConfig.standsFor_coalesce shapes config listed).shaped index
    (List.mem_of_mem_head? first)⟩

theorem switch (linked : system.Linked shapes) {id : ConfigId} {index : Nat}
    (known : system.device.display.backendIndex? id = some index) :
    system.backend.setActiveConfig index
      = (.ok (), { system.backend with
          script := { system.backend.script with activeIndex := some index } }) := by
  obtain ⟨config, -, shape⟩ := linked.entry known
  refine Stage.setActiveConfig_of_lt ?_
  rw [linked.offered]
  exact (List.getElem?_eq_some_iff.mp shape).1

theorem idle (linked : system.Linked shapes) (sound : system.Sound) {action : Action}
    (other : action ≠ .answer) : (system.step .scripted action).Linked shapes := by
  have turned := Display.turned_turn sound.stacked.held (system.turn .scripted action)
  rw [← step_display] at turned
  have configs := Display.configs_turned turned
  have active := Display.activeConfig_turned turned fun id switches =>
    other (answer_of_switchConfig switches).1
  have power := Display.powerMode_turned turned fun mode switches =>
    other (answer_of_switchPower switches)
  obtain ⟨offered, setting⟩ := Prod.mk.inj (system.setting_step other)
  obtain ⟨index, mode⟩ := Prod.mk.inj setting
  refine ⟨configs.trans linked.configs, offered.trans linked.offered, ?_, ?_, ?_⟩
  · intro access id index waits
    rw [Display.backendIndex?_congr configs]
    rcases waiting_step .scripted system action waits with earlier | ⟨call, -, asks⟩
    · exact linked.queued access id index earlier
    · exact Display.backendIndex?_of_asks (Device.asking_of_beginAt asks)
  · rw [index]
    exact linked.active.congr configs active
  · rw [mode]
    exact linked.power.congr power

/-- The switches that still wait lead where they led, if the display keeps its configurations. -/
theorem queued_answer (linked : system.Linked shapes) {first : Access × Switch}
    {rest : List (Access × Switch)} (waits : system.waiting = first :: rest)
    (configs : (system.step .scripted .answer).device.display.configs
      = system.device.display.configs) :
    ∀ access id index, (access, .config id index) ∈ (system.step .scripted .answer).waiting →
      (system.step .scripted .answer).device.display.backendIndex? id = some index := by
  intro access id index among
  have waiting : (system.step .scripted .answer).waiting = rest := by
    simp only [step, waits]
    rfl
  rw [waiting] at among
  rw [Display.backendIndex?_congr configs]
  exact linked.queued access id index (waits ▸ List.mem_cons_of_mem _ among)

/-- The entry is one of the backend's list, so the backend follows the display. -/
theorem answer_config (linked : system.Linked shapes) {access : Access} {id : ConfigId}
    {index : Nat} {rest : List (Access × Switch)}
    (waits : system.waiting = (access, .config id index) :: rest) :
    (system.step .scripted .answer).Linked shapes := by
  have known := linked.queued access id index (waits ▸ List.mem_cons_self)
  obtain ⟨config, found, shape⟩ := linked.entry known
  have backend : (system.step .scripted .answer).backend
      = { system.backend with
          script := { system.backend.script with activeIndex := some index } } := by
    simp only [step, waits, complete_backend]
    exact congrArg Prod.snd (linked.switch known)
  have turn : system.turn .scripted .answer = .switchConfig id (.ok ()) := by
    simp only [System.turn, waits, switchTurn]
    exact congrArg (Turn.switchConfig id ∘ Prod.fst) (linked.switch known)
  have display := step_display .scripted system .answer
  rw [turn] at display
  refine ⟨?_, ?_, linked.queued_answer waits (by rw [display]; rfl), ?_, ?_⟩
  · rw [display]
    exact linked.configs
  · rw [backend]
    exact linked.offered
  · rw [backend, display]
    exact ⟨config, shape, found⟩
  · rw [backend, display]
    exact linked.power

theorem answer_power (linked : system.Linked shapes) {access : Access} {mode : PowerMode}
    {rest : List (Access × Switch)} (waits : system.waiting = (access, .power mode) :: rest) :
    (system.step .scripted .answer).Linked shapes := by
  have backend : (system.step .scripted .answer).backend
      = { system.backend with
          script := { system.backend.script with powerMode := some mode } } := by
    simp only [step, waits, complete_backend]
    rfl
  have turn : system.turn .scripted .answer = .switchPower mode (.ok ()) := by
    simp only [System.turn, waits, switchTurn]
    rfl
  have display := step_display .scripted system .answer
  rw [turn] at display
  refine ⟨?_, ?_, linked.queued_answer waits (by rw [display]; rfl), ?_, ?_⟩
  · rw [display]
    exact linked.configs
  · rw [backend]
    exact linked.offered
  · rw [backend, display]
    exact linked.active
  · rw [backend, display]
    rfl

theorem answer (linked : system.Linked shapes) :
    (system.step .scripted .answer).Linked shapes := by
  cases waits : system.waiting with
  | nil =>
      have same : system.step .scripted .answer = system := by simp only [step, waits]
      rw [same]
      exact linked
  | cons first rest =>
      obtain ⟨access, switch⟩ := first
      cases switch with
      | config id index => exact linked.answer_config waits
      | power mode => exact linked.answer_power waits

theorem cue (linked : system.Linked shapes) (sound : system.Sound) (cue : Cue) :
    (system.cue cue).Linked shapes := by
  cases cue with
  | act action =>
      by_cases answers : action = .answer
      · subst answers
        exact linked.answer
      · exact linked.idle sound answers
  | script command =>
      obtain ⟨offered, setting⟩ := Prod.mk.inj (Stage.setting_script command system.backend)
      obtain ⟨index, mode⟩ := Prod.mk.inj setting
      exact ⟨linked.configs, offered.trans linked.offered, linked.queued,
        index.symm ▸ linked.active, mode.symm ▸ linked.power⟩

theorem perform (linked : system.Linked shapes) (sound : system.Sound) (cues : List Cue) :
    (system.perform cues).Linked shapes := by
  induction cues generalizing system with
  | nil => exact linked
  | cons cue rest ih => exact ih (linked.cue sound cue) (sound_cue sound cue)

/-- The display has a configuration of every number that it lists. -/
theorem backendIndex_iff (linked : system.Linked shapes) (id : ConfigId) :
    id ∈ system.device.display.configs.map (·.id)
      ↔ ∃ index, system.device.display.backendIndex? id = some index := by
  rw [Display.mem_ids_configs]
  constructor
  · rintro ⟨config, found⟩
    have listed : config ∈ DisplayConfig.coalesce shapes :=
      linked.configs ▸ List.mem_of_find?_eq_some found
    obtain ⟨index, first, -⟩ := (DisplayConfig.standsFor_coalesce shapes config listed).head
    exact ⟨index, Option.bind_eq_some_iff.mpr ⟨config, found, first⟩⟩
  · rintro ⟨index, known⟩
    obtain ⟨config, found, -⟩ := Option.bind_eq_some_iff.mp known
    exact ⟨config, found⟩

theorem active_mem (linked : system.Linked shapes) {id : ConfigId}
    (active : system.device.display.activeConfigId = some id) :
    id ∈ system.device.display.configs.map (·.id) := by
  obtain ⟨config, found⟩ := linked.active.exists
  rw [Display.activeConfig?, active] at found
  exact (Display.mem_ids_configs _ _).mpr ⟨config, found⟩

theorem selects (linked : system.Linked shapes) {access : Access}
    (reached : system.device.reaches access = true) (id : ConfigId) :
    (system.device.runAt .scripted access (.setActiveConfig id) system.backend).result
      = if id ∈ system.device.display.configs.map (·.id) then .ok .done
        else .error .badConfig := by
  rw [Device.runAt_result reached]
  by_cases active : system.device.display.activeConfigId = some id
  · rw [if_pos (linked.active_mem active)]
    simp only [Display.run, Display.begin, Display.beginSetActiveConfig, active, if_true]
    rfl
  · cases known : system.device.display.backendIndex? id with
    | none =>
        rw [if_neg fun listed => by
          obtain ⟨index, entry⟩ := (linked.backendIndex_iff id).mp listed
          cases known.symm.trans entry]
        unfold Display.backendIndex? at known
        simp only [Display.run, Display.begin, Display.beginSetActiveConfig, active, if_false,
          known]
        rfl
    | some index =>
        rw [if_pos ((linked.backendIndex_iff id).mpr ⟨index, known⟩)]
        have accepted : (Backend.scripted.setActiveConfig index system.backend).1 = .ok () :=
          congrArg Prod.fst (linked.switch known)
        unfold Display.backendIndex? at known
        simp only [Display.run, Display.begin, Display.beginSetActiveConfig, active, if_false,
          known, Begun.map, Display.complete, accepted]
        rfl

end Linked

/-- What opening a device on a scripted backend leads to. -/
theorem opened_scripted {settings : Settings} {id : DisplayId} {now : HostTime}
    {stage after : Stage} {device : Device} {notices : List Notice}
    (isOpen : Device.openOn .scripted settings id now stage = ((.ok device, notices), after)) :
    after = stage ∧ DisplayConfig.coalesce stage.script.configs ≠ []
      ∧ ∃ name required, device.display
        = .create id name required (DisplayConfig.coalesce stage.script.configs) := by
  have ensured : Device.ensureDisplay settings id none .scripted stage
      = if (DisplayConfig.coalesce stage.script.configs).isEmpty then
          ((.error .badConfig, [.noConfigs]), stage)
        else ((.ok (.create id settings.displayName settings.clientTarget.requireForClientLayers
          (DisplayConfig.coalesce stage.script.configs)), []), stage) := by
    simp only [Device.ensureDisplay, Backend.scripted, Stage.displayConfigs]
  unfold Device.openOn at isOpen
  rw [ensured] at isOpen
  by_cases empty : (DisplayConfig.coalesce stage.script.configs).isEmpty = true
  · rw [if_pos empty] at isOpen
    cases isOpen
  · rw [if_neg empty] at isOpen
    obtain ⟨started, same⟩ := Prod.mk.inj isOpen
    obtain ⟨timer, rfl⟩ := Device.start_eq_ok (Prod.ext (Prod.mk.inj started).1 rfl)
    exact ⟨same.symm, fun none => empty (List.isEmpty_iff.mpr none), _, _, rfl⟩

theorem linked_of_opened (opened : system.OpenedOn shapes) : system.Linked shapes := by
  obtain ⟨settings, id, now, stage, notices, setting, isOpen⟩ := opened.device
  obtain ⟨backend, listed, name, required, display⟩ := opened_scripted isOpen
  obtain ⟨offered, switched⟩ := Prod.mk.inj setting
  obtain ⟨index, mode⟩ := Prod.mk.inj switched
  subst offered
  refine ⟨by rw [display]; rfl, by rw [backend], ?_, ?_, ?_⟩
  · intro access id index waits
    rw [opened.waiting] at waits
    cases waits
  · rw [backend, index, display]
    exact Display.activeConfig?_create id name required listed
  · rw [backend, mode, display]
    rfl

/-- A device on a scripted backend, however it is used and whatever the script is told. -/
theorem selection_run (opened : system.OpenedOn shapes) (cues : List Cue) :
    (system.perform cues).InStep shapes := by
  have linked := (linked_of_opened opened).perform (sound_of_opened opened.opened) cues
  refine ⟨linked.configs, fun access reached => linked.selects reached, ?_, linked.active,
    linked.power⟩
  intro access id index waits
  exact congrArg Prod.fst (linked.switch (linked.queued access id index waits))

/-- A device on a panel whose backend lists two of three configurations twice. -/
def onDuplicates : System Stage :=
  let standard := ConfigShape.standard
  let configs := [standard 1920 1080, standard 1280 720, standard 1920 1080, standard 640 480,
    standard 1280 720]
  let stage : Stage := { script := { configs := configs } }
  { device := (Device.openOn .scripted {} ⟨1⟩ ⟨0⟩ stage).1.1.toOption.getD default
    backend := stage }

/-- The device switches to its third configuration while it waits for a switch to its second. -/
def crossedSwitches : List Cue :=
  [.act (.ask (.device ⟨1⟩) (.setActiveConfig ⟨2⟩)), .script .failPrepare,
    .act (.ask .display (.setActiveConfig ⟨3⟩)), .act (.ask .display (.setPowerMode .doze)),
    .act .answer, .act .answer]

theorem selection_run_crossed :
    onDuplicates.OpenedOn onDuplicates.backend.script.configs
      ∧ (onDuplicates.perform crossedSwitches).backend.script.activeIndex = some 3
      ∧ (onDuplicates.perform crossedSwitches).InStep onDuplicates.backend.script.configs := by
  have opened : onDuplicates.OpenedOn onDuplicates.backend.script.configs :=
    ⟨⟨{}, ⟨1⟩, ⟨0⟩, onDuplicates.backend, [], rfl, rfl⟩, rfl⟩
  exact ⟨opened, by decide +kernel, selection_run opened crossedSwitches⟩

end System

end Scanout
