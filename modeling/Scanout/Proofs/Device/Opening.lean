import Scanout.Proofs.Device.Selection
import Scanout.Proofs.Display.Coalescing
import Scanout.Proofs.Display.Retained
import Scanout.Settings.Reader

/-!
# Opening a device

Three things decide whether a device opens: its settings, the backend's list of configurations, and
the timer. Settings that have been checked leave no room for a period of zero, neither from the list
nor as a default, and so the timer always starts (`start_of_accepted`). What is left is the list: it
has to be there and to have an entry.

The backend is asked for its list while the device is opened and never again. How often it is asked
cannot be seen from its answers, so `Backend.counting` is the same backend beside a count.
`openings` is the result.
-/

set_option autoImplicit false

namespace Scanout

namespace Settings

variable {settings : Settings}

/-- The settings have been checked, by themselves or as part of a document. -/
def Accepted (settings : Settings) : Prop :=
  settings.checked = .ok settings ∨ ∃ text, ofText text = .ok settings

theorem checked_eq_ok {result : Settings} (passed : settings.checked = .ok result) :
    result = settings ∧ settings.vsync.defaultPeriodNanos ≠ 0 := by
  unfold checked at passed
  split at passed
  · cases passed
  · exact ⟨(Except.ok.inj passed).symm, ‹_›⟩

theorem checked_of_ofText {text : String} (read : ofText text = .ok settings) :
    settings.checked = .ok settings := by
  unfold ofText at read
  split at read
  · cases read
  · rename_i entries _
    cases found : ofEntries entries with
    | error cause =>
        rw [found] at read
        cases read
    | ok raw =>
        rw [found] at read
        change raw.checked = .ok settings at read
        obtain ⟨rfl, -⟩ := checked_eq_ok read
        exact read

theorem checked_of_accepted (accepted : settings.Accepted) : settings.checked = .ok settings := by
  rcases accepted with checked | ⟨text, read⟩
  · exact checked
  · exact checked_of_ofText read

/-- Settings that are loaded have been checked, or are those by default. -/
theorem accepted_of_load {place : Place} (loaded : load place = .ok settings) :
    settings.Accepted := by
  cases place with
  | missing =>
      obtain rfl := Except.ok.inj loaded
      exact .inl rfl
  | directory => cases loaded
  | file bytes =>
      simp only [load] at loaded
      split at loaded
      · cases loaded
      · exact .inr ⟨_, loaded⟩

theorem isZero_defaultPeriod (accepted : settings.Accepted) :
    settings.defaultPeriod.isZero = false := by
  obtain ⟨-, nonzero⟩ := checked_eq_ok (checked_of_accepted accepted)
  apply beq_false_of_ne
  intro zero
  exact nonzero (UInt64.toNat_inj.mp zero)

end Settings

namespace DisplayConfig

theorem coalesce_eq_nil_iff {shapes : List ConfigShape} : coalesce shapes = [] ↔ shapes = [] := by
  constructor
  · intro none
    cases shapes with
    | nil => rfl
    | cons shape rest =>
        obtain ⟨config, listed, -⟩ := (filed_coalesce (shape :: rest)).seen shape List.mem_cons_self
        rw [none] at listed
        cases listed
  · rintro rfl
    rfl

/-- The first configuration, and no other, stands for the first entry. -/
theorem head?_coalesce (shape : ConfigShape) (rest : List ConfigShape) :
    ∃ config, (coalesce (shape :: rest)).head? = some config ∧ config.shape = shape
      ∧ ∀ other ∈ coalesce (shape :: rest), 0 ∈ other.backendIndices ↔ other = config := by
  have filed := filed_coalesce (shape :: rest)
  obtain ⟨known, listed, alike⟩ := filed.seen shape List.mem_cons_self
  have zero : 0 ∈ known.backendIndices := (filed.indices known listed 0).mpr (alike ▸ rfl)
  cases configs : coalesce (shape :: rest) with
  | nil =>
      rw [configs] at listed
      cases listed
  | cons first others =>
      have appearance := filed.appearance
      rw [configs] at listed appearance
      -- an index of the first configuration lies below all of another's
      have absent : ∀ other ∈ others, 0 ∉ other.backendIndices := by
        intro other later there
        obtain ⟨index, -, below⟩ := (List.pairwise_cons.mp appearance).1 other later
        exact absurd (below 0 there) (Nat.not_lt_zero index)
      obtain rfl : known = first := by
        rcases List.mem_cons.mp listed with same | later
        · exact same
        · exact absurd zero (absent known later)
      refine ⟨known, rfl, alike, fun other member => ?_⟩
      constructor
      · intro there
        rcases List.mem_cons.mp member with same | later
        · exact same
        · exact absurd there (absent other later)
      · rintro rfl
        exact zero

end DisplayConfig

namespace Device

variable {σ : Type} {settings : Settings}

theorem isZero_pace (accepted : settings.Accepted) (display : Display) :
    (pace settings display).isZero = false := by
  have usual := Settings.isZero_defaultPeriod accepted
  unfold pace
  split
  · exact usual
  · split
    · exact usual
    · exact Bool.eq_false_iff.mpr ‹_›

/-- With settings that have been checked the timer always starts. -/
theorem start_of_accepted (accepted : settings.Accepted) (display : Display) (now : HostTime) :
    start settings display now = (.ok {
      settings := settings
      display := display
      timer := {
        started := true
        generation := 1
        enabled := settings.vsync.startEnabled
        period := pace settings display
        nextDeadline := now.add (pace settings display) } }, []) := by
  simp only [start, Vsync.Timer.start, isZero_pace accepted, Bool.false_eq_true, if_false]
  rfl

end Device

namespace Backend

/-- The backend, beside the number of times that it was asked for its configurations. -/
def counting {σ : Type} (backend : Backend σ) : Backend (σ × Nat) where
  displayConfigs := fun (state, asked) =>
    ((backend.displayConfigs state).1, (backend.displayConfigs state).2, asked + 1)
  prepare := fun frame (state, asked) =>
    ((backend.prepare frame state).1, (backend.prepare frame state).2, asked)
  commit := fun frame (state, asked) =>
    ((backend.commit frame state).1, (backend.commit frame state).2, asked)
  setActiveConfig := fun index (state, asked) =>
    ((backend.setActiveConfig index state).1, (backend.setActiveConfig index state).2, asked)
  setPowerMode := fun mode (state, asked) =>
    ((backend.setPowerMode mode state).1, (backend.setPowerMode mode state).2, asked)

end Backend

/-! ## Opening -/

namespace Device

variable {σ : Type} {settings : Settings} {backend : Backend σ} {state after : σ}

/-- The display of a device that opens on a list with a first entry. -/
abbrev firstDisplay (settings : Settings) (id : DisplayId) (shapes : List ConfigShape) : Display :=
  .create id settings.displayName settings.clientTarget.requireForClientLayers
    (DisplayConfig.coalesce shapes)

theorem openOn_of_error (settings : Settings) (id : DisplayId) (now : HostTime)
    {cause : BackendError} (answer : backend.displayConfigs state = (.error cause, after)) :
    openOn backend settings id now state
      = ((.error .noResources, [.backendFailed cause]), after) := by
  simp only [openOn, ensureDisplay, answer, BackendError.toError]

theorem openOn_of_nil (settings : Settings) (id : DisplayId) (now : HostTime)
    (answer : backend.displayConfigs state = (.ok [], after)) :
    openOn backend settings id now state = ((.error .badConfig, [.noConfigs]), after) := by
  simp only [openOn, ensureDisplay, answer]
  rfl

theorem openOn_of_ne_nil (settings : Settings) (id : DisplayId) (now : HostTime)
    {shapes : List ConfigShape} (answer : backend.displayConfigs state = (.ok shapes, after))
    (listed : shapes ≠ []) :
    openOn backend settings id now state
      = (start settings (firstDisplay settings id shapes) now, after) := by
  have some : (DisplayConfig.coalesce shapes).isEmpty = false := by
    apply Bool.eq_false_iff.mpr
    intro none
    exact listed (DisplayConfig.coalesce_eq_nil_iff.mp (List.isEmpty_iff.mp none))
  simp only [openOn, ensureDisplay, answer, some, Bool.false_eq_true, if_false, List.nil_append]

/-- While a device is opened, its backend is asked for its list once. -/
theorem openOn_counting (backend : Backend σ) (settings : Settings) (id : DisplayId)
    (now : HostTime) (state : σ) (asked : Nat) :
    openOn backend.counting settings id now (state, asked)
      = ((openOn backend settings id now state).1, (openOn backend settings id now state).2,
        asked + 1) := by
  have counted : backend.counting.displayConfigs (state, asked)
      = ((backend.displayConfigs state).1, (backend.displayConfigs state).2, asked + 1) := rfl
  rcases answer : backend.displayConfigs state with ⟨_ | shapes, after⟩
  · rw [answer] at counted
    rw [openOn_of_error settings id now answer, openOn_of_error settings id now counted]
  · rw [answer] at counted
    by_cases none : shapes = []
    · subst none
      rw [openOn_of_nil settings id now answer, openOn_of_nil settings id now counted]
    · rw [openOn_of_ne_nil settings id now answer none,
        openOn_of_ne_nil settings id now counted none]

/-- A device that has just been opened, with a backend that has listed these entries. -/
structure Fresh (settings : Settings) (id : DisplayId) (now : HostTime)
    (shapes : List ConfigShape) (device : Device) : Prop where
  id : device.display.id = id
  state : device.display.state = .modified
  layers : device.display.layers = [] ∧ device.display.layersInOrder = []
  /-- The active configuration is the one that stands for the backend's first entry. -/
  active : ∃ config ∈ device.display.configs, device.display.activeConfig? = some config
    ∧ shapes.head? = some config.shape
    ∧ (∀ other ∈ device.display.configs, 0 ∈ other.backendIndices ↔ other = config)
    ∧ device.timer.period
      = if config.shape.vsyncPeriod.isZero then settings.defaultPeriod
        else config.shape.vsyncPeriod
  started : device.timer.started = true
  firstTick : device.timer.nextDeadline = now.add device.timer.period ∧ device.timer.ticks = 0
  enabled : device.timer.enabled = settings.vsync.startEnabled

theorem fresh_start (accepted : settings.Accepted) (id : DisplayId) (now : HostTime)
    {shapes : List ConfigShape} (listed : shapes ≠ []) :
    ∃ device, start settings (firstDisplay settings id shapes) now = (.ok device, [])
      ∧ Fresh settings id now shapes device := by
  refine ⟨_, start_of_accepted accepted _ now, ?_⟩
  cases shapes with
  | nil => exact absurd rfl listed
  | cons shape rest =>
      obtain ⟨config, head, alike, only⟩ := DisplayConfig.head?_coalesce shape rest
      have member : config ∈ DisplayConfig.coalesce (shape :: rest) :=
        List.mem_of_mem_head? head
      obtain ⟨_, same, active⟩ := Display.activeConfig?_create id settings.displayName
        settings.clientTarget.requireForClientLayers (List.ne_nil_of_mem member)
      obtain rfl := Option.some.inj (same.symm.trans head)
      exact {
        id := rfl
        state := rfl
        layers := ⟨rfl, rfl⟩
        active := ⟨_, member, active, congrArg some alike.symm, only, by simp only [pace, active]⟩
        started := rfl
        firstTick := ⟨rfl, rfl⟩
        enabled := rfl }

end Device

/-! ## Asking for the display again -/

theorem Display.id_turned {display after : Display} {turn : Turn}
    (turned : display.Turned turn after) : after.id = display.id := by
  cases turned with
  | removed found =>
      rw [removeLayer_eq found]
      rfl
  | edited edited => exact (retains_edited edited).id
  | @accepted validation validated =>
      exact (Retains.of_amends (display.amends_foldl_acceptChange validation.typeChanges)).id
  | @negotiated prepare proposal decisions modified proposed agreed complete =>
      exact (Retains.of_amends (display.amends_latchLayers proposal)).id
  | @presented commit frame fences asking committed complete =>
      exact (Retains.of_amends
        (amends_foldl_pushReleaseFence (display.releaseShares fences) display)).id
  | _ => rfl

namespace System

variable {σ : Type}

/-- The display that a client gets when it asks an open device for it. -/
def ensureDisplay (backend : Backend σ) (system : System σ) : Except Error Display × System σ :=
  let own := system.device.display
  let ((result, _), after) :=
    Device.ensureDisplay system.device.settings own.id (some own) backend system.backend
  (result, { system with backend := after })

/-- What comes to an open device. -/
inductive Errand where
  /-- A client asks for the display. -/
  | display
  | act (action : Action)

def errand (backend : Backend σ) (system : System σ) : Errand → System σ
  | .display => (system.ensureDisplay backend).2
  | .act action => system.step backend action

def errands (backend : Backend σ) (system : System σ) (list : List Errand) : System σ :=
  list.foldl (errand backend) system

theorem asked_complete (backend : Backend σ) (system : System (σ × Nat)) (access : Access)
    (call : BackendCall) (question : Question) :
    (system.complete backend.counting access call question).backend.2 = system.backend.2 := by
  rw [complete_backend]
  cases question <;> rfl

/-- No action asks for the configurations. -/
theorem asked_step (backend : Backend σ) (system : System (σ × Nat)) (action : Action) :
    (system.step backend.counting action).backend.2 = system.backend.2 := by
  cases action with
  | ask access call =>
      simp only [step, ask]
      split
      · rfl
      · exact asked_complete backend system access call _
      · exact asked_complete backend system access call _
      · rfl
      · rfl
  | answer =>
      simp only [step]
      split
      · rfl
      · exact asked_complete backend _ _ _ _
  | call access call => cases access <;> rfl
  | _ => rfl

/-- The device still has the display that it was opened with, and its backend has been asked for
the configurations so often. -/
structure Settled (id : DisplayId) (asked : Nat) (system : System (σ × Nat)) : Prop where
  sound : system.Sound
  id : system.device.display.id = id
  asked : system.backend.2 = asked

theorem settled_errand {id : DisplayId} {asked : Nat} {system : System (σ × Nat)}
    (settled : system.Settled id asked) (backend : Backend σ) (errand : Errand) :
    (system.errand backend.counting errand).Settled id asked := by
  cases errand with
  | display => exact settled
  | act action =>
      have turned := Display.turned_turn settled.sound.stacked.held
        (system.turn backend.counting action)
      rw [← step_display] at turned
      exact {
        sound := sound_step settled.sound backend.counting action
        id := (Display.id_turned turned).trans settled.id
        asked := (asked_step backend system action).trans settled.asked }

theorem settled_errands {id : DisplayId} {asked : Nat} {system : System (σ × Nat)}
    (settled : system.Settled id asked) (backend : Backend σ) (list : List Errand) :
    (system.errands backend.counting list).Settled id asked := by
  induction list generalizing system with
  | nil => exact settled
  | cons errand rest ih => exact ih (settled_errand settled backend errand)

end System

/-- How a device opens. -/
structure Opening {σ : Type} (backend : Backend σ) (settings : Settings) (id : DisplayId)
    (now : HostTime) (state : σ) : Prop where
  opens_iff : (∃ device, (Device.openOn backend settings id now state).1.1 = .ok device)
    ↔ ∃ shapes, (backend.displayConfigs state).1 = .ok shapes ∧ shapes ≠ []
  noResources : ∀ cause, (backend.displayConfigs state).1 = .error cause →
    (Device.openOn backend settings id now state).1.1 = .error .noResources
  badConfig : (backend.displayConfigs state).1 = .ok [] →
    (Device.openOn backend settings id now state).1.1 = .error .badConfig
  /-- The timer never refuses its period. -/
  unrefused : ∀ cause, .timerRefused cause ∉ (Device.openOn backend settings id now state).1.2
  fresh : ∀ device, (Device.openOn backend settings id now state).1.1 = .ok device →
    ∃ shapes, (backend.displayConfigs state).1 = .ok shapes
      ∧ Device.Fresh settings id now shapes device
  /-- The backend is asked for its list once. -/
  asked : Device.openOn backend.counting settings id now (state, 0)
    = ((Device.openOn backend settings id now state).1, (backend.displayConfigs state).2, 1)
  /-- Whoever asks for the display later gets the one of the device, whatever has come to it
  meanwhile, and the backend is not asked again. -/
  again : ∀ device, (Device.openOn backend settings id now state).1.1 = .ok device →
    ∀ errands : List System.Errand,
      let system : System (σ × Nat) := { device := device
                                         backend := ((backend.displayConfigs state).2, 1) }
      let later := system.errands backend.counting errands
      later.ensureDisplay backend.counting = (.ok later.device.display, later)
        ∧ later.device.display.id = id ∧ later.backend.2 = 1

section

variable {σ : Type} {backend : Backend σ} {settings : Settings} {state after : σ}

theorem opening_of_error (id : DisplayId) (now : HostTime) {cause : BackendError}
    (answer : backend.displayConfigs state = (.error cause, after)) :
    Opening backend settings id now state := by
  have counted := Device.openOn_counting backend settings id now state 0
  have result := Device.openOn_of_error settings id now answer
  rw [result] at counted
  exact {
    opens_iff := by simp [result, answer]
    noResources := fun _ _ => by rw [result]
    badConfig := fun listed => by simp [answer] at listed
    unrefused := by simp [result]
    fresh := fun device opened => by simp [result] at opened
    asked := by rw [counted, result, answer]
    again := fun device opened => by simp [result] at opened }

theorem opening_of_nil (id : DisplayId) (now : HostTime)
    (answer : backend.displayConfigs state = (.ok [], after)) :
    Opening backend settings id now state := by
  have counted := Device.openOn_counting backend settings id now state 0
  have result := Device.openOn_of_nil settings id now answer
  rw [result] at counted
  exact {
    opens_iff := by simp [result, answer]
    noResources := fun _ failed => by simp [answer] at failed
    badConfig := fun _ => by rw [result]
    unrefused := by simp [result]
    fresh := fun device opened => by simp [result] at opened
    asked := by rw [counted, result, answer]
    again := fun device opened => by simp [result] at opened }

theorem opening_of_ne_nil (accepted : settings.Accepted) (id : DisplayId) (now : HostTime)
    {shapes : List ConfigShape} (answer : backend.displayConfigs state = (.ok shapes, after))
    (listed : shapes ≠ []) : Opening backend settings id now state := by
  have counted := Device.openOn_counting backend settings id now state 0
  obtain ⟨device, started, fresh⟩ := Device.fresh_start accepted id now listed
  have result := Device.openOn_of_ne_nil settings id now answer listed
  rw [started] at result
  rw [result] at counted
  have only : ∀ other, (Device.openOn backend settings id now state).1.1 = .ok other →
      other = device := by
    intro other opened
    rw [result] at opened
    exact (Except.ok.inj opened).symm
  exact {
    opens_iff := by simp [result, answer, listed]
    noResources := fun _ failed => by simp [answer] at failed
    badConfig := fun none => by simp [answer, listed] at none
    unrefused := by simp [result]
    fresh := fun other opened => ⟨shapes, by rw [answer], only other opened ▸ fresh⟩
    asked := by rw [counted, result, answer]
    again := by
      intro other opened errands
      obtain rfl := only other opened
      rw [answer]
      let system : System (σ × Nat) := { device := other, backend := (after, 1) }
      have isOpen : system.Opened backend.counting :=
        { device := ⟨settings, id, now, (state, 0), [], (after, 1), counted⟩, waiting := rfl }
      have settled : system.Settled id 1 :=
        { sound := System.sound_of_opened isOpen, id := fresh.id, asked := rfl }
      have later := System.settled_errands settled backend errands
      exact ⟨rfl, later.id, later.asked⟩ }

end

/-- A panel that reports no period for its first entry, and lists it twice. -/
def unpacedStage : Stage :=
  let unpaced : ConfigShape := { ConfigShape.standard 1280 720 with vsyncPeriod := .zero }
  { script := { configs := [unpaced, .standard 1920 1080, unpaced] } }

/-- Settings that have not been checked may leave the timer without a period. -/
example : (Device.openOn .scripted { vsync := { defaultPeriodNanos := 0 } } ⟨1⟩ ⟨7⟩
    unpacedStage).1.1.isOk = false := rfl

end Scanout
