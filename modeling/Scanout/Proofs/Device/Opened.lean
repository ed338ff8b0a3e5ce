import Scanout.Backend.Scripted
import Scanout.Proofs.Device.Run
import Scanout.Proofs.Display.Stacking

/-!
# Opened devices

A device hands out the numbers of its layers itself. So in every run of an opened device a new layer
has a higher number than the layers that are there (`follows_turns`), and the display's stacking
order stays that of its layers (`sound_step`).
-/

set_option autoImplicit false

namespace Scanout

/-! ## The numbers of layers -/

namespace System

variable {σ : Type}

theorem step_layerNumbers (backend : Backend σ) (system : System σ) {action : Action}
    (other : ∀ id, action ≠ .createLayer id) :
    (system.step backend action).device.layerNumbers = system.device.layerNumbers := by
  cases action with
  | createLayer id => exact absurd rfl (other id)
  | destroyLayer id layer =>
      simp only [step, withDevice, Device.destroyLayer]
      split
      · rfl
      · split <;> rfl
  | call access call =>
      cases access with
      | device id =>
          obtain ⟨display, same⟩ := system.device.call_device id call
          simp only [step, withDevice, same, Device.withDisplay]
      | display => rfl
  | ask access call => exact (system.confined_ask backend access call).layerNumbers
  | answer =>
      simp only [step]
      split
      · rfl
      · exact (confined_complete backend _ _ _ _).layerNumbers
  | setVsyncEnabled id enabled =>
      simp only [step, withDevice, Device.setVsyncEnabled]
      split <;> rfl
  | install callback kind => cases kind <;> rfl
  | uninstall kind => cases kind <;> rfl
  | arrive deadline => rfl
  | nextBatch callback => rfl
  | awaitTicks now count =>
      obtain ⟨ticks, timer, same⟩ := system.device.awaitTicks_device now count
      simp only [step, withDevice, same]
  | shutdown fences => rfl

/-- The display's stack is in order, and the device has handed out the numbers of its layers. -/
structure Sound (system : System σ) : Prop where
  stacked : system.device.display.Stacked
  numbered : ∀ id ∈ system.device.display.ids,
    id.number.toNat < system.device.layerNumbers.next.toNat

/-- Only the creation of a layer adds one. -/
theorem createLayer_of_addLayer {backend : Backend σ} {system : System σ} {action : Action}
    {layer : LayerId} (added : system.turn backend action = .addLayer layer) :
    ∃ id, action = .createLayer id := by
  cases action with
  | createLayer id => exact ⟨id, rfl⟩
  | destroyLayer id other =>
      simp only [turn] at added
      split at added <;> cases added
  | call access call =>
      simp only [turn] at added
      split at added <;> cases added
  | ask access call =>
      cases call with
      | validate =>
          simp only [turn] at added
          split at added <;> cases added
      | present =>
          simp only [turn] at added
          split at added <;> cases added
      | _ => cases added
  | answer =>
      simp only [turn] at added
      split at added
      · cases added
      · rename_i switch _ _
        cases switch <;> cases added
  | _ => cases added

/-- The numbers after an action lie above those before and above a layer that is added. -/
theorem numbers_step (backend : Backend σ) (system : System σ) (action : Action) :
    system.device.layerNumbers.next.toNat
        ≤ (system.step backend action).device.layerNumbers.next.toNat
      ∧ ∀ id, system.turn backend action = .addLayer id →
        id.number = system.device.layerNumbers.next
        ∧ id.number.toNat < (system.step backend action).device.layerNumbers.next.toNat := by
  by_cases creates : ∃ id, action = .createLayer id
  · obtain ⟨id, rfl⟩ := creates
    simp only [step, turn, withDevice, Device.createLayer]
    cases found : system.device.find id with
    | error cause => exact ⟨le_refl _, fun _ added => by cases added⟩
    | ok display =>
        cases allocated : system.device.layerNumbers.allocate? with
        | none => exact ⟨le_refl _, fun _ added => by cases added⟩
        | some taken =>
            obtain ⟨number, after⟩ := taken
            obtain ⟨same, next⟩ := Numbering.allocate?_next allocated
            dsimp only
            refine ⟨by omega, ?_⟩
            intro other added
            obtain rfl := Turn.addLayer.inj added
            rw [same, next]
            exact ⟨rfl, Nat.lt_succ_self _⟩
  · have other : ∀ id, action ≠ .createLayer id := fun id same => creates ⟨id, same⟩
    have kept := step_layerNumbers backend system other
    refine ⟨by rw [kept], ?_⟩
    intro id added
    exact absurd (createLayer_of_addLayer added) creates

theorem fresh_turn {system : System σ} (sound : system.Sound) (backend : Backend σ)
    (action : Action) : (system.turn backend action).FreshOn system.device.display := by
  cases taken : system.turn backend action with
  | addLayer id =>
      obtain ⟨same, _⟩ := (numbers_step backend system action).2 id taken
      intro layer there
      rw [same]
      exact sound.numbered layer.id (List.mem_map_of_mem there)
  | _ => trivial

theorem sound_step {system : System σ} (sound : system.Sound) (backend : Backend σ)
    (action : Action) : (system.step backend action).Sound where
  stacked := by
    rw [step_display]
    exact Display.stacked_turn sound.stacked (fresh_turn sound backend action)
  numbered := by
    intro id member
    rw [step_display] at member
    obtain ⟨grown, added⟩ := numbers_step backend system action
    have turned := Display.turned_turn sound.stacked.held (system.turn backend action)
    rcases Display.mem_ids_turned turned member with old | new
    · exact Nat.lt_of_lt_of_le (sound.numbered id old) grown
    · exact (added id new).2

theorem sound_run {system : System σ} (sound : system.Sound) (backend : Backend σ)
    (actions : List Action) : (system.run backend actions).Sound := by
  induction actions generalizing system with
  | nil => exact sound
  | cons action rest ih => exact ih (sound_step sound backend action)

/-- A device gives every new layer a number of its own. -/
theorem follows_turns {system : System σ} (sound : system.Sound) (backend : Backend σ)
    (actions : List Action) :
    system.device.display.Follows (system.turns backend actions) := by
  induction actions generalizing system with
  | nil => trivial
  | cons action rest ih =>
      refine ⟨fresh_turn sound backend action, ?_⟩
      rw [← step_display]
      exact ih (sound_step sound backend action)

end System

/-! ## Opened devices -/

namespace Device

theorem start_eq_ok {settings : Settings} {display : Display} {now : HostTime} {device : Device}
    {notices : List Notice} (started : start settings display now = (.ok device, notices)) :
    ∃ timer, device = { settings := settings, display := display, timer := timer } := by
  unfold start at started
  dsimp only at started
  split at started
  · cases (Prod.mk.inj started).1
  · exact ⟨_, (Except.ok.inj (Prod.mk.inj started).1).symm⟩

theorem ensureDisplay_eq_ok {σ : Type} {settings : Settings} {id : DisplayId}
    {backend : Backend σ} {state after : σ} {display : Display} {notices : List Notice}
    (ensured : ensureDisplay settings id none backend state = ((.ok display, notices), after)) :
    ∃ configs, display = .create id settings.displayName
      settings.clientTarget.requireForClientLayers configs := by
  simp only [ensureDisplay] at ensured
  split at ensured
  · cases ensured
  · split at ensured
    · cases ensured
    · rename_i shapes _ _ _
      exact ⟨DisplayConfig.coalesce shapes,
        (Except.ok.inj (Prod.mk.inj (Prod.mk.inj ensured).1).1).symm⟩

theorem openOn_eq_ok {σ : Type} {backend : Backend σ} {settings : Settings} {id : DisplayId}
    {now : HostTime} {state after : σ} {device : Device} {notices : List Notice}
    (opened : openOn backend settings id now state = ((.ok device, notices), after)) :
    ∃ configs timer, device = {
      settings := settings
      display := .create id settings.displayName
        settings.clientTarget.requireForClientLayers configs
      timer := timer } := by
  unfold openOn at opened
  split at opened
  · cases opened
  · rename_i display _ _ ensured
    obtain ⟨configs, rfl⟩ := ensureDisplay_eq_ok ensured
    obtain ⟨timer, same⟩ := start_eq_ok
      (Prod.ext (Prod.mk.inj (Prod.mk.inj opened).1).1 rfl)
    exact ⟨configs, timer, same⟩

end Device

namespace System

variable {σ : Type}

/-- A device that has just been opened, with a backend in any state. -/
structure Opened (backend : Backend σ) (system : System σ) : Prop where
  device : ∃ settings id now state notices after,
    Device.openOn backend settings id now state = ((.ok system.device, notices), after)
  waiting : system.waiting = []

theorem opened_display {backend : Backend σ} {system : System σ}
    (opened : system.Opened backend) :
    ∃ id name required configs,
      system.device.display = .create id name required configs := by
  obtain ⟨settings, id, now, state, notices, after, isOpen⟩ := opened.device
  obtain ⟨configs, timer, same⟩ := Device.openOn_eq_ok isOpen
  exact ⟨id, settings.displayName, settings.clientTarget.requireForClientLayers, configs,
    congrArg Device.display same⟩

theorem sound_of_opened {backend : Backend σ} {system : System σ}
    (opened : system.Opened backend) : system.Sound := by
  obtain ⟨id, name, required, configs, same⟩ := opened_display opened
  refine ⟨?_, ?_⟩
  · rw [same]
    exact Display.stacked_of_empty rfl rfl
  · rw [same]
    intro id member
    cases member

/-- A device opened on a scripted backend with one configuration, whose script forces decisions. -/
def onScript (forced : List (Nat × Placement)) : System Stage :=
  let script : Script := { configs := [.standard 1920 1080], forcedSlots := forced }
  { device := (Device.openOn .scripted {} ⟨1⟩ ⟨0⟩ { script := script }).1.1.toOption.getD default
    backend := { script := script } }

theorem opened_onScript (forced : List (Nat × Placement)) :
    (onScript forced).Opened .scripted where
  device := ⟨{}, ⟨1⟩, ⟨0⟩,
    { script := { configs := [.standard 1920 1080], forcedSlots := forced } }, [], _, rfl⟩
  waiting := rfl

end System

end Scanout
