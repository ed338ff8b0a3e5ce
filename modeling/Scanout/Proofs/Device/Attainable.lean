import Scanout.Proofs.Device.Pacing
import Scanout.Proofs.Display.Repeated

/-!
# Configurations that can be switched to

A display offers the same configurations as long as it is there, and a switch to another one is only
begun if the display has it. So every switch that waits for its answer leads to a configuration of
the display (`attainable_run`). A device is opened only if there are configurations, the first of
which is active, and so it always has an active one (`active_run`).
-/

set_option autoImplicit false

namespace Scanout

theorem Display.Amends.configs {relation : Layer → Layer → Prop} {display after : Display}
    (amends : Amends relation display after) : after.configs = display.configs := by
  obtain ⟨layers, dirtyLayers, rfl⟩ := amends.confined
  rfl

theorem Display.configs_turned {display after : Display} {turn : Turn}
    (turned : display.Turned turn after) : after.configs = display.configs := by
  cases turned with
  | removed found =>
      rw [removeLayer_eq found]
      rfl
  | edited edited => cases edited <;> rfl
  | @accepted validation validated =>
      exact (display.amends_foldl_acceptChange validation.typeChanges).configs
  | @negotiated prepare proposal decisions modified proposed agreed complete =>
      exact (display.amends_latchLayers proposal).configs
  | @presented commit frame fences asking committed complete =>
      exact (amends_foldl_pushReleaseFence (display.releaseShares fences) display).configs
  | _ => rfl

/-! ## A display's first configuration -/

namespace Display

theorem activeConfig?_create (id : DisplayId) (name : String) (required : Bool)
    {configs : List DisplayConfig} (listed : configs ≠ []) :
    ∃ config, configs.head? = some config
      ∧ (create id name required configs).activeConfig? = some config := by
  cases configs with
  | nil => exact absurd rfl listed
  | cons first rest =>
      refine ⟨first, rfl, ?_⟩
      simp only [create, activeConfig?, config?, List.head?_cons,
        Option.map_some, Option.bind_some, List.find?_cons, beq_self_eq_true]

end Display

namespace Device

theorem active_ensureDisplay {σ : Type} {settings : Settings} {id : DisplayId} {backend : Backend σ}
    {state after : σ} {display : Display} {notices : List Notice}
    (ensured : ensureDisplay settings id none backend state = ((.ok display, notices), after)) :
    display.activeConfig?.isSome := by
  simp only [ensureDisplay] at ensured
  split at ensured
  · cases ensured
  · split at ensured
    · cases ensured
    · rename_i listed
      have made := Except.ok.inj (Prod.mk.inj (Prod.mk.inj ensured).1).1
      obtain ⟨config, -, active⟩ := Display.activeConfig?_create id settings.displayName
        settings.clientTarget.requireForClientLayers fun none => listed (List.isEmpty_iff.mpr none)
      rw [← made, active]
      rfl

end Device

namespace System

variable {σ : Type} {backend : Backend σ} {system : System σ}

/-- The display has every configuration that a waiting switch leads to. -/
def Attainable (system : System σ) : Prop :=
  ∀ access id index, (access, .config id index) ∈ system.waiting →
    (system.device.display.config? id).isSome

theorem config?_step (sound : system.Sound) (backend : Backend σ) (action : Action)
    (id : ConfigId) : (system.step backend action).device.display.config? id
      = system.device.display.config? id := by
  have turned := Display.turned_turn sound.stacked.held (system.turn backend action)
  rw [step_display]
  unfold Display.config?
  rw [Display.configs_turned turned]

theorem config?_of_asks {display : Display} {call : BackendCall} {id : ConfigId} {index : Nat}
    (asks : display.begin call = .asking (.activeConfig id index)) :
    (display.config? id).isSome := by
  obtain rfl := Display.call_of_asks asks
  cases known : display.config? id with
  | some config => rfl
  | none =>
      simp only [Display.begin, Display.beginSetActiveConfig, known] at asks
      split at asks <;> cases asks

/-- A switch that waits has waited or is asked for now. -/
theorem waiting_step (backend : Backend σ) (system : System σ) (action : Action) {access : Access}
    {id : ConfigId} {index : Nat}
    (waits : (access, .config id index) ∈ (system.step backend action).waiting) :
    (access, .config id index) ∈ system.waiting
      ∨ ∃ call, action = .ask access call
        ∧ system.device.beginAt access call = .inr (.activeConfig id index) := by
  cases action with
  | ask asked call =>
      simp only [step, ask] at waits
      split at waits
      · exact .inl waits
      · exact .inl waits
      · exact .inl waits
      · rename_i begun
        rcases List.mem_cons.mp waits with same | earlier
        · cases same
          exact .inr ⟨call, rfl, begun⟩
        · exact .inl earlier
      · rcases List.mem_cons.mp waits with same | earlier
        · cases same
        · exact .inl earlier
  | answer =>
      simp only [step] at waits
      split at waits
      · exact .inl waits
      · rename_i rest earlier
        rw [earlier]
        exact .inl (List.mem_cons_of_mem _ waits)
  | call asked call => cases asked <;> exact .inl waits
  | _ => exact .inl waits

theorem attainable_step (sound : system.Sound) (attainable : system.Attainable)
    (backend : Backend σ) (action : Action) : (system.step backend action).Attainable := by
  intro access id index waits
  rw [config?_step sound]
  rcases waiting_step backend system action waits with earlier | ⟨call, -, asks⟩
  · exact attainable access id index earlier
  · exact config?_of_asks (Device.asking_of_beginAt asks)

theorem attainable_run (sound : system.Sound) (attainable : system.Attainable)
    (backend : Backend σ) (actions : List Action) : (system.run backend actions).Attainable := by
  induction actions generalizing system with
  | nil => exact attainable
  | cons action rest ih =>
      exact ih (sound_step sound backend action) (attainable_step sound attainable backend action)

theorem attainable_of_opened (opened : system.Opened backend) : system.Attainable := by
  intro access id index waits
  rw [opened.waiting] at waits
  cases waits

/-- A display with an active configuration goes on to have one. -/
theorem active_step (sound : system.Sound) (attainable : system.Attainable)
    (active : system.device.display.activeConfig?.isSome) (backend : Backend σ) (action : Action) :
    (system.step backend action).device.display.activeConfig?.isSome := by
  by_cases switches : ∃ id, system.turn backend action = .switchConfig id (.ok ())
  · obtain ⟨id, switches⟩ := switches
    obtain ⟨-, access, index, rest, waits, -⟩ := answer_of_switchConfig switches
    have known := attainable access id index (waits ▸ List.mem_cons_self)
    rw [step_display, switches]
    exact known
  · have turned := Display.turned_turn sound.stacked.held (system.turn backend action)
    rw [← step_display] at turned
    rw [Display.activeConfig_turned turned fun id same => switches ⟨id, same⟩]
    exact active

theorem active_of_opened (opened : system.Opened backend) :
    system.device.display.activeConfig?.isSome := by
  obtain ⟨settings, id, now, state, notices, after, isOpen⟩ := opened.device
  unfold Device.openOn at isOpen
  split at isOpen
  · cases isOpen
  · rename_i display _ _ ensured
    obtain ⟨timer, same⟩ := Device.start_eq_ok (Prod.ext (Prod.mk.inj (Prod.mk.inj isOpen).1).1 rfl)
    rw [same]
    exact Device.active_ensureDisplay ensured

/-- A device that was opened always has an active configuration. -/
theorem active_run (opened : system.Opened backend) (actions : List Action) :
    (system.run backend actions).device.display.activeConfig?.isSome := by
  have sound := sound_of_opened opened
  induction actions using List.reverseRecOn with
  | nil => exact active_of_opened opened
  | append_singleton actions action ih =>
      have attainable := attainable_run sound (attainable_of_opened opened) backend actions
      rw [run_concat]
      exact active_step (sound_run sound backend actions) attainable ih backend action

end System

end Scanout
