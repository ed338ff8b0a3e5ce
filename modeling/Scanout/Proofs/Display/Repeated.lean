import Scanout.Proofs.Device.Failure
import Scanout.Proofs.Display.History

/-!
# Validating again

A validation holds until the first effective mutation. As long as there is none, validating again
asks the backend nothing and reports what the validation reported, and the lists of overrides and of
requests stay what they are; accepting empties the list of overrides for good and leaves the
requests alone (`repeats_run`).

`validated_turn` says what one turn that is no mutation makes of the record, `validated_run` what a
run of them does.
-/

set_option autoImplicit false

namespace Scanout

/-- What is left of a validation after these deeds, if no mutation is among them. -/
def Validation.since (validation : Validation) (deeds : List Deed) : Validation :=
  if .accepted ∈ deeds then { validation with typeChanges := [] } else validation

namespace System

variable {σ : Type}

/-- The frame that the backend is asked to prepare when this action is taken. -/
def prepares? (system : System σ) : Action → Option Proposal
  | .ask access call =>
    match system.device.beginAt access call with
    | .inr (.prepare proposal) => some proposal
    | _ => none
  | _ => none

/-- The frames that the backend is asked to prepare in the course of a run. -/
def prepared (backend : Backend σ) (system : System σ) : List Action → List Proposal
  | [] => []
  | action :: rest =>
    (system.prepares? action).toList ++ prepared backend (system.step backend action) rest

/-- Validating reports these overrides and requests, and so do the lists themselves. -/
structure Reports (backend : Backend σ) (system : System σ)
    (changes : List (LayerId × Composition)) (requests : List (LayerId × LayerRequest)) : Prop where
  validating : ∀ access, system.device.reaches access = true →
    (system.device.runAt backend access .validate system.backend).result
      = .ok (.summary ⟨if changes.isEmpty then .noChanges else .hasChanges, changes.length,
        requests.length⟩)
  changes : system.device.display.changedCompositions = .ok changes
  requests : system.device.display.requests = .ok requests

/-- Throughout these actions the backend prepares nothing, and the same overrides, until they are
accepted, and the same requests are reported. -/
structure Repeats (backend : Backend σ) (system : System σ) (actions : List Action) : Prop where
  unprepared : system.prepared backend actions = []
  /-- Whatever the backend would have answered to a frame to prepare, the run is the same. -/
  unasked : ∀ prepare,
    system.run { backend with prepare := prepare } actions = system.run backend actions
  reports : ∃ changes requests, ∀ first, first <+: actions →
    (system.run backend first).Reports backend
      (if .accepted ∈ system.deeds backend first then [] else changes) requests

end System

theorem Validation.since_cons (validation : Validation) (deed : Deed) (deeds : List Deed) :
    (validation.since [deed]).since deeds = validation.since (deed :: deeds) := by
  unfold since
  by_cases first : deed = .accepted
  · simp [first]
  · simp [Ne.symm first]

/-! ## One turn -/

namespace Display

variable {display : Display} {validation : Validation}

/-- A turn that is no mutation leaves a validation alone, but for accepting its overrides. -/
theorem validated_turn (stacked : display.Stacked) (validated : display.validated = some validation)
    {turn : Turn} (still : display.deed turn ≠ .mutation) :
    (display.turn turn).2.validated = some (validation.since [display.deed turn]) := by
  cases turn with
  | idle => exact validated
  | addLayer id => exact absurd rfl still
  | removeLayer id =>
      simp only [deed] at still ⊢
      cases found : display.layer? id with
      | none =>
          simp only [Display.turn, removeLayer, found]
          exact validated
      | some layer =>
          rw [found] at still
          exact absurd rfl still
  | call call =>
      cases call with
      | edit id edit =>
          simp only [deed] at still ⊢
          cases effective : display.isMutation id edit with
          | true =>
              rw [effective] at still
              exact absurd rfl still
          | false =>
              simp only [Display.turn, Display.call, validated_edit stacked, effective]
              exact validated
      | acceptChanges =>
          simp only [Display.turn, Display.call, deed, acceptChanges, validated]
          rfl
      | clientTarget buffer acquire dataspace damage => exact validated
      | outputBuffer buffer release => exact validated
      | colorMode mode =>
          simp only [Display.turn, Display.call, deed, setColorMode]
          split <;> exact validated
  | validate prepare =>
      have begun : display.beginValidate = .finished (.ok validation.summary) [] := by
        simp only [beginValidate, validated]
      simp only [Display.turn, deed, validateWith, begun]
      exact validated
  | present commit =>
      have turned := display.turned_present commit
      generalize (display.turn (.present commit)).2 = after at turned ⊢
      cases turned with
      | still forgotten => exact validated
      | @presented commit frame fences asking committed complete =>
          have amends := amends_foldl_pushReleaseFence (display.releaseShares fences) display
          exact amends.validated.trans validated
  | switchConfig id answer =>
      cases answer with
      | ok done => exact absurd rfl still
      | error cause => exact validated
  | switchPower mode answer => cases answer <;> exact validated

theorem begin_of_validated (validated : display.validated = some validation)
    (call : BackendCall) (proposal : Proposal) :
    display.begin call ≠ .asking (.prepare proposal) := by
  intro asked
  cases call with
  | validate => simp [begin, beginValidate, validated, Begun.map] at asked
  | present =>
      simp only [begin] at asked
      cases begun : display.beginPresent <;> simp [begun, Begun.map] at asked
  | setActiveConfig id =>
      simp only [begin] at asked
      cases begun : display.beginSetActiveConfig id <;> simp [begun, Begun.map] at asked
  | setPowerMode mode => simp [begin] at asked

end Display

/-! ## What a client is told -/

variable {σ : Type}

/-- A validation from its beginning to its end, as the call of a client. -/
theorem Display.run_validate (display : Display) (backend : Backend σ) (state : σ) :
    (display.run backend .validate state).1.result
      = (display.validateWith fun frame => (backend.prepare frame state).1).1.map .summary := by
  simp only [Display.run, Display.begin, Display.validateWith]
  cases display.beginValidate <;> rfl

namespace Device

variable {device : Device} {access : Access}

theorem conclude_result (device : Device) (id : DisplayId) (call : BackendCall)
    (outcome : Outcome CallResult) : (device.conclude id call outcome).result = outcome.result := by
  unfold conclude
  dsimp only
  split <;> rename_i ended <;> exact ended.symm

/-- A call of the device that reaches the display runs there, and the device concludes it. -/
theorem run_eq {id : DisplayId} (found : (device.find id).isOk = true) (backend : Backend σ)
    (call : BackendCall) (state : σ) :
    device.run id backend call state
      = (device.conclude id call (device.display.run backend call state).1,
        (device.display.run backend call state).2) := by
  cases known : device.find id with
  | error cause => simp [known, Except.isOk, Except.toBool] at found
  | ok display =>
      rw [find_eq_ok known] at known
      simp only [run, begin, known, Display.run]
      cases device.display.begin call <;> rfl

/-- A call that reaches the display tells the client what comes of it there. -/
theorem runAt_result (reached : device.reaches access = true) (backend : Backend σ)
    (call : BackendCall) (state : σ) :
    (device.runAt backend access call state).result
      = (device.display.run backend call state).1.result := by
  cases access with
  | display => rfl
  | device id =>
      rw [runAt, run_eq reached]
      exact device.conclude_result id call _

/-- What a call asks the backend is what the display asks. -/
theorem asking_of_beginAt {call : BackendCall} {question : Question}
    (asks : device.beginAt access call = .inr question) :
    device.display.begin call = .asking question := by
  cases reached : device.reaches access with
  | false =>
      rw [beginAt_of_not_reaches reached] at asks
      cases asks
  | true =>
      cases begun : device.display.begin call with
      | finished result notices =>
          obtain ⟨after, beginning, -⟩ := beginAt_of_finished reached begun
          rw [beginning] at asks
          cases asks
      | asking other =>
          rw [beginAt_of_asking reached begun] at asks
          rw [Sum.inr.inj asks]

end Device

/-! ## Runs -/

namespace System

variable {backend : Backend σ} {system : System σ} {validation : Validation}

theorem prepares?_of_validated (validated : system.device.display.validated = some validation)
    (action : Action) : system.prepares? action = none := by
  cases action with
  | ask access call =>
      simp only [prepares?]
      split
      · rename_i asked
        exact absurd (Device.asking_of_beginAt asked) (Display.begin_of_validated validated call _)
      · rfl
  | _ => rfl

theorem reports_of_validated (validated : system.device.display.validated = some validation) :
    system.Reports backend validation.typeChanges validation.requests where
  validating := by
    intro access reached
    have begun : system.device.display.beginValidate = .finished (.ok validation.summary) [] := by
      simp only [Display.beginValidate, validated]
    rw [Device.runAt_result reached, Display.run_validate]
    simp only [Display.validateWith, begun]
    rfl
  changes := by simp only [Display.changedCompositions, validated]
  requests := by simp only [Display.requests, validated]

/-- An action that has no frame prepared does not depend on how that would be answered. -/
theorem step_of_unprepared {action : Action} (unprepared : system.prepares? action = none)
    (prepare : Frame → σ → Except BackendError (List Decision) × σ) :
    system.step { backend with prepare := prepare } action = system.step backend action := by
  cases action with
  | ask access call =>
      simp only [prepares?] at unprepared
      simp only [step, ask]
      cases begun : system.device.beginAt access call with
      | inl device => rfl
      | inr question =>
          cases question with
          | prepare proposal => simp [begun] at unprepared
          | commit frame => cases access <;> rfl
          | activeConfig id index => rfl
          | powerMode mode => rfl
  | answer =>
      simp only [step]
      cases system.waiting with
      | nil => rfl
      | cons first rest =>
          obtain ⟨access, switch⟩ := first
          cases switch <;> cases access <;> rfl
  | call access call => cases access <;> rfl
  | _ => rfl

theorem run_of_unprepared {actions : List Action}
    (unprepared : system.prepared backend actions = [])
    (prepare : Frame → σ → Except BackendError (List Decision) × σ) :
    system.run { backend with prepare := prepare } actions = system.run backend actions := by
  induction actions generalizing system with
  | nil => rfl
  | cons action rest ih =>
      obtain ⟨here, later⟩ := List.append_eq_nil_iff.mp unprepared
      rw [run, run, step_of_unprepared (Option.toList_eq_nil_iff.mp here)]
      exact ih later

theorem deeds_append (backend : Backend σ) (system : System σ) (first later : List Action) :
    system.deeds backend (first ++ later)
      = system.deeds backend first ++ (system.run backend first).deeds backend later := by
  induction first generalizing system with
  | nil => rfl
  | cons action rest ih => simp only [List.cons_append, deeds, run, ih]

/-- Without a mutation a validation stands, but for the overrides that are accepted. -/
theorem validated_run (sound : system.Sound)
    (validated : system.device.display.validated = some validation) {actions : List Action}
    (still : .mutation ∉ system.deeds backend actions) :
    (system.run backend actions).device.display.validated
        = some (validation.since (system.deeds backend actions))
      ∧ system.prepared backend actions = [] := by
  induction actions generalizing system validation with
  | nil => exact ⟨validated, rfl⟩
  | cons action rest ih =>
      simp only [deeds, List.mem_cons, not_or] at still
      have next : (system.step backend action).device.display.validated
          = some (validation.since [system.device.display.deed (system.turn backend action)]) := by
        rw [step_display]
        exact Display.validated_turn sound.stacked validated (Ne.symm still.1)
      obtain ⟨stands, unprepared⟩ := ih (sound_step sound backend action) next still.2
      refine ⟨?_, ?_⟩
      · rw [run, stands, Validation.since_cons, deeds]
      · rw [prepared, prepares?_of_validated validated, unprepared]
        rfl

/-- **Without an effective mutation, validating again asks nothing and tells the same.** -/
theorem repeats_run (opened : system.Opened backend) {actions later : List Action}
    (validated : (system.run backend actions).device.display.state ≠ .modified)
    (still : .mutation ∉ (system.run backend actions).deeds backend later) :
    (system.run backend actions).Repeats backend later := by
  have sound := sound_run (sound_of_opened opened) backend actions
  generalize system.run backend actions = reached at validated still sound ⊢
  cases record : reached.device.display.validated with
  | none =>
      rw [Display.state_eq, Display.outstanding?, record] at validated
      exact absurd rfl validated
  | some validation =>
      have unprepared := (validated_run sound record still).2
      refine ⟨unprepared, run_of_unprepared unprepared, validation.typeChanges,
        validation.requests, ?_⟩
      rintro first ⟨rest, rfl⟩
      rw [deeds_append, List.mem_append, not_or] at still
      have stands : (reached.run backend first).Reports backend
          (validation.since (reached.deeds backend first)).typeChanges
          (validation.since (reached.deeds backend first)).requests :=
        reports_of_validated (validated_run sound record still.1).1
      unfold Validation.since at stands
      split at stands <;> rename_i whether
      · rw [if_pos whether]
        exact stands
      · rw [if_neg whether]
        exact stands

/-- A layer asks for the hardware and the backend leaves it to the client, which then accepts. -/
def leftRun : List Action :=
  [.createLayer ⟨1⟩, .call (.device ⟨1⟩) (.edit ⟨1⟩ (.composition .device)),
    .ask (.device ⟨1⟩) .validate]

/-- None of these changes anything that the validated frame is made of. -/
def idleRun : List Action :=
  [.ask .display .validate, .call (.device ⟨1⟩) (.edit ⟨1⟩ (.z 0)),
    .call (.device ⟨1⟩) .acceptChanges, .ask (.device ⟨1⟩) .validate,
    .call (.device ⟨1⟩) (.clientTarget (some ⟨9⟩) .noop ⟨0⟩ []), .ask (.device ⟨1⟩) .present,
    .destroyLayer ⟨1⟩ ⟨9⟩, .ask .display (.setPowerMode .off), .answer]

theorem repeats_run_left :
    ((onScript [(0, .framebuffer)]).run .scripted leftRun).device.display.state ≠ .modified
      ∧ .mutation ∉ ((onScript [(0, .framebuffer)]).run .scripted leftRun).deeds .scripted idleRun
      ∧ ((onScript [(0, .framebuffer)]).run .scripted leftRun).Repeats .scripted idleRun := by
  have validated :
      ((onScript [(0, .framebuffer)]).run .scripted leftRun).device.display.state ≠ .modified := by
    decide +kernel
  have still : .mutation
      ∉ ((onScript [(0, .framebuffer)]).run .scripted leftRun).deeds .scripted idleRun := by
    decide +kernel
  exact ⟨validated, still, repeats_run (opened_onScript _) validated still⟩

end System

end Scanout
