import Scanout.Proofs.Device.Answered
import Scanout.Proofs.Display.Overrides
import Scanout.Proofs.Display.Targets

/-!
# How presenting ends

Presenting is refused unless the display is validated with all overrides accepted, and refused again
if the kept frame leaves a layer to the client while the client target that it then requires is not
there. Otherwise the backend is asked, once, to commit the kept frame, and the client is told what
comes of that.

However a presentation ends, the display stays validated. What it would commit depends on nothing
that a presentation changes (`beginPresent_deliver`), so presenting again commits the same frame.
-/

set_option autoImplicit false

namespace Scanout

namespace Display

/-- Some layer's slot of the kept frame is left to the client. -/
def LeavesToClient (display : Display) : Prop :=
  ∃ validation, display.validated = some validation
    ∧ ∃ entry ∈ validation.proposal.layers, entry.2.placement = .framebuffer

/-- The kept frame requires a client target, and there is none. -/
def WantsTarget (display : Display) : Prop :=
  display.requireClientTarget = true ∧ display.clientTarget.buffer = none
    ∧ display.LeavesToClient

/-- The kept frame has a slot for each layer, back to front, placed as the backend decided. -/
structure KeepsFrame (display : Display) (negotiation : Negotiation) (validation : Validation) :
    Prop where
  layers : ∃ layers, display.BackToFront layers
    ∧ validation.proposal.layers.map (·.1) = layers.map (·.id)
  placements : validation.proposal.layers.map (·.2.placement) = negotiation.layerPlacements

end Display

/-- What a client is told after a commit of this many slots. -/
def commitVerdict (slots : Nat) : Except BackendError CommitFences → Except Error CallResult
  | .error _ => .error .noResources
  | .ok fences =>
    if fences.release.length = slots then .ok (.fence fences.retire) else .error .noResources

variable {σ τ : Type}

/-- How presenting ends with a backend in this state. -/
structure Device.Presents (device : Device) (backend : Backend τ) (access : Access) (state : τ) :
    Prop where
  unvalidated : device.display.state ≠ .validatedNoChanges →
    (device.runAt backend access .present state).result = .error .notValidated
      ∧ device.committedAt backend access .present state = []
  untargeted : device.display.state = .validatedNoChanges → device.display.WantsTarget →
    (device.runAt backend access .present state).result = .error .badDisplay
      ∧ device.committedAt backend access .present state = []
      ∧ (device.runAt backend access .present state).device.display = device.display
  committed : device.display.state = .validatedNoChanges → ¬device.display.WantsTarget →
    ∃ frame, device.committedAt backend access .present state = [frame]
      ∧ (device.runAt backend access .present state).result
        = commitVerdict (device.display.layers.length + 1) (backend.commit frame state).1
      ∧ (device.runAt backend access .present state).device.display.state = .validatedNoChanges
      -- whichever backend is asked next, and however that answers
      ∧ ∀ {υ : Type} (again : Backend υ) (access' : Access) (later : υ),
        device.reaches access' = true →
        (device.runAt backend access .present state).device.committedAt again access' .present
          later = [frame]

namespace Display

variable {display after : Display} {validation : Validation} {negotiation : Negotiation}

/-! ## The first half -/

theorem beginPresent_of_unsettled (unsettled : display.state ≠ .validatedNoChanges) :
    display.beginPresent = .finished (.error .notValidated) [] := by
  unfold state at unsettled
  unfold beginPresent
  cases record : display.validated with
  | none => rfl
  | some validation =>
      cases accepted : validation.typeChanges.isEmpty with
      | false => simp [accepted]
      | true => simp [record, accepted] at unsettled

theorem validated_of_settled (settled : display.state = .validatedNoChanges) :
    ∃ validation, display.validated = some validation ∧ validation.typeChanges = [] := by
  unfold state at settled
  cases record : display.validated with
  | none => simp [record] at settled
  | some validation =>
      refine ⟨validation, rfl, ?_⟩
      by_contra waiting
      simp [record, waiting] at settled

theorem composesAny_iff (agreed : display.Agreed negotiation validation) :
    display.composesAny validation.proposal = true
      ↔ ∃ entry ∈ validation.proposal.layers, entry.2.placement = .framebuffer := by
  -- no layer of the kept frame has gone, or the record would have been dropped
  have live : ∀ entry ∈ validation.proposal.layers, (display.layer? entry.1).isSome = true := by
    intro entry member
    rw [agreed.slots] at member
    obtain ⟨⟨proposed, decision⟩, zipped, rfl⟩ := List.mem_map.mp member
    obtain ⟨layer, copied, found, -⟩ := agreed.copied proposed (List.of_mem_zip zipped).1
    exact Option.isSome_iff_exists.mpr ⟨layer, found⟩
  simp only [composesAny, List.any_eq_true, Bool.and_eq_true, beq_iff_eq]
  constructor
  · rintro ⟨entry, member, -, left⟩
    exact ⟨entry, member, left⟩
  · rintro ⟨entry, member, left⟩
    exact ⟨entry, member, live entry member, left⟩

theorem lacksClientTarget_iff (agreed : display.Agreed negotiation validation)
    (validated : display.validated = some validation) :
    display.lacksClientTarget validation.proposal = true ↔ display.WantsTarget := by
  have left : display.LeavesToClient
      ↔ ∃ entry ∈ validation.proposal.layers, entry.2.placement = .framebuffer := by
    constructor
    · rintro ⟨other, record, drawn⟩
      obtain rfl := Option.some.inj (validated.symm.trans record)
      exact drawn
    · exact fun drawn => ⟨validation, validated, drawn⟩
  simp only [lacksClientTarget, WantsTarget, Bool.and_eq_true, Option.isNone_iff_eq_none, left,
    composesAny_iff agreed]
  tauto

theorem beginPresent_of_settled (agreed : display.Agreed negotiation validation)
    (validated : display.validated = some validation) (accepted : validation.typeChanges = []) :
    (display.WantsTarget →
        display.beginPresent = .finished (.error .badDisplay) [.clientTargetMissing display.id])
      ∧ (¬display.WantsTarget →
        display.beginPresent = .asking (display.commitFrame validation.proposal)) := by
  have known := lacksClientTarget_iff agreed validated
  constructor
  · intro wants
    simp [beginPresent, validated, accepted, known.mpr wants]
  · intro has
    simp [beginPresent, validated, accepted, Bool.eq_false_iff.mpr (mt known.mp has)]

theorem keepsFrame_of_agreed (stacked : display.Stacked)
    (agreed : display.Agreed negotiation validation) :
    display.KeepsFrame negotiation validation where
  layers :=
    ⟨display.stack, backToFront_stack stacked, agreed.slotIds.trans (stack_ids stacked).symm⟩
  placements := agreed.placements

/-! ## What a presentation leaves alone -/

theorem geometry_foldl_pushReleaseFence (shares : List (LayerId × Fence)) (display : Display)
    (id : LayerId) :
    ((shares.foldl pushReleaseFence display).layer? id).map (·.geometry)
      = (display.layer? id).map (·.geometry) := by
  induction shares generalizing display with
  | nil => rfl
  | cons share rest ih =>
      rw [List.foldl_cons, ih, layer?_pushReleaseFence, Option.map_map]
      congr 1
      funext layer
      by_cases here : id = share.1
      · simp [here, Layer.pushReleaseFence]
      · simp [here]

theorem commitSlot_congr {entry : LayerId × Slot}
    (same : (after.layer? entry.1).map (·.geometry) = (display.layer? entry.1).map (·.geometry)) :
    after.commitSlot entry = display.commitSlot entry := by
  unfold commitSlot
  cases there : display.layer? entry.1 with
  | none =>
      rw [there, Option.map_none, Option.map_eq_none_iff] at same
      rw [same]
  | some layer =>
      rw [there, Option.map_some, Option.map_eq_some_iff] at same
      obtain ⟨amended, still, geometry⟩ := same
      rw [still]
      simp only [geometry]

/-- Presenting asks for the same frame again after a presentation. -/
theorem beginPresent_deliver (display : Display) (fences : CommitFences) :
    (display.deliver fences).beginPresent = display.beginPresent := by
  have amends := amends_foldl_pushReleaseFence (display.releaseShares fences) display
  have geometry : ∀ id, ((display.deliver fences).layer? id).map (·.geometry)
      = (display.layer? id).map (·.geometry) :=
    geometry_foldl_pushReleaseFence (display.releaseShares fences) display
  have there : ∀ id,
      ((display.deliver fences).layer? id).isSome = (display.layer? id).isSome := by
    intro id
    simpa using congrArg Option.isSome (geometry id)
  have slots : (display.deliver fences).commitSlot = display.commitSlot := by
    funext entry
    exact commitSlot_congr (geometry entry.1)
  have composes : (display.deliver fences).composesAny = display.composesAny := by
    funext proposal
    simp only [composesAny, there]
  obtain ⟨layers, dirtyLayers, confined⟩ := amends.confined
  have same : display.deliver fences = { display with
      layers := layers
      dirtyLayers := dirtyLayers
      retireFence := fences.retire
      framesPresented := display.framesPresented + 1 } := by
    rw [deliver, confined]
  unfold beginPresent lacksClientTarget commitFrame
  rw [slots, composes, same]
  rfl

theorem state_deliver (display : Display) (fences : CommitFences) :
    (display.deliver fences).state = display.state := by
  have amends := amends_foldl_pushReleaseFence (display.releaseShares fences) display
  have validated : (display.deliver fences).validated = display.validated := amends.validated
  unfold state
  rw [validated]

/-- A display that has committed a frame, or has tried to, would commit it again. -/
theorem finishPresent_again (display : Display) (frame : Frame)
    (answer : Except BackendError CommitFences) :
    let after := (display.finishPresent frame answer).display
    after.beginPresent = display.beginPresent ∧ after.state = display.state
      ∧ after.id = display.id := by
  cases answer with
  | error cause => exact ⟨rfl, rfl, rfl⟩
  | ok fences =>
      simp only [finishPresent]
      split
      · refine ⟨display.beginPresent_deliver fences, display.state_deliver fences, ?_⟩
        have amends := amends_foldl_pushReleaseFence (display.releaseShares fences) display
        obtain ⟨layers, dirtyLayers, confined⟩ := amends.confined
        simp only [deliver, confined]
      · exact ⟨rfl, rfl, rfl⟩

theorem finishPresent_result (display : Display) (frame : Frame)
    (answer : Except BackendError CommitFences) :
    (display.finishPresent frame answer).result.map .fence
      = commitVerdict frame.slots.length answer := by
  cases answer with
  | error cause => cases cause <;> rfl
  | ok fences =>
      simp only [finishPresent, commitVerdict]
      split <;> rfl

/-! ## A presentation from its beginning to its end -/

theorem run_present_finished {result : Except Error Fence} {notices : List Notice}
    (begun : display.beginPresent = .finished result notices) (backend : Backend τ) (state : τ) :
    display.run backend .present state = (⟨result.map .fence, display, notices⟩, state) := by
  simp only [run, begin, begun, Begun.map]

theorem run_present_asking {frame : Frame} (begun : display.beginPresent = .asking frame)
    (backend : Backend τ) (state : τ) :
    display.run backend .present state
      = ((display.finishPresent frame (backend.commit frame state).1).map .fence,
        (backend.commit frame state).2) := by
  simp only [run, begin, begun, Begun.map, complete]

end Display

namespace Device

variable {device after : Device} {access : Access}

theorem reaches_congr (same : after.display.id = device.display.id) (access : Access) :
    after.reaches access = device.reaches access := by
  cases access with
  | display => rfl
  | device id =>
      simp only [reaches, find, same]
      split <;> rfl

theorem committedAt_finished (reached : device.reaches access = true)
    {result : Except Error Fence} {notices : List Notice}
    (begun : device.display.beginPresent = .finished result notices) (backend : Backend τ)
    (state : τ) : device.committedAt backend access .present state = [] := by
  rw [committedAt, backendAt_eq reached, Display.run_present_finished begun]

theorem committedAt_asking (reached : device.reaches access = true) {frame : Frame}
    (begun : device.display.beginPresent = .asking frame) (backend : Backend τ) (state : τ) :
    device.committedAt backend access .present state = [frame] := by
  rw [committedAt, backendAt_eq reached, Display.run_present_asking begun]
  rfl

theorem presents_of_remembered {memory : Memory} (stacked : device.display.Stacked)
    (remembered : device.display.Remembered memory) (reached : device.reaches access = true)
    (backend : Backend τ) (state : τ) : device.Presents backend access state where
  unvalidated := by
    intro unsettled
    have begun := Display.beginPresent_of_unsettled unsettled
    rw [runAt_result reached, Display.run_present_finished begun]
    exact ⟨rfl, committedAt_finished reached begun backend state⟩
  untargeted := by
    intro settled wants
    obtain ⟨validation, validated, accepted⟩ := Display.validated_of_settled settled
    obtain ⟨negotiation, -, agreed⟩ := remembered.agreed validation validated
    have begun := (Display.beginPresent_of_settled agreed validated accepted).1 wants
    rw [runAt_result reached, display_runAt reached, Display.run_present_finished begun]
    exact ⟨rfl, committedAt_finished reached begun backend state, rfl⟩
  committed := by
    intro settled has
    obtain ⟨validation, validated, accepted⟩ := Display.validated_of_settled settled
    obtain ⟨negotiation, -, agreed⟩ := remembered.agreed validation validated
    have begun := (Display.beginPresent_of_settled agreed validated accepted).2 has
    have slots : (device.display.commitFrame validation.proposal).slots.length
        = device.display.layers.length + 1 := by
      rw [agreed.length_commitFrame stacked,
        (Display.backToFront_stack stacked).perm.length_eq]
    obtain ⟨again, state', same⟩ := device.display.finishPresent_again
      (device.display.commitFrame validation.proposal)
      (backend.commit (device.display.commitFrame validation.proposal) state).1
    have display : (device.runAt backend access .present state).device.display
        = (device.display.finishPresent (device.display.commitFrame validation.proposal)
          (backend.commit (device.display.commitFrame validation.proposal) state).1).display := by
      rw [display_runAt reached, Display.run_present_asking begun]
      rfl
    refine ⟨_, committedAt_asking reached begun backend state, ?_, ?_, ?_⟩
    · rw [runAt_result reached, Display.run_present_asking begun, ← slots]
      exact device.display.finishPresent_result _ _
    · rw [display, state', settled]
    · intro υ next access' later reached'
      apply committedAt_asking
      · rw [reaches_congr (display ▸ same)]
        exact reached'
      · rw [display, again, begun]

end Device

namespace System

/-- **How presenting ends, in every state and with every backend.** -/
theorem presents_run {backend : Backend σ} {system : System σ} (opened : system.Opened backend)
    (actions : List Action) {access : Access}
    (reached : (system.run backend actions).device.reaches access = true) :
    (∀ {τ : Type} (answering : Backend τ) (state : τ),
        (system.run backend actions).device.Presents answering access state)
      ∧ ∀ validation, (system.run backend actions).device.display.validated = some validation →
        ∃ negotiation, (system.memory backend actions).negotiation = some negotiation
          ∧ (system.run backend actions).device.display.KeepsFrame negotiation validation := by
  obtain ⟨stacked, remembered⟩ := remembered_run opened actions
  constructor
  · intro τ answering state
    exact Device.presents_of_remembered stacked remembered reached answering state
  · intro validation validated
    obtain ⟨negotiation, known, agreed⟩ := remembered.agreed validation validated
    exact ⟨negotiation, known, Display.keepsFrame_of_agreed stacked agreed⟩

/-- The backend hands out too few fences: the commit is lost, and presenting again asks for it
again, of whichever backend. -/
theorem presents_run_short :
    let ready := onShortScript.run .scripted readyRun
    onShortScript.Opened .scripted ∧ ready.device.reaches .display = true
      ∧ ready.device.Presents .scripted .display ready.backend
      ∧ (ready.device.runAt .scripted .display .present ready.backend).result
        = .error .noResources
      ∧ ∃ frame, ready.device.committedAt .scripted .display .present ready.backend = [frame]
        ∧ (ready.device.runAt .scripted .display .present
            ready.backend).device.committedAt .scripted (.device ⟨1⟩) .present {} = [frame] := by
  have opened : onShortScript.Opened .scripted := ⟨(opened_onScript []).device, rfl⟩
  have reached : (onShortScript.run .scripted readyRun).device.reaches .display = true := rfl
  have presents := (presents_run opened readyRun reached).1 .scripted
    (onShortScript.run .scripted readyRun).backend
  have targeted : ¬(onShortScript.run .scripted readyRun).device.display.WantsTarget := by
    rintro ⟨-, missing, -⟩
    exact absurd missing (by decide +kernel)
  obtain ⟨frame, committed, -, -, again⟩ := presents.committed (by decide +kernel) targeted
  exact ⟨opened, reached, presents, by decide +kernel, frame, committed,
    again .scripted (.device ⟨1⟩) {} (by decide +kernel)⟩

end System

end Scanout
