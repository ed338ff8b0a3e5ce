import Scanout.Proofs.Device.Opened
import Scanout.Proofs.Display.Proposals

/-!
# The frame that a display commits

A validated display keeps the slots that it proposed, with the backend's decisions written into
them, and commits this copy. Only the display frame, the acquire fence of client-composed layers and
the client target are looked up anew. `Agreed` is why the copy is not stale: as long as a display is
validated, its layers are stacked as they were when they were copied and look as they did, on the
same configuration. `Remembered` ties that to what clients and backend have done, and every turn
keeps it.

`Slot.Shows` says what follows for the slot of a layer (`Agreed.shows`).
-/

set_option autoImplicit false

namespace Scanout

/-! ## What a committed slot says -/

/-- A slot on commit, for a layer, the slot that was proposed for it and the decision on that. -/
structure Slot.Shows (slot : Slot) (layer : Layer) (proposed : Slot) (decision : Decision) :
    Prop where
  placement : slot.placement = decision.placement
  skip : slot.skip = proposed.skip
  surfaceDamage : slot.surfaceDamage = proposed.surfaceDamage
  buffer : slot.buffer = layer.content.buffer
  sourceCrop : slot.sourceCrop.Same layer.geometry.sourceCrop
  planeAlpha : SameNumber slot.planeAlpha layer.geometry.planeAlpha
  blend : slot.blend = layer.geometry.blend
  transform : slot.transform = layer.geometry.transform
  color : slot.color = layer.geometry.color
  displayFrame : slot.displayFrame = layer.geometry.displayFrame
  acquireFence : slot.acquireFence
    = if slot.placement = .framebuffer then .noop else layer.content.fence

namespace Display

/-! ## Displays that look as before -/

/-- The layers are stacked as before and look as before, on the same configuration. -/
structure Steady (display after : Display) : Prop where
  order : after.order = display.order
  config : after.activeConfig? = display.activeConfig?
  layers : ∀ {id : LayerId} {layer : Layer}, display.layer? id = some layer →
    ∃ amended, after.layer? id = some amended ∧ layer.Alike amended

namespace Steady

variable {display after : Display}

theorem of_amends (amends : Amends Layer.Alike display after) : display.Steady after where
  order := amends.order
  config := amends.activeConfig
  layers := amends.layers

theorem of_eq (layers : after.layers = display.layers) (order : after.order = display.order)
    (config : after.activeConfig? = display.activeConfig?) : display.Steady after where
  order := order
  config := config
  layers := by
    intro id layer found
    refine ⟨layer, ?_, Layer.Alike.refl layer⟩
    unfold layer?
    rw [layers]
    exact found

end Steady

/-! ## The copy is not stale -/

/-- A validation holds what was agreed on, and its slots copy the layers as they are. -/
structure Agreed (display : Display) (negotiation : Negotiation) (validation : Validation) :
    Prop where
  ids : negotiation.proposal.layers.map (·.1) = display.layersInOrder
  complete : negotiation.decisions.length = negotiation.proposal.slotCount
  slots : validation.proposal.layers
    = (negotiation.proposal.layers.zip negotiation.decisions).map fun (entry, decision) =>
        (entry.1, { entry.2 with placement := decision.placement })
  copied : ∀ entry ∈ negotiation.proposal.layers, ∃ layer copied : Layer,
    display.layer? entry.1 = some layer ∧ copied.Alike layer ∧ entry.2 = copied.slot
  target : ∃ config, display.activeConfig? = some config
    ∧ validation.proposal.target = .clientTarget config.shape.width config.shape.height
  geometryChanged :
    validation.proposal.geometryChanged = negotiation.proposal.geometryChanged

theorem Agreed.carry {display after : Display} {negotiation : Negotiation}
    {validation validation' : Validation} (agreed : display.Agreed negotiation validation)
    (steady : display.Steady after) (kept : validation'.proposal = validation.proposal) :
    after.Agreed negotiation validation' where
  ids := by
    unfold layersInOrder
    rw [steady.order]
    exact agreed.ids
  complete := agreed.complete
  slots := kept ▸ agreed.slots
  copied := by
    intro entry member
    obtain ⟨layer, copied, found, alike, same⟩ := agreed.copied entry member
    obtain ⟨amended, still, amendedAlike⟩ := steady.layers found
    exact ⟨amended, copied, still, alike.trans amendedAlike, same⟩
  target := by
    rw [steady.config, kept]
    exact agreed.target
  geometryChanged := kept ▸ agreed.geometryChanged

/-- What a backend has decided is agreed on. -/
theorem agreed_decided {display : Display} (stacked : display.Stacked) {proposal : Proposal}
    {decisions : List Decision} (proposed : display.propose = .ok proposal)
    (complete : decisions.length = proposal.slotCount) :
    (display.decided proposal decisions).Agreed ⟨proposal, decisions⟩
      ((display.latchLayers proposal).validationOf proposal decisions) := by
  have proposes := proposes_of_propose proposed
  have steady := Steady.of_amends (display.amends_latchLayers proposal)
  refine ⟨?_, complete, proposes.decideSlots decisions, ?_, ?_, rfl⟩
  · change _ = (display.latchLayers proposal).order.layers
    rw [steady.order]
    exact proposes.ids stacked
  · intro entry member
    obtain ⟨layer, found, same⟩ := proposes.layer? member
    obtain ⟨latched, still, alike⟩ := steady.layers found
    exact ⟨latched, layer, still, alike, same⟩
  · obtain ⟨config, active, target⟩ := proposes.target
    exact ⟨config, steady.config.trans active, target⟩

/-- What a display holds of its past. -/
structure Remembered (memory : Memory) (display : Display) : Prop where
  clientTarget : display.clientTarget = memory.clientTarget
  clientTargetDamage : display.clientTargetDamage = memory.clientTargetDamage
  outputBuffer : display.outputBuffer.buffer = memory.outputBuffer
  agreed : ∀ validation, display.validated = some validation →
    ∃ negotiation, memory.negotiation = some negotiation ∧ display.Agreed negotiation validation

namespace Remembered

variable {memory : Memory} {display after : Display}

/-- A display without a validation has only its buffers to hold. -/
theorem drop (remembered : display.Remembered memory)
    (clientTarget : after.clientTarget = display.clientTarget)
    (damage : after.clientTargetDamage = display.clientTargetDamage)
    (outputBuffer : after.outputBuffer = display.outputBuffer)
    (dropped : after.validated = none) : after.Remembered memory where
  clientTarget := clientTarget.trans remembered.clientTarget
  clientTargetDamage := damage.trans remembered.clientTargetDamage
  outputBuffer := outputBuffer ▸ remembered.outputBuffer
  agreed := by
    intro validation validated
    rw [dropped] at validated
    cases validated

/-- A display that looks as before may keep its validation. -/
theorem keep (remembered : display.Remembered memory) (steady : display.Steady after)
    (clientTarget : after.clientTarget = display.clientTarget)
    (damage : after.clientTargetDamage = display.clientTargetDamage)
    (outputBuffer : after.outputBuffer = display.outputBuffer)
    (validated : after.validated = display.validated) : after.Remembered memory where
  clientTarget := clientTarget.trans remembered.clientTarget
  clientTargetDamage := damage.trans remembered.clientTargetDamage
  outputBuffer := outputBuffer ▸ remembered.outputBuffer
  agreed := by
    intro validation found
    obtain ⟨negotiation, known, agreed⟩ := remembered.agreed validation (validated ▸ found)
    exact ⟨negotiation, known, agreed.carry steady rfl⟩

theorem keep_amended (remembered : display.Remembered memory)
    (amends : Amends Layer.Alike display after) : after.Remembered memory := by
  refine remembered.keep (Steady.of_amends amends) ?_ ?_ ?_ amends.validated
  all_goals
    obtain ⟨layers, dirtyLayers, rfl⟩ := amends.confined
    rfl

end Remembered

theorem remembered_edited {memory : Memory} {display after : Display} {id : LayerId}
    (remembered : display.Remembered memory) (edited : display.Edited id after) :
    after.Remembered memory := by
  cases edited with
  | kept => exact remembered
  | restyled found same restyled =>
      exact remembered.keep_amended
        (Amends.putLayer Layer.Alike.refl found same restyled.alike)
  | _ => exact remembered.drop rfl rfl rfl rfl

theorem remembered_accepted {memory : Memory} {display : Display} {validation : Validation}
    (remembered : display.Remembered memory) (validated : display.validated = some validation) :
    (display.accepted validation).Remembered
      { memory with accepted := memory.accepted ++ validation.typeChanges } := by
  have amends := display.amends_foldl_acceptChange validation.typeChanges
  have steady : display.Steady (display.accepted validation) := by
    obtain ⟨order, config, layers⟩ := Steady.of_amends amends
    exact ⟨order, config, layers⟩
  obtain ⟨clientTarget, damage, outputBuffer, _⟩ := remembered.keep_amended amends
  refine ⟨clientTarget, damage, outputBuffer, ?_⟩
  intro settled same
  obtain rfl := Option.some.inj same
  obtain ⟨negotiation, known, agreed⟩ := remembered.agreed validation validated
  exact ⟨negotiation, known, agreed.carry steady rfl⟩

/-- Every turn keeps what a display holds of its past. -/
theorem remembered_turned {memory : Memory} {display after : Display} {turn : Turn}
    (stacked : display.Stacked) (remembered : display.Remembered memory)
    (turned : display.Turned turn after) : after.Remembered (memory.next display turn) := by
  cases turned with
  | still forgotten => exact (forgotten memory).symm ▸ remembered
  | added => exact remembered.drop rfl rfl rfl rfl
  | removed found =>
      rw [removeLayer_eq found]
      exact remembered.drop rfl rfl rfl rfl
  | edited edited => exact remembered_edited remembered edited
  | clientTarget =>
      obtain ⟨_, _, outputBuffer, agreed⟩ := remembered
      refine ⟨rfl, rfl, outputBuffer, ?_⟩
      intro validation validated
      obtain ⟨negotiation, known, agreed⟩ := agreed validation validated
      exact ⟨negotiation, known, agreed.carry (Steady.of_eq rfl rfl rfl) rfl⟩
  | outputBuffer =>
      obtain ⟨clientTarget, damage, _, agreed⟩ := remembered
      refine ⟨clientTarget, damage, rfl, ?_⟩
      intro validation validated
      obtain ⟨negotiation, known, agreed⟩ := agreed validation validated
      exact ⟨negotiation, known, agreed.carry (Steady.of_eq rfl rfl rfl) rfl⟩
  | accepted validated =>
      simp only [Memory.next, validated]
      exact remembered_accepted remembered validated
  | colorMode => exact remembered.keep (Steady.of_eq rfl rfl rfl) rfl rfl rfl rfl
  | @negotiated prepare proposal decisions modified proposed agreed complete =>
      simp only [Memory.next, agreed]
      obtain ⟨clientTarget, damage, outputBuffer, _⟩ :=
        remembered.keep_amended (display.amends_latchLayers proposal)
      refine ⟨clientTarget, damage, outputBuffer, ?_⟩
      intro validation same
      obtain rfl := Option.some.inj same
      exact ⟨⟨proposal, decisions⟩, rfl, agreed_decided stacked proposed complete⟩
  | @presented commit frame fences asking committed complete =>
      have amends := amends_foldl_pushReleaseFence (display.releaseShares fences) display
      have alike := amends.mono Layer.Restyled.alike
      exact (remembered.keep_amended alike).keep (Steady.of_eq rfl rfl rfl) rfl rfl rfl rfl
  | switched => exact remembered.drop rfl rfl rfl rfl
  | powered => exact remembered.keep (Steady.of_eq rfl rfl rfl) rfl rfl rfl rfl

theorem remembered_after {memory : Memory} {display : Display} (stacked : display.Stacked)
    (remembered : display.Remembered memory) {turns : List Turn}
    (follows : display.Follows turns) :
    (display.after turns).Remembered (memory.through display turns) :=
  after_induction (motive := fun memory display => display.Remembered memory) remembered_turned
    memory stacked remembered follows

/-! ## From the copy to the committed frame -/

theorem beginPresent_eq_asking {display : Display} {frame : Frame}
    (asking : display.beginPresent = .asking frame) :
    ∃ validation, display.validated = some validation ∧ validation.typeChanges = []
      ∧ display.lacksClientTarget validation.proposal = false
      ∧ frame = display.commitFrame validation.proposal := by
  unfold beginPresent at asking
  cases validated : display.validated with
  | none => simp [validated] at asking
  | some validation =>
      simp only [validated] at asking
      split at asking
      · cases asking
      · rename_i accepted
        split at asking
        · cases asking
        · rename_i complete
          refine ⟨validation, rfl, ?_, ?_, (Begun.asking.inj asking).symm⟩
          · simpa using accepted
          · simpa using complete

/-- In a committed list the slots of layers lie before the client target's. -/
theorem commitFrame_slot (display : Display) {proposal : Proposal} {index : Nat}
    {entry : LayerId × Slot} (there : proposal.layers[index]? = some entry) :
    (display.commitFrame proposal).slots[index]? = some (display.commitSlot entry) := by
  have mapped : (proposal.layers.map display.commitSlot)[index]?
      = some (display.commitSlot entry) := by
    rw [List.getElem?_map, there]
    rfl
  exact List.getElem?_append_left (List.getElem?_eq_some_iff.mp mapped).1 ▸ mapped

/-- A decision stands when the frame is committed. -/
theorem placement_commitSlot (display : Display) (entry : LayerId × Slot) :
    (display.commitSlot entry).placement = entry.2.placement := by
  unfold commitSlot
  split <;> rfl

theorem shows_commitSlot {display : Display} {entry : LayerId × Slot} {layer copied : Layer}
    (found : display.layer? entry.1 = some layer) (alike : copied.Alike layer)
    (same : entry.2 = copied.slot) (decision : Decision) :
    (display.commitSlot (entry.1, { entry.2 with placement := decision.placement })).Shows layer
      entry.2 decision := by
  obtain ⟨id, slot⟩ := entry
  obtain rfl : slot = copied.slot := same
  have fence : copied.content.fence = layer.content.fence :=
    congrArg FencedBuffer.fence alike.content
  simp only [commitSlot, found]
  exact {
    placement := rfl
    skip := rfl
    surfaceDamage := rfl
    buffer := congrArg FencedBuffer.buffer alike.content
    sourceCrop := alike.look.sourceCrop
    planeAlpha := alike.look.planeAlpha
    blend := alike.look.blend
    transform := alike.look.transform
    color := alike.look.color
    displayFrame := rfl
    acquireFence := by simp only [Layer.slot, fence] }

/-- The slots of the copy, one after the other. -/
theorem Agreed.slot {display : Display} {negotiation : Negotiation} {validation : Validation}
    (agreed : display.Agreed negotiation validation) (stacked : display.Stacked) {index : Nat}
    {layer : Layer} (there : display.stack[index]? = some layer) :
    ∃ entry decision copied, negotiation.proposal.layers[index]? = some entry
      ∧ negotiation.decisions[index]? = some decision
      ∧ validation.proposal.layers[index]?
        = some (entry.1, { entry.2 with placement := decision.placement })
      ∧ display.layer? entry.1 = some layer ∧ Layer.Alike copied layer
      ∧ entry.2 = copied.slot := by
  have number : (negotiation.proposal.layers.map (·.1))[index]? = some layer.id := by
    rw [agreed.ids, ← stack_ids stacked, List.getElem?_map, there]
    rfl
  rw [List.getElem?_map, Option.map_eq_some_iff] at number
  obtain ⟨entry, proposed, same⟩ := number
  have inside : index < negotiation.proposal.layers.length :=
    (List.getElem?_eq_some_iff.mp proposed).1
  have within : index < negotiation.decisions.length := by
    rw [agreed.complete, Proposal.slotCount]
    omega
  have decided : negotiation.decisions[index]? = some negotiation.decisions[index] :=
    List.getElem?_eq_getElem within
  obtain ⟨live, copied, found, alike, copy⟩ :=
    agreed.copied entry (List.mem_of_getElem? proposed)
  have live_eq : live = layer := by
    have here := layer?_of_mem_stack (List.mem_of_getElem? there)
    rw [← same, found] at here
    exact Option.some.inj here
  subst live_eq
  have paired : (negotiation.proposal.layers.zip negotiation.decisions)[index]?
      = some (entry, negotiation.decisions[index]) :=
    List.getElem?_zip_eq_some.mpr ⟨proposed, decided⟩
  refine ⟨entry, _, copied, proposed, decided, ?_, found, alike, copy⟩
  rw [agreed.slots, List.getElem?_map, paired]
  rfl

theorem Agreed.length {display : Display} {negotiation : Negotiation} {validation : Validation}
    (agreed : display.Agreed negotiation validation) (stacked : display.Stacked) :
    validation.proposal.layers.length = display.stack.length := by
  have named := congrArg List.length agreed.ids
  rw [← stack_ids stacked, List.length_map, List.length_map] at named
  rw [agreed.slots, List.length_map, List.length_zip, agreed.complete, Proposal.slotCount, named]
  omega

/-- The committed slots, one after the other. -/
theorem Agreed.shows {display : Display} {negotiation : Negotiation} {validation : Validation}
    (agreed : display.Agreed negotiation validation) (stacked : display.Stacked) {index : Nat}
    {layer : Layer} (there : display.stack[index]? = some layer) :
    ∃ slot proposed decision, (display.commitFrame validation.proposal).slots[index]? = some slot
      ∧ negotiation.proposal.frame.slots[index]? = some proposed
      ∧ negotiation.decisions[index]? = some decision ∧ slot.Shows layer proposed decision := by
  obtain ⟨entry, decision, copied, proposed, decided, kept, found, alike, same⟩ :=
    agreed.slot stacked there
  exact ⟨_, entry.2, decision, display.commitFrame_slot kept, Proposal.frame_slot proposed,
    decided, shows_commitSlot found alike same decision⟩

theorem Agreed.length_commitFrame {display : Display} {negotiation : Negotiation}
    {validation : Validation} (agreed : display.Agreed negotiation validation)
    (stacked : display.Stacked) :
    (display.commitFrame validation.proposal).slots.length = display.stack.length + 1 := by
  simp [commitFrame, agreed.length stacked]

end Display

namespace System

variable {σ : Type}

/-- What is remembered of the display's past after a run. -/
def memory (backend : Backend σ) (system : System σ) (actions : List Action) : Memory :=
  Memory.through {} system.device.display (system.turns backend actions)

theorem remembered_run {backend : Backend σ} {system : System σ} (opened : system.Opened backend)
    (actions : List Action) :
    (system.run backend actions).device.display.Stacked
      ∧ (system.run backend actions).device.display.Remembered
        (system.memory backend actions) := by
  have sound := sound_of_opened opened
  have follows := follows_turns sound backend actions
  have start : system.device.display.Remembered {} := by
    obtain ⟨id, name, required, configs, same⟩ := opened_display opened
    rw [same]
    exact ⟨rfl, rfl, rfl, fun validation validated => by cases validated⟩
  rw [run_display]
  exact ⟨Display.stacked_after sound.stacked follows,
    Display.remembered_after sound.stacked start follows⟩

end System

end Scanout
