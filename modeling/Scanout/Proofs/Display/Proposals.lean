import Scanout.Proofs.Display.Stacking

/-!
# Proposals and what becomes of them

A proposal names the layers back to front. Since the backend leaves the display alone while it
decides, all layers of a proposal are still there when its decisions arrive, and every decision is
written into its slot.
-/

set_option autoImplicit false

namespace Scanout

/-- In a proposed list the slots of layers lie before the client target's. -/
theorem Proposal.frame_slot {proposal : Proposal} {index : Nat} {entry : LayerId × Slot}
    (there : proposal.layers[index]? = some entry) :
    proposal.frame.slots[index]? = some entry.2 := by
  have mapped : (proposal.layers.map (·.2))[index]? = some entry.2 := by
    rw [List.getElem?_map, there]
    rfl
  exact List.getElem?_append_left (List.getElem?_eq_some_iff.mp mapped).1 ▸ mapped

namespace Display

theorem layerSlots_eq (display : Display) :
    display.layerSlots = display.stack.map fun layer => (layer.id, layer.slot) := by
  unfold layerSlots stack
  rw [List.map_filterMap]
  congr 1
  funext id
  cases found : display.layer? id with
  | none => rfl
  | some layer => simp [id_of_layer? found]

structure Proposes (display : Display) (proposal : Proposal) : Prop where
  layers : proposal.layers = display.stack.map fun layer => (layer.id, layer.slot)
  target : ∃ config, display.activeConfig? = some config
    ∧ proposal.target = .clientTarget config.shape.width config.shape.height
  geometryChanged : proposal.geometryChanged = (display.needsFullResend
    || decide (0 < display.dirtyLayers)
    || display.preparedLayers != some proposal.layers.length)

theorem proposes_of_propose {display : Display} {proposal : Proposal}
    (proposed : display.propose = .ok proposal) : display.Proposes proposal := by
  unfold propose at proposed
  split at proposed
  · cases proposed
  · rename_i config active
    obtain rfl := Except.ok.inj proposed
    exact ⟨display.layerSlots_eq, ⟨config, active, rfl⟩, rfl⟩

namespace Proposes

variable {display : Display} {proposal : Proposal}

theorem ids (proposes : display.Proposes proposal) (stacked : display.Stacked) :
    proposal.layers.map (·.1) = display.layersInOrder := by
  rw [proposes.layers, List.map_map, ← stack_ids stacked]
  rfl

theorem layer? (proposes : display.Proposes proposal) {entry : LayerId × Slot}
    (member : entry ∈ proposal.layers) :
    ∃ layer, display.layer? entry.1 = some layer ∧ entry.2 = layer.slot := by
  rw [proposes.layers] at member
  obtain ⟨layer, there, rfl⟩ := List.mem_map.mp member
  exact ⟨layer, layer?_of_mem_stack there, rfl⟩

/-- Every decision reaches its slot. -/
theorem decideSlots (proposes : display.Proposes proposal) (decisions : List Decision) :
    (proposal.layers.zip decisions).map (display.latchLayers proposal).decideSlot
      = (proposal.layers.zip decisions).map fun (entry, decision) =>
          (entry.1, { entry.2 with placement := decision.placement }) := by
  refine List.map_congr_left ?_
  rintro ⟨entry, decision⟩ member
  obtain ⟨layer, found, _⟩ := proposes.layer? (List.of_mem_zip member).1
  obtain ⟨latched, still, _⟩ := (display.amends_latchLayers proposal).layers found
  simp [decideSlot, still]

end Proposes

end Display

end Scanout
