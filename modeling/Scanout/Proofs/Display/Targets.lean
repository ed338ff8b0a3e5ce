import Scanout.Proofs.Display.Commit

/-!
# The client target's slot

The list that a backend is shown ends with the slot of the client target. A proposed list has no
other such slot, since no layer asks for the client target's place. A committed list carries the
backend's decisions instead, and a decision is taken as it comes: if the backend decides that a
layer is the client target, the list has the client target twice. `Display.targets_of_remembered`
says where the placements of a list come from, and when the client target's slot is the only one.
-/

set_option autoImplicit false

namespace Scanout

def Frame.placements (frame : Frame) : List Placement := frame.slots.map (·.placement)

/-- The list has one slot for the client target and ends with it. -/
structure Frame.HasOneTarget (frame : Frame) : Prop where
  once : frame.placements.count .framebufferTarget = 1
  last : frame.placements.getLast? = some .framebufferTarget

theorem Frame.hasOneTarget_iff {frame : Frame} {layers : List Placement}
    (placed : frame.placements = layers ++ [.framebufferTarget]) :
    frame.HasOneTarget ↔ .framebufferTarget ∉ layers := by
  have counted : frame.placements.count .framebufferTarget
      = layers.count .framebufferTarget + 1 := by
    rw [placed, List.count_append, List.count_singleton_self]
  constructor
  · rintro ⟨once, _⟩
    rw [counted] at once
    exact List.count_eq_zero.mp (by omega)
  · intro free
    refine ⟨?_, placed ▸ List.getLast?_concat⟩
    rw [counted, List.count_eq_zero.mpr free]

theorem Layer.placement_slot_ne (layer : Layer) : layer.slot.placement ≠ .framebufferTarget := by
  change layer.requested.1 ≠ .framebufferTarget
  unfold Layer.requested
  split
  · exact Placement.noConfusion
  · split <;> exact Placement.noConfusion

/-- The placements that the backend has decided on for the layers, back to front. -/
def Negotiation.layerPlacements (negotiation : Negotiation) : List Placement :=
  negotiation.decisions.dropLast.map (·.placement)

namespace Display

variable {display : Display}

/-- Where the client target stands in the lists that a display asks its backend about. -/
structure Targets (display : Display) (memory : Memory) : Prop where
  proposed : ∀ proposal, display.beginValidate = .asking proposal → proposal.frame.HasOneTarget
  committed : ∀ frame, display.beginPresent = .asking frame →
    ∃ negotiation, memory.negotiation = some negotiation
      ∧ frame.placements = negotiation.layerPlacements ++ [.framebufferTarget]
      ∧ (frame.HasOneTarget ↔ .framebufferTarget ∉ negotiation.layerPlacements)

theorem Proposes.hasOneTarget {proposal : Proposal} (proposes : display.Proposes proposal) :
    proposal.frame.HasOneTarget := by
  obtain ⟨config, _, target⟩ := proposes.target
  have placed : proposal.frame.placements
      = display.stack.map (·.slot.placement) ++ [.framebufferTarget] := by
    simp only [Frame.placements, Proposal.frame, proposes.layers, target, List.map_append,
      List.map_map, List.map_cons, List.map_nil]
    rfl
  rw [Frame.hasOneTarget_iff placed, List.mem_map]
  rintro ⟨layer, _, same⟩
  exact layer.placement_slot_ne same

/-- The decided slots have the placements of the decisions, but for the one on the client target. -/
theorem Agreed.placements {negotiation : Negotiation} {validation : Validation}
    (agreed : display.Agreed negotiation validation) :
    validation.proposal.layers.map (·.2.placement) = negotiation.layerPlacements := by
  -- there is one decision more than there are layers, the one on the client target
  have complete := agreed.complete
  unfold Proposal.slotCount at complete
  have shorter : negotiation.decisions.dropLast
      = negotiation.decisions.take negotiation.proposal.layers.length := by
    rw [List.dropLast_eq_take, complete, Nat.add_sub_cancel]
  have paired : (negotiation.proposal.layers.zip negotiation.decisions).map (·.2)
      = negotiation.decisions.dropLast := by
    rw [shorter, List.zip_eq_zip_take_min]
    have least : min negotiation.proposal.layers.length negotiation.decisions.length
        = negotiation.proposal.layers.length := by omega
    rw [least, List.take_length]
    exact List.map_snd_zip (by simp [complete])
  rw [agreed.slots, List.map_map, Negotiation.layerPlacements, ← paired, List.map_map]
  rfl

theorem Agreed.placements_commitFrame {negotiation : Negotiation} {validation : Validation}
    (agreed : display.Agreed negotiation validation) :
    (display.commitFrame validation.proposal).placements
      = negotiation.layerPlacements ++ [.framebufferTarget] := by
  obtain ⟨config, _, target⟩ := agreed.target
  have last : (display.commitTarget validation.proposal.target).placement
      = .framebufferTarget := by
    rw [target]
    rfl
  have layers : (validation.proposal.layers.map display.commitSlot).map (·.placement)
      = negotiation.layerPlacements := by
    rw [← agreed.placements, List.map_map]
    exact List.map_congr_left fun entry _ => display.placement_commitSlot entry
  rw [Frame.placements, commitFrame, List.map_append, layers, List.map_singleton, last]

theorem targets_of_remembered {memory : Memory} (remembered : display.Remembered memory) :
    display.Targets memory where
  proposed := by
    intro proposal asking
    exact (proposes_of_propose (beginValidate_eq_asking asking).2).hasOneTarget
  committed := by
    intro frame asking
    obtain ⟨validation, validated, _, _, rfl⟩ := beginPresent_eq_asking asking
    obtain ⟨negotiation, known, agreed⟩ := remembered.agreed validation validated
    have placed := agreed.placements_commitFrame
    exact ⟨negotiation, known, placed, Frame.hasOneTarget_iff placed⟩

end Display

namespace System

variable {σ : Type}

/-- Every list that a display proposes has one slot for the client target, at its end. A list that
it commits also ends with that slot, which is the only one exactly if the backend has not decided
that a layer is the client target. -/
theorem targets_run {backend : Backend σ} {system : System σ} (opened : system.Opened backend)
    (actions : List Action) :
    (system.run backend actions).device.display.Targets (system.memory backend actions) :=
  Display.targets_of_remembered (remembered_run opened actions).2

/-- A layer for the client behind one on a plane, accepted and ready to be shown. -/
def planeRun : List Action :=
  [.createLayer ⟨1⟩, .createLayer ⟨1⟩,
    .call (.device ⟨1⟩) (.edit ⟨2⟩ (.composition .device)), .ask (.device ⟨1⟩) .validate,
    .call (.device ⟨1⟩) .acceptChanges, .call .display (.clientTarget (some ⟨9⟩) .noop .unknown [])]

theorem targets_run_plane :
    (onScript [(1, .overlay)]).Opened .scripted
      ∧ ∃ frame, ((onScript [(1, .overlay)]).run .scripted planeRun).device.display.beginPresent
          = .asking frame
        ∧ frame.placements = [.framebuffer, .overlay, .framebufferTarget]
        ∧ frame.HasOneTarget := by
  have targets := targets_run (opened_onScript [(1, .overlay)]) planeRun
  obtain ⟨negotiation, known, placed, once⟩ := targets.committed _ rfl
  obtain rfl := (Option.some.inj known).symm
  refine ⟨opened_onScript _, _, rfl, placed, once.mpr ?_⟩
  decide

/-- The backend decides that a layer is the client target: the committed list has it twice. -/
theorem targets_forced :
    ∃ frame, ((onScript [(0, .framebufferTarget)]).run .scripted
        [.createLayer ⟨1⟩, .call (.device ⟨1⟩) (.edit ⟨1⟩ (.composition .device)),
          .ask (.device ⟨1⟩) .validate]).device.display.beginPresent = .asking frame
      ∧ frame.placements = [.framebufferTarget, .framebufferTarget]
      ∧ ¬frame.HasOneTarget := by
  refine ⟨_, rfl, rfl, ?_⟩
  rintro ⟨once, _⟩
  exact absurd once (by decide)

end System

end Scanout
