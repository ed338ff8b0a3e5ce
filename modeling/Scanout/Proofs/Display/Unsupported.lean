import Scanout.Proofs.Display.Overrides

/-!
# Layers that only the client can draw

A layer with a colour space that is not supported asks to be left to the client and to be skipped,
whatever composition is pending, and no validation commits what is pending. But the backend has the
last word on its slot, and nothing makes sure that it leaves the slot to the client: what it decides
is what the layer is committed to once the override is accepted, and what the frame then carries.

`unsupported_run` says what holds: such a layer is always skipped, its slot carries what the backend
decided, and it stays committed to the client as long as the backend leaves its slot to the client.
`unsupported_overlay` is a run in which the backend does not.
-/

set_option autoImplicit false

namespace Scanout

namespace Display

variable {display after : Display}

/-! ## What commits a layer that no validation commits -/

theorem committed?_putLayer {other : LayerId} {layer changed : Layer}
    (found : display.layer? other = some layer) (same : changed.id = layer.id)
    (committed : changed.committed = layer.committed) (id : LayerId) :
    (display.putLayer changed).committed? id = display.committed? id := by
  have amends : Amends (fun layer amended => amended.committed = layer.committed) display
      (display.putLayer changed) := by
    refine Amends.putLayer ?_ found same committed
    exact fun _ => rfl
  exact committed?_congr amends.ids amends.layers id

/-- No edit commits anything. -/
theorem committed?_edited {other : LayerId} (edited : display.Edited other after) (id : LayerId) :
    after.committed? id = display.committed? id := by
  cases edited with
  | kept => rfl
  | restyled found same restyled =>
      exact committed?_putLayer found same (congrArg Latched.committed restyled.composition) id
  | @recomposed layer composition found =>
      have committed : (layer.setComposition composition).1.committed = layer.committed := by
        simp only [Layer.setComposition, Layer.committed, Latched.setPending_eq]
      have same : (layer.setComposition composition).1.id = layer.id := rfl
      exact committed?_putLayer found same committed id
  | @refilled layer content found =>
      have same : ({ layer with content := content } : Layer).id = layer.id := rfl
      exact committed?_putLayer found same rfl id
  | reshaped found same z composition =>
      exact committed?_putLayer found same (congrArg Latched.committed composition) id
  | @moved layer z found =>
      have same : ({ layer with z := z } : Layer).id = layer.id := rfl
      exact committed?_putLayer found same rfl id

theorem committed?_accepted (validation : Validation) (id : LayerId) :
    (display.accepted validation).committed? id = display.committed? id
      ∨ ∃ composition, (id, composition) ∈ validation.typeChanges
        ∧ (display.accepted validation).committed? id = some composition := by
  have lookup : (display.accepted validation).committed? id
      = ((display.layer? id).map fun layer =>
          ((validation.typeChanges.reverse.lookup id).map layer.settled).getD layer).map
            (·.committed) := by
    change ((validation.typeChanges.foldl acceptChange display).layer? id).map _ = _
    rw [layer?_foldl_acceptChange]
  cases override : validation.typeChanges.reverse.lookup id with
  | none =>
      rw [lookup, override]
      exact Or.inl (congrArg _ Option.map_id')
  | some composition =>
      cases found : display.layer? id with
      | none => exact Or.inl (by rw [lookup, committed?, found]; rfl)
      | some layer =>
          obtain ⟨before, behind, split, _⟩ := List.lookup_eq_some_iff.mp override
          have listed : (id, composition) ∈ validation.typeChanges.reverse := by
            rw [split]
            simp
          refine Or.inr ⟨composition, List.mem_reverse.mp listed, ?_⟩
          rw [lookup, override, found]
          rfl

/-- A layer that only the client can draw is committed anew by an override only. -/
theorem committed?_turned {turn : Turn} (turned : display.Turned turn after) {id : LayerId}
    {layer : Layer} (found : display.layer? id = some layer)
    (unsupported : layer.isUnsupported = true) (still : id ∈ after.ids) :
    after.committed? id = display.committed? id
      ∨ turn = .call .acceptChanges ∧ ∃ validation composition,
        display.validated = some validation ∧ (id, composition) ∈ validation.typeChanges
        ∧ after.committed? id = some composition := by
  cases turned with
  | @added other =>
      refine Or.inl ?_
      rw [committed?, committed?, layer?_addLayer, found]
      rfl
  | @removed other layer foundOther =>
      rw [mem_ids_iff] at still
      obtain ⟨amended, there⟩ := still
      rw [layer?_removeLayer foundOther] at there
      refine Or.inl ?_
      rw [committed?, committed?, layer?_removeLayer foundOther]
      by_cases here : id = other
      · rw [if_pos here] at there
        cases there
      · rw [if_neg here]
  | edited edited => exact Or.inl (committed?_edited edited id)
  | @accepted validation validated =>
      rcases display.committed?_accepted validation id with same | ⟨composition, listed, now⟩
      · exact Or.inl same
      · exact Or.inr ⟨rfl, validation, composition, validated, listed, now⟩
  | @negotiated prepare proposal decisions modified proposed agreed complete =>
      refine Or.inl ?_
      have latched : layer.latched = layer := if_pos unsupported
      change ((display.latchLayers proposal).layer? id).map _ = (display.layer? id).map _
      rw [layer?_latchLayers, found, Option.map_some, latched, ite_self]
  | @presented commit frame fences asking committed complete =>
      have amends := amends_foldl_pushReleaseFence (display.releaseShares fences) display
      exact Or.inl (committed?_of_restyles (.of_amends amends) id)
  | _ => exact Or.inl rfl

/-! ## What a frame carries -/

/-- A slot on commit, for a layer that only the client can draw. -/
structure CarriesUnsupported (display : Display) (memory : Memory) (id : LayerId)
    (slot : Slot) : Prop where
  skip : slot.skip = true
  decided : ∃ decision, memory.decisionOn? id = some decision
    ∧ slot.placement = decision.placement
    -- an override is taken for granted, whatever it is
    ∧ ∀ composition, decision.placement.override? = some composition →
      display.committed? id = some composition

theorem skip_slot {layer : Layer} (unsupported : layer.isUnsupported = true) :
    layer.slot.skip = true := by
  change layer.requested.2 = true
  rw [Layer.requested, if_pos unsupported]

theorem carriesUnsupported {memory : Memory} (stacked : display.Stacked)
    (remembered : display.Remembered memory) (outstanding : display.Whenever Outstanding)
    {frame : Frame} (asking : display.beginPresent = .asking frame) {id : LayerId} {layer : Layer}
    (found : display.layer? id = some layer) (unsupported : layer.isUnsupported = true) :
    ∃ (index : Nat) (slot : Slot), display.layersInOrder[index]? = some id
      ∧ frame.slots[index]? = some slot ∧ display.CarriesUnsupported memory id slot := by
  obtain ⟨validation, validated, accepted, _, rfl⟩ := beginPresent_eq_asking asking
  obtain ⟨negotiation, known, agreed⟩ := remembered.agreed validation validated
  have inOrder := (mem_layersInOrder_iff stacked).mpr ⟨layer, found⟩
  obtain ⟨index, place⟩ := List.mem_iff_getElem?.mp inOrder
  have there : display.stack[index]? = some layer := by
    obtain ⟨other, there, here⟩ := stack_getElem? stacked place
    rw [found] at here
    rwa [Option.some.inj here]
  obtain ⟨entry, decision, copied, _, _, kept, foundEntry, alike, same⟩ :=
    agreed.slot stacked there
  have number : entry.1 = id := (id_of_layer? foundEntry).symm.trans (id_of_layer? found)
  have member := List.mem_of_getElem? kept
  have committed := shows_commitSlot foundEntry alike same decision
  refine ⟨index, _, place, display.commitFrame_slot kept, ?_, ?_⟩
  · rw [committed.skip, same]
    exact skip_slot (alike.unsupported.trans unsupported)
  · obtain ⟨standing, decided, placement⟩ := agreed.decision stacked member
    refine ⟨standing, ?_, committed.placement.trans placement, ?_⟩
    · rw [Memory.decisionOn?, known, ← number]
      exact decided
    · intro composition override
      rw [← placement] at override
      rw [committed?, found]
      exact congrArg some (committed_of_override (outstanding validation validated) accepted member
        foundEntry override)

end Display

/-! ## Runs -/

namespace System

variable {σ : Type} {backend : Backend σ} {system : System σ}

/-- After some actions and all through some more, the layer is there and only the client can
draw it. -/
def StaysUnsupported (backend : Backend σ) (system : System σ) (actions later : List Action)
    (id : LayerId) : Prop :=
  ∀ part, part <+: later → ∃ layer,
    (system.run backend (actions ++ part)).device.display.layer? id = some layer
      ∧ layer.isUnsupported = true

/-- After some actions and all through some more, the backend's last decision leaves the layer's
slot to the client. -/
def LeftToClient (backend : Backend σ) (system : System σ) (actions later : List Action)
    (id : LayerId) : Prop :=
  ∀ part, part <+: later → ∀ decision,
    (system.memory backend (actions ++ part)).decisionOn? id = some decision →
      decision.placement = .framebuffer

theorem StaysUnsupported.init {actions later : List Action} {action : Action} {id : LayerId}
    (stays : system.StaysUnsupported backend actions (later ++ [action]) id) :
    system.StaysUnsupported backend actions later id := fun part inside =>
  stays part (inside.trans (List.prefix_append later [action]))

theorem LeftToClient.init {actions later : List Action} {action : Action} {id : LayerId}
    (left : system.LeftToClient backend actions (later ++ [action]) id) :
    system.LeftToClient backend actions later id := fun part inside =>
  left part (inside.trans (List.prefix_append later [action]))

/-- An override that waits for a layer is the one that the last decision on its slot calls for. -/
theorem decision_of_typeChange (opened : system.Opened backend) {actions : List Action}
    {validation : Validation} {id : LayerId} {composition : Composition}
    (validated : (system.run backend actions).device.display.validated = some validation)
    (listed : (id, composition) ∈ validation.typeChanges) :
    ∃ decision, (system.memory backend actions).decisionOn? id = some decision
      ∧ decision.placement.override? = some composition := by
  obtain ⟨stacked, remembered⟩ := remembered_run opened actions
  rw [(whenever_run Display.outstanding_lasting opened actions validation validated).due] at listed
  obtain ⟨entry, member, due⟩ := List.mem_filterMap.mp listed
  obtain ⟨named, override, _⟩ := Display.overrideDue?_eq_some_iff.mp due
  obtain ⟨negotiation, known, agreed⟩ := remembered.agreed validation validated
  obtain ⟨decision, decided, placement⟩ := agreed.decision stacked member
  have number : id = entry.1 := named
  refine ⟨decision, ?_, placement ▸ override⟩
  rw [Memory.decisionOn?, known, number]
  exact decided

/-- A layer that is validated, with all overrides accepted, and left to the client. -/
theorem committed?_of_validated (opened : system.Opened backend) {actions : List Action}
    (settled : (system.run backend actions).device.display.state = .validatedNoChanges)
    {id : LayerId} (there : id ∈ (system.run backend actions).device.display.ids)
    (left : ∀ decision, (system.memory backend actions).decisionOn? id = some decision →
      decision.placement = .framebuffer) :
    (system.run backend actions).device.display.committed? id = some .client := by
  obtain ⟨stacked, remembered⟩ := remembered_run opened actions
  obtain ⟨validation, validated, accepted⟩ :
      ∃ validation, (system.run backend actions).device.display.validated = some validation
        ∧ validation.typeChanges = [] := by
    unfold Display.state at settled
    split at settled
    · cases settled
    · rename_i validation validated
      split at settled
      · rename_i accepted
        exact ⟨validation, validated, by simpa using accepted⟩
      · cases settled
  obtain ⟨negotiation, known, agreed⟩ := remembered.agreed validation validated
  obtain ⟨layer, found⟩ := Display.mem_ids_iff.mp there
  have slotted := (Display.mem_layersInOrder stacked).mpr there
  rw [← agreed.slotIds] at slotted
  obtain ⟨entry, member, rfl⟩ := List.mem_map.mp slotted
  obtain ⟨decision, decided, placement⟩ := agreed.decision stacked member
  have drawn : entry.2.placement = .framebuffer := by
    rw [placement]
    refine left decision ?_
    rw [Memory.decisionOn?, known]
    exact decided
  have override : entry.2.placement.override? = some .client := by rw [drawn]; rfl
  rw [Display.committed?, found]
  have outstanding := whenever_run Display.outstanding_lasting opened actions validation validated
  exact congrArg some
    (Display.committed_of_override outstanding accepted member found override)

theorem committed?_client (opened : system.Opened backend) {actions later : List Action}
    (settled : (system.run backend actions).device.display.state = .validatedNoChanges)
    {id : LayerId} (stays : system.StaysUnsupported backend actions later id)
    (left : system.LeftToClient backend actions later id) :
    (system.run backend (actions ++ later)).device.display.committed? id = some .client := by
  induction later using List.reverseRecOn with
  | nil =>
      obtain ⟨layer, found, _⟩ := stays [] (List.prefix_refl [])
      have decisions := left [] (List.prefix_refl [])
      rw [List.append_nil] at found decisions ⊢
      exact committed?_of_validated opened settled (Display.mem_ids_iff.mpr ⟨layer, found⟩)
        decisions
  | append_singleton later action ih =>
      have before := ih stays.init left.init
      have stacked := (remembered_run opened (actions ++ later)).1
      obtain ⟨layer, found, unsupported⟩ := stays later (List.prefix_append later [action])
      obtain ⟨amended, still, _⟩ := stays _ (List.prefix_refl _)
      rw [← List.append_assoc, run_concat_display] at still ⊢
      rcases Display.committed?_turned (Display.turned_turn stacked.held _) found unsupported
          (Display.mem_ids_iff.mpr ⟨amended, still⟩)
        with same | ⟨_, validation, composition, validated, listed, now⟩
      · exact same.trans before
      · -- the override that is accepted was decided, so it leaves the layer to the client
        obtain ⟨decision, decided, override⟩ := decision_of_typeChange opened validated listed
        rw [left later (List.prefix_append later [action]) decision decided] at override
        rw [now]
        exact override.symm

/-- From a validated state on, a layer that only the client can draw stays committed to the client
as long as the backend leaves it there, and every frame shows it skipped, as the backend decided. -/
theorem unsupported_run (opened : system.Opened backend) {actions later : List Action}
    (settled : (system.run backend actions).device.display.state = .validatedNoChanges)
    {id : LayerId} (stays : system.StaysUnsupported backend actions later id) :
    (system.LeftToClient backend actions later id →
        (system.run backend (actions ++ later)).device.display.committed? id = some .client)
      ∧ ∀ frame,
        (system.run backend (actions ++ later)).device.display.beginPresent = .asking frame →
        ∃ (index : Nat) (slot : Slot),
          (system.run backend (actions ++ later)).device.display.layersInOrder[index]? = some id
          ∧ frame.slots[index]? = some slot
          ∧ (system.run backend (actions ++ later)).device.display.CarriesUnsupported
            (system.memory backend (actions ++ later)) id slot := by
  refine ⟨committed?_client opened settled stays, ?_⟩
  intro frame asking
  obtain ⟨layer, found, unsupported⟩ := stays later (List.prefix_refl later)
  obtain ⟨stacked, remembered⟩ := remembered_run opened (actions ++ later)
  exact Display.carriesUnsupported stacked remembered
    (whenever_run Display.outstanding_lasting opened _) asking found unsupported

/-- A layer on the hardware gets a colour space that only the client can draw. -/
def forcedRun : List Action :=
  [.createLayer ⟨1⟩, .call (.device ⟨1⟩) (.edit ⟨1⟩ (.composition .device)),
    .ask (.device ⟨1⟩) .validate, .call (.device ⟨1⟩) .acceptChanges,
    .call (.device ⟨1⟩) (.edit ⟨1⟩ (.dataspace ⟨7⟩)), .ask (.device ⟨1⟩) .validate,
    .call (.device ⟨1⟩) .acceptChanges]

/-- It asks for the hardware again, in vain. -/
def askingRun : List Action :=
  [.call (.device ⟨1⟩) (.edit ⟨1⟩ (.composition .device)), .ask (.device ⟨1⟩) .validate,
    .call .display (.clientTarget (some ⟨9⟩) .noop .unknown [])]

theorem unsupported_run_forced :
    (onScript []).Opened .scripted
      ∧ ((onScript []).run .scripted forcedRun).device.display.state = .validatedNoChanges
      ∧ (onScript []).StaysUnsupported .scripted forcedRun askingRun ⟨1⟩
      ∧ (onScript []).LeftToClient .scripted forcedRun askingRun ⟨1⟩
      ∧ ((onScript []).run .scripted (forcedRun ++ askingRun)).device.display.committed? ⟨1⟩
        = some .client
      ∧ ∃ frame, ((onScript []).run .scripted
          (forcedRun ++ askingRun)).device.display.beginPresent = .asking frame := by
  have settled : ((onScript []).run .scripted forcedRun).device.display.state
      = .validatedNoChanges := by rfl
  have parts : ∀ part, part <+: askingRun →
      part ∈ [[], askingRun.take 1, askingRun.take 2, askingRun] := by
    intro part inside
    have listed := (List.mem_inits part askingRun).mpr inside
    simpa [askingRun] using listed
  have stays : (onScript []).StaysUnsupported .scripted forcedRun askingRun ⟨1⟩ := by
    intro part inside
    have listed := parts part inside
    simp only [List.mem_cons, List.not_mem_nil, or_false] at listed
    rcases listed with rfl | rfl | rfl | rfl <;> exact ⟨_, rfl, rfl⟩
  have left : (onScript []).LeftToClient .scripted forcedRun askingRun ⟨1⟩ := by
    intro part inside decision decided
    have listed := parts part inside
    simp only [List.mem_cons, List.not_mem_nil, or_false] at listed
    rcases listed with rfl | rfl | rfl | rfl <;> (cases decided; rfl)
  have held := unsupported_run (opened_onScript []) settled stays
  exact ⟨opened_onScript [], settled, stays, left, held.1 left, _, rfl⟩

/-- The backend puts a layer that only the client can draw on a plane: once the override is
accepted, the layer is committed to the hardware, and the frame carries an overlay. -/
theorem unsupported_overlay :
    let display := ((onScript [(0, .overlay)]).run .scripted
      [.createLayer ⟨1⟩, .call (.device ⟨1⟩) (.edit ⟨1⟩ (.dataspace ⟨7⟩)),
        .ask (.device ⟨1⟩) .validate, .call (.device ⟨1⟩) .acceptChanges]).device.display
    display.state = .validatedNoChanges
      ∧ (display.layer? ⟨1⟩).map (·.isUnsupported) = some true
      ∧ display.committed? ⟨1⟩ = some .device
      ∧ ∃ (frame : Frame) (slot : Slot), display.beginPresent = .asking frame
        ∧ frame.slots[0]? = some slot ∧ slot.placement = .overlay :=
  ⟨rfl, rfl, rfl, _, _, rfl, rfl, rfl⟩

end System

end Scanout
