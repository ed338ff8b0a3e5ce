import Scanout.Proofs.Display.Overrides

/-!
# Decisions, overrides and commitments

On a validated display three records have to agree: the placements decided for the slots, the
overrides that wait, and the compositions that the layers are committed to. `Display.Accords` is
that agreement. A placement that stands for a composition is either settled already, or the one
override to that composition waits; and no override waits for any other reason.

Once no override waits, what is decided and what is committed are the same, in the committed frame
too, and a layer whose override was accepted asks for nothing else: `Display.Concludes`.
-/

set_option autoImplicit false

namespace Scanout

/-- The composition that a layer gets if the backend decides for a placement. -/
inductive Placement.StandsFor : Placement → Composition → Prop
  | client : StandsFor .framebuffer .client
  | device : StandsFor .overlay .device

theorem Placement.standsFor_iff {placement : Placement} {composition : Composition} :
    placement.StandsFor composition ↔ placement.override? = some composition := by
  constructor
  · intro stands
    cases stands <;> rfl
  · intro override
    cases placement <;> cases override
    · exact .client
    · exact .device

namespace Display

/-- Slots, overrides that wait and commitments of a validated display agree. -/
structure Accords (display : Display) (validation : Validation) : Prop where
  /-- Every layer has one slot. -/
  slots : (validation.proposal.layers.map (·.1)).Perm display.ids
  waits : ∀ entry ∈ validation.proposal.layers, ∀ composition,
    entry.2.placement.StandsFor composition →
    validation.typeChanges.count (entry.1, composition)
      = if display.committed? entry.1 = some composition then 0 else 1
  called : ∀ change ∈ validation.typeChanges, change.1 ∈ display.ids
    ∧ ∃ slot, (change.1, slot) ∈ validation.proposal.layers ∧ slot.placement.StandsFor change.2
  single : (validation.typeChanges.map (·.1)).Nodup

/-- What has been decided is committed, and what has been accepted is asked for as well. -/
structure Concludes (display : Display) (validation : Validation) (memory : Memory) : Prop where
  decided : ∀ entry ∈ validation.proposal.layers, ∀ composition,
    entry.2.placement.StandsFor composition → display.committed? entry.1 = some composition
  shown : ∀ frame, display.beginPresent = .asking frame →
    ∀ (index : Nat) (id : LayerId) (slot : Slot), display.layersInOrder[index]? = some id →
      frame.slots[index]? = some slot → ∀ composition, slot.placement.StandsFor composition →
      display.committed? id = some composition
  accepted : ∀ change ∈ memory.accepted, ∃ layer, display.layer? change.1 = some layer
    ∧ layer.pending = change.2 ∧ layer.committed = change.2

variable {display : Display}

/-! ## Overrides that wait -/

namespace Outstanding

variable {validation : Validation}

theorem single (outstanding : display.Outstanding validation) :
    (validation.typeChanges.map (·.1)).Nodup := by
  rw [outstanding.due]
  exact outstanding.distinct.sublist (display.overridesDue_ids validation.proposal.layers)

theorem called (outstanding : display.Outstanding validation) {change : LayerId × Composition}
    (listed : change ∈ validation.typeChanges) :
    ∃ layer slot, display.layer? change.1 = some layer ∧ layer.committed ≠ change.2
      ∧ (change.1, slot) ∈ validation.proposal.layers ∧ slot.placement.StandsFor change.2 := by
  rw [outstanding.due] at listed
  obtain ⟨⟨id, slot⟩, member, due⟩ := List.mem_filterMap.mp listed
  obtain ⟨rfl, override, layer, found, differs⟩ := overrideDue?_eq_some_iff.mp due
  exact ⟨layer, slot, found, differs, member, Placement.standsFor_iff.mpr override⟩

theorem count (outstanding : display.Outstanding validation)
    {entry : LayerId × Slot} (member : entry ∈ validation.proposal.layers) {layer : Layer}
    (found : display.layer? entry.1 = some layer) {composition : Composition}
    (stands : entry.2.placement.StandsFor composition) :
    validation.typeChanges.count (entry.1, composition)
      = if display.committed? entry.1 = some composition then 0 else 1 := by
  have committed : display.committed? entry.1 = some layer.committed := by
    rw [committed?, found]
    rfl
  by_cases settled : layer.committed = composition
  · rw [committed, settled, if_pos rfl]
    apply List.count_eq_zero.mpr
    intro listed
    obtain ⟨other, _, foundOther, differs, _⟩ := outstanding.called listed
    rw [found] at foundOther
    obtain rfl := Option.some.inj foundOther
    exact differs settled
  · have due : display.overrideDue? entry = some (entry.1, composition) :=
      overrideDue?_eq_some_iff.mpr
        ⟨rfl, Placement.standsFor_iff.mp stands, layer, found, settled⟩
    have listed : (entry.1, composition) ∈ validation.typeChanges := by
      rw [outstanding.due]
      exact List.mem_filterMap.mpr ⟨entry, member, due⟩
    have unsettled : ¬display.committed? entry.1 = some composition := by
      rw [committed]
      simpa using settled
    rw [if_neg unsettled]
    exact List.count_eq_one_of_mem outstanding.single.of_map listed

end Outstanding

theorem accords_of_agreed (stacked : display.Stacked) {negotiation : Negotiation}
    {validation : Validation} (agreed : display.Agreed negotiation validation)
    (outstanding : display.Outstanding validation) : display.Accords validation where
  slots := by
    rw [agreed.slotIds]
    refine (List.perm_ext_iff_of_nodup (layersInOrder_nodup stacked) stacked.distinct).mpr ?_
    intro id
    exact mem_layersInOrder stacked
  waits := by
    intro entry member composition stands
    have listed : entry.1 ∈ display.layersInOrder := by
      rw [← agreed.slotIds]
      exact List.mem_map_of_mem member
    obtain ⟨layer, found⟩ := (mem_layersInOrder_iff stacked).mp listed
    exact outstanding.count member found stands
  called := by
    intro change listed
    obtain ⟨layer, slot, found, _, member, stands⟩ := outstanding.called listed
    exact ⟨mem_ids_iff.mpr ⟨layer, found⟩, slot, member, stands⟩
  single := outstanding.single

/-! ## Overrides that were accepted -/

/-- The overrides accepted since the negotiation have reached their layers. -/
structure TakenOver (accepted : List (LayerId × Composition)) (display : Display)
    (validation : Validation) : Prop where
  /-- Acceptance is for all overrides at once. -/
  once : accepted = [] ∨ validation.typeChanges = []
  reached : ∀ change ∈ accepted, ∃ layer, display.layer? change.1 = some layer
    ∧ layer.composition = .ofValue change.2

theorem takenOver_accepted {accepted : List (LayerId × Composition)} {validation : Validation}
    (taken : TakenOver accepted display validation)
    (outstanding : display.Outstanding validation) :
    TakenOver (accepted ++ validation.typeChanges) (display.accepted validation)
      { validation with typeChanges := [] } := by
  refine ⟨Or.inr rfl, ?_⟩
  intro change listed
  have lookup : (display.accepted validation).layer? change.1
      = (display.layer? change.1).map fun layer =>
          ((validation.typeChanges.reverse.lookup change.1).map layer.settled).getD layer :=
    layer?_foldl_acceptChange validation.typeChanges display change.1
  rcases List.mem_append.mp listed with before | now
  · -- something was accepted before, so nothing is left to be accepted
    obtain ⟨layer, found, composition⟩ := taken.reached change before
    have nothing : validation.typeChanges = [] := by
      rcases taken.once with untouched | cleared
      · rw [untouched] at before
        cases before
      · exact cleared
    rw [found, nothing] at lookup
    exact ⟨layer, lookup, composition⟩
  · obtain ⟨layer, _, found, _⟩ := outstanding.called now
    have distinct : (validation.typeChanges.reverse.map (·.1)).Nodup := by
      rw [List.map_reverse, List.nodup_reverse]
      exact outstanding.single
    rw [found, lookup_of_mem distinct (List.mem_reverse.mpr now)] at lookup
    exact ⟨layer.settled change.2, lookup, rfl⟩

theorem takenOver_lasting : LastingWith fun accepted display validation =>
    display.Outstanding validation ∧ TakenOver accepted display validation where
  decided := by
    intro display proposal decisions stacked proposed complete
    refine ⟨outstanding_decided stacked proposed complete, Or.inl rfl, ?_⟩
    intro change listed
    cases listed
  accepted := by
    intro accepted display validation both
    exact ⟨outstanding_accepted both.1, takenOver_accepted both.2 both.1⟩
  restyled := by
    intro accepted display after validation restyles both
    obtain ⟨outstanding, once, reached⟩ := both
    refine ⟨outstanding_lasting.restyled restyles outstanding, once, ?_⟩
    intro change listed
    obtain ⟨layer, there, composition⟩ := reached change listed
    obtain ⟨amended, still, restyled⟩ := restyles.layers there
    exact ⟨amended, still, restyled.composition.trans composition⟩

/-! ## No override waits -/

theorem concludes_of_agreed (stacked : display.Stacked) {negotiation : Negotiation}
    {validation : Validation} {memory : Memory} (validated : display.validated = some validation)
    (agreed : display.Agreed negotiation validation)
    (outstanding : display.Outstanding validation)
    (taken : TakenOver memory.accepted display validation) (cleared : validation.typeChanges = []) :
    display.Concludes validation memory := by
  have decided : ∀ entry ∈ validation.proposal.layers, ∀ composition,
      entry.2.placement.StandsFor composition →
      display.committed? entry.1 = some composition := by
    intro entry member composition stands
    have counted := (accords_of_agreed stacked agreed outstanding).waits entry member
      composition stands
    by_contra unsettled
    rw [cleared, if_neg unsettled] at counted
    cases counted
  refine ⟨decided, ?_, ?_⟩
  · intro frame asking index id slot listed there composition stands
    obtain ⟨other, same, _, _, rfl⟩ := beginPresent_eq_asking asking
    rw [validated] at same
    obtain rfl := Option.some.inj same
    rw [← agreed.slotIds, List.getElem?_map, Option.map_eq_some_iff] at listed
    obtain ⟨entry, kept, rfl⟩ := listed
    rw [display.commitFrame_slot kept] at there
    obtain rfl := Option.some.inj there
    rw [placement_commitSlot] at stands
    exact decided entry (List.mem_of_getElem? kept) composition stands
  · intro change listed
    obtain ⟨layer, found, composition⟩ := taken.reached change listed
    refine ⟨layer, found, ?_, ?_⟩
    · rw [Layer.pending, composition]
      rfl
    · rw [Layer.committed, composition]
      rfl

end Display

namespace System

variable {σ : Type} {backend : Backend σ} {system : System σ}

/-- On every validated display, each placement that stands for a composition is committed or has its
one override waiting, and there are no other overrides. Once the display may present, everything
that it presents as framebuffer or overlay is committed to the client or to the device, and what was
accepted is asked for and committed. -/
theorem agreement_run (opened : system.Opened backend) (actions : List Action)
    {validation : Validation}
    (validated : (system.run backend actions).device.display.validated = some validation) :
    (system.run backend actions).device.display.Accords validation
      ∧ ((system.run backend actions).device.display.state = .validatedNoChanges →
        (system.run backend actions).device.display.Concludes validation
          (system.memory backend actions)) := by
  obtain ⟨stacked, remembered⟩ := remembered_run opened actions
  obtain ⟨negotiation, _, agreed⟩ := remembered.agreed validation validated
  obtain ⟨outstanding, taken⟩ :=
    wheneverWith_run Display.takenOver_lasting opened actions validation validated
  refine ⟨Display.accords_of_agreed stacked agreed outstanding, ?_⟩
  intro ready
  have cleared : validation.typeChanges = [] := by
    simp only [Display.state, validated] at ready
    split at ready
    · rename_i empty
      exact List.isEmpty_iff.mp empty
    · cases ready
  exact Display.concludes_of_agreed stacked validated agreed outstanding taken cleared

/-- One layer is forced back to the client, another one is put on a plane. -/
def overriddenRun : List Action :=
  [.createLayer ⟨1⟩, .createLayer ⟨1⟩, .call (.device ⟨1⟩) (.edit ⟨1⟩ (.composition .device)),
    .call .display (.edit ⟨2⟩ (.composition .client)), .ask (.device ⟨1⟩) .validate,
    .call (.device ⟨1⟩) .acceptChanges]

theorem agreement_run_overridden :
    let start := onScript [(0, .framebuffer), (1, .overlay)]
    let display := (start.run .scripted overriddenRun).device.display
    let memory := start.memory .scripted overriddenRun
    start.Opened .scripted ∧ display.state = .validatedNoChanges
      ∧ memory.accepted = [(⟨1⟩, .client), (⟨2⟩, .device)]
      ∧ ∃ validation, display.validated = some validation ∧ display.Accords validation
        ∧ display.Concludes validation memory := by
  intro start display memory
  have opened : start.Opened .scripted := opened_onScript _
  have ready : display.state = .validatedNoChanges := by decide +kernel
  have accepted : memory.accepted = [(⟨1⟩, .client), (⟨2⟩, .device)] := by decide +kernel
  have recorded : display.validated.isSome := by decide +kernel
  obtain ⟨validation, validated⟩ := Option.isSome_iff_exists.mp recorded
  obtain ⟨accords, concludes⟩ := agreement_run opened overriddenRun validated
  exact ⟨opened, ready, accepted, validation, validated, accords, concludes ready⟩

end System

end Scanout
