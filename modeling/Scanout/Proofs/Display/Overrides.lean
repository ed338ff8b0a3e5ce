import Scanout.Proofs.Display.Commit
import Scanout.Proofs.Display.Validated

/-!
# Overrides that wait to be accepted

A validation notes the overrides that the backend's decisions call for, and it keeps the decided
slots. `Outstanding` says that the note is never out of date: on a validated display, the overrides
that wait are exactly those that the slots call for on the layers as they are. Accepting them all
leaves nothing to call for, and whatever else could change a composition drops the validation.

So once they are accepted, every layer is committed to what the placement of its slot stands for
(`committed_of_override`).
-/

set_option autoImplicit false

namespace Scanout

theorem lookup_of_mem {β : Type} {entries : List (LayerId × β)} {id : LayerId} {value : β}
    (distinct : (entries.map (·.1)).Nodup) (member : (id, value) ∈ entries) :
    entries.lookup id = some value := by
  induction entries with
  | nil => cases member
  | cons first rest ih =>
      obtain ⟨other, held⟩ := first
      obtain ⟨notLater, distinctRest⟩ := List.nodup_cons.mp distinct
      rcases List.mem_cons.mp member with same | later
      · cases same
        simp
      · have apart : (id == other) = false := by
          have different : id ≠ other := fun same =>
            notLater (List.mem_map.mpr ⟨(id, value), later, same⟩)
          simpa using different
        rw [List.lookup_cons, apart]
        exact ih distinctRest later

/-- The decision on the slot of a layer. -/
def Negotiation.decisionOn? (negotiation : Negotiation) (id : LayerId) : Option Decision :=
  ((negotiation.proposal.layers.zip negotiation.decisions).map fun (entry, decision) =>
    (entry.1, decision)).lookup id

/-- The decision that the backend made last on the slot of a layer. -/
def Memory.decisionOn? (memory : Memory) (id : LayerId) : Option Decision :=
  memory.negotiation.bind (·.decisionOn? id)

namespace Display

/-! ## What the slots call for -/

def committed? (display : Display) (id : LayerId) : Option Composition :=
  (display.layer? id).map (·.committed)

/-- The override that the placement of a decided slot calls for. -/
def overrideDue? (display : Display) (entry : LayerId × Slot) :
    Option (LayerId × Composition) :=
  (display.committed? entry.1).bind fun committed =>
    (entry.2.placement.override?.filter (· != committed)).map fun composition =>
      (entry.1, composition)

def overridesDue (display : Display) (proposal : Proposal) : List (LayerId × Composition) :=
  proposal.layers.filterMap display.overrideDue?

theorem overrideDue?_eq_some_iff {display : Display} {entry : LayerId × Slot}
    {change : LayerId × Composition} :
    display.overrideDue? entry = some change
      ↔ change.1 = entry.1 ∧ entry.2.placement.override? = some change.2
        ∧ ∃ layer, display.layer? entry.1 = some layer ∧ layer.committed ≠ change.2 := by
  obtain ⟨id, composition⟩ := change
  unfold overrideDue? committed?
  cases display.layer? entry.1 with
  | none => simp
  | some layer =>
      cases entry.2.placement.override? with
      | none => simp
      | some called =>
          by_cases same : called = layer.committed
          · simp [same, Option.filter]
          · simp only [Option.map_some, Option.bind_some, Option.filter, bne_iff_ne, ne_eq, same,
              not_false_eq_true, if_true, Option.some.injEq, Prod.mk.injEq]
            constructor
            · rintro ⟨rfl, rfl⟩
              exact ⟨rfl, rfl, layer, rfl, Ne.symm same⟩
            · rintro ⟨rfl, rfl, _⟩
              exact ⟨rfl, rfl⟩

theorem overridesDue_congr {display after : Display}
    (same : ∀ id, after.committed? id = display.committed? id) (proposal : Proposal) :
    after.overridesDue proposal = display.overridesDue proposal := by
  unfold overridesDue overrideDue?
  simp only [same]

/-- The same layers are there, each committed as before. -/
theorem committed?_congr {display after : Display} (ids : after.ids = display.ids)
    (kept : ∀ {id : LayerId} {layer : Layer}, display.layer? id = some layer →
      ∃ amended, after.layer? id = some amended ∧ amended.committed = layer.committed)
    (id : LayerId) : after.committed? id = display.committed? id := by
  unfold committed?
  cases found : display.layer? id with
  | none =>
      have missing : after.layer? id = none := by
        rw [layer?_eq_none_iff, ids]
        exact layer?_eq_none_iff.mp found
      rw [missing]
  | some layer =>
      obtain ⟨amended, still, committed⟩ := kept found
      rw [still]
      exact congrArg some committed

theorem committed?_of_restyles {display after : Display} (restyles : display.Restyles after)
    (id : LayerId) : after.committed? id = display.committed? id := by
  refine committed?_congr restyles.ids ?_ id
  intro id layer found
  obtain ⟨amended, still, restyled⟩ := restyles.layers found
  exact ⟨amended, still, congrArg Latched.committed restyled.composition⟩

/-- Overrides are called for layer by layer, in the order of the slots. -/
theorem overridesDue_ids (display : Display) (layers : List (LayerId × Slot)) :
    ((layers.filterMap display.overrideDue?).map (·.1)).Sublist (layers.map (·.1)) := by
  induction layers with
  | nil => exact List.Sublist.slnil
  | cons entry rest ih =>
      cases due : display.overrideDue? entry with
      | none =>
          rw [List.filterMap_cons_none due]
          exact ih.cons entry.1
      | some change =>
          rw [List.filterMap_cons_some due, List.map_cons, List.map_cons,
            (overrideDue?_eq_some_iff.mp due).1]
          exact ih.cons_cons entry.1

/-- The overrides called for have one at most for each layer. -/
theorem lookup_overridesDue {display : Display} {proposal : Proposal}
    (distinct : (proposal.layers.map (·.1)).Nodup) {entry : LayerId × Slot}
    (member : entry ∈ proposal.layers) :
    (display.overridesDue proposal).reverse.lookup entry.1
      = (display.overrideDue? entry).map (·.2) := by
  cases due : display.overrideDue? entry with
  | some change =>
      have named := (overrideDue?_eq_some_iff.mp due).1
      have there : change ∈ display.overridesDue proposal :=
        List.mem_filterMap.mpr ⟨entry, member, due⟩
      have apart : ((display.overridesDue proposal).reverse.map (·.1)).Nodup := by
        rw [List.map_reverse, List.nodup_reverse]
        exact distinct.sublist (display.overridesDue_ids proposal.layers)
      rw [← named]
      exact lookup_of_mem apart (List.mem_reverse.mpr there)
  | none =>
      refine List.lookup_eq_none_iff.mpr fun change listed => ?_
      obtain ⟨other, there, called⟩ := List.mem_filterMap.mp (List.mem_reverse.mp listed)
      -- an override with the layer's number would come from this very slot
      have different : entry.1 ≠ change.1 := by
        intro same
        have same : entry.1 = other.1 := same.trans (overrideDue?_eq_some_iff.mp called).1
        obtain rfl := List.inj_on_of_nodup_map distinct member there same
        rw [due] at called
        cases called
      simpa using different

/-! ## The note is up to date -/

/-- The overrides of a validation are those that its slots call for. -/
structure Outstanding (display : Display) (validation : Validation) : Prop where
  distinct : (validation.proposal.layers.map (·.1)).Nodup
  due : validation.typeChanges = display.overridesDue validation.proposal

variable {display : Display}

/-- What was called for is committed, so nothing is called for any more. -/
theorem overrideDue?_accepted {validation : Validation}
    (outstanding : display.Outstanding validation) {entry : LayerId × Slot}
    (member : entry ∈ validation.proposal.layers) :
    (display.accepted validation).overrideDue? entry = none := by
  have accepted : (display.accepted validation).layer? entry.1
      = (display.layer? entry.1).map fun layer =>
          (((display.overrideDue? entry).map (·.2)).map layer.settled).getD layer := by
    change (validation.typeChanges.foldl acceptChange display).layer? entry.1 = _
    rw [layer?_foldl_acceptChange, outstanding.due, lookup_overridesDue outstanding.distinct member]
  refine Option.eq_none_iff_forall_ne_some.mpr fun change called => ?_
  obtain ⟨_, override, layer, found, differs⟩ := overrideDue?_eq_some_iff.mp called
  rw [accepted, Option.map_eq_some_iff] at found
  obtain ⟨before, there, rfl⟩ := found
  cases due : display.overrideDue? entry with
  | none =>
      rw [due] at differs
      have stillDue : display.overrideDue? entry = some (entry.1, change.2) :=
        overrideDue?_eq_some_iff.mpr ⟨rfl, override, before, there, differs⟩
      rw [due] at stillDue
      cases stillDue
  | some earlier =>
      have same : some earlier.2 = some change.2 :=
        (overrideDue?_eq_some_iff.mp due).2.1.symm.trans override
      rw [due] at differs
      exact differs (Option.some.inj same)

theorem outstanding_accepted {validation : Validation}
    (outstanding : display.Outstanding validation) :
    (display.accepted validation).Outstanding { validation with typeChanges := [] } := by
  refine ⟨outstanding.distinct, (List.filterMap_eq_nil_iff.mpr ?_).symm⟩
  intro entry member
  exact overrideDue?_accepted outstanding member

/-- A validation notes what its decisions call for. -/
theorem typeChanges_validationOf (display : Display) (proposal : Proposal)
    (decisions : List Decision) :
    (display.validationOf proposal decisions).typeChanges
      = display.overridesDue (display.validationOf proposal decisions).proposal := by
  simp only [validationOf, overridesDue, decidedLayers, List.filterMap_filterMap,
    List.filterMap_map]
  congr 1
  funext entry
  obtain ⟨⟨id, slot⟩, decision⟩ := entry
  cases found : display.layer? id with
  | none => simp [decideSlot, overrideDue?, committed?, found]
  | some layer =>
      simp [decideSlot, overrideDue?, committed?, typeChange?, found, id_of_layer? found]

theorem ids_zip {proposal : Proposal} {decisions : List Decision}
    (complete : decisions.length = proposal.slotCount) :
    (proposal.layers.zip decisions).map (fun pair => pair.1.1) = proposal.layers.map (·.1) := by
  have first : (proposal.layers.zip decisions).map (·.1) = proposal.layers :=
    List.map_fst_zip (by rw [complete, Proposal.slotCount]; omega)
  conv_rhs => rw [← first]
  rw [List.map_map]
  rfl

/-- The decided slots are those of the layers, back to front. -/
theorem Agreed.slotIds {negotiation : Negotiation} {validation : Validation}
    (agreed : display.Agreed negotiation validation) :
    validation.proposal.layers.map (·.1) = display.layersInOrder := by
  rw [agreed.slots, List.map_map, ← agreed.ids, ← ids_zip agreed.complete]
  rfl

theorem outstanding_decided (stacked : display.Stacked) {proposal : Proposal}
    {decisions : List Decision} (proposed : display.propose = .ok proposal)
    (complete : decisions.length = proposal.slotCount) :
    (display.decided proposal decisions).Outstanding
      ((display.latchLayers proposal).validationOf proposal decisions) := by
  refine ⟨?_, (display.latchLayers proposal).typeChanges_validationOf proposal decisions⟩
  rw [(agreed_decided stacked proposed complete).slotIds]
  have amended := stacked.of_amends Layer.Alike.z (display.amends_latchLayers proposal)
  exact layersInOrder_nodup (amended.of_eq rfl rfl)

theorem outstanding_lasting : Lasting Outstanding where
  decided := fun stacked proposed complete => outstanding_decided stacked proposed complete
  accepted := outstanding_accepted
  restyled := by
    intro display after validation restyles outstanding
    refine ⟨outstanding.distinct, outstanding.due.trans ?_⟩
    exact (overridesDue_congr (committed?_of_restyles restyles) validation.proposal).symm

/-- Once no override waits, layers are committed to what their slots stand for. -/
theorem committed_of_override {validation : Validation}
    (outstanding : display.Outstanding validation) (accepted : validation.typeChanges = [])
    {entry : LayerId × Slot} (member : entry ∈ validation.proposal.layers) {layer : Layer}
    (found : display.layer? entry.1 = some layer) {composition : Composition}
    (override : entry.2.placement.override? = some composition) :
    layer.committed = composition := by
  by_contra differs
  have due : display.overrideDue? entry = some (entry.1, composition) :=
    overrideDue?_eq_some_iff.mpr ⟨rfl, override, layer, found, differs⟩
  have listed : (entry.1, composition) ∈ validation.typeChanges := by
    rw [outstanding.due]
    exact List.mem_filterMap.mpr ⟨entry, member, due⟩
  rw [accepted] at listed
  cases listed

/-- A decided slot shows the decision that was made on its layer. -/
theorem Agreed.decision {negotiation : Negotiation} {validation : Validation}
    (agreed : display.Agreed negotiation validation) (stacked : display.Stacked)
    {entry : LayerId × Slot} (member : entry ∈ validation.proposal.layers) :
    ∃ decision, negotiation.decisionOn? entry.1 = some decision
      ∧ entry.2.placement = decision.placement := by
  rw [agreed.slots] at member
  obtain ⟨⟨proposed, decision⟩, zipped, rfl⟩ := List.mem_map.mp member
  refine ⟨decision, ?_, rfl⟩
  refine lookup_of_mem ?_ (List.mem_map_of_mem zipped)
  have ids := (ids_zip agreed.complete).trans agreed.ids
  rw [List.map_map]
  exact ids ▸ layersInOrder_nodup stacked

end Display

end Scanout
