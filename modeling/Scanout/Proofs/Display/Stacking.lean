import Scanout.Proofs.Display.Changes

/-!
# The stacking order of a display

`Stacked` is the agreement between a display's layers and its stacking order: numbers are distinct,
entries lie back to front, and the entries are the layers with their Z keys. Every turn keeps it, as
long as new layers get higher numbers than the layers that are there.

From it follows that a frame is built from all layers, back to front (`backToFront_stack`), and that
moving a layer always finds its entry (`Stacked.held`).
-/

set_option autoImplicit false

namespace Scanout

/-! ## Entries back to front -/

namespace StackEntry

theorem before_iff {a b : StackEntry} :
    a.before b = true ↔ a.z.toNat < b.z.toNat
      ∨ a.z.toNat = b.z.toNat ∧ a.layer.number.toNat < b.layer.number.toNat := by
  simp [before, UInt32.lt_iff_toNat_lt, UInt64.lt_iff_toNat_lt, UInt32.toNat_inj]

theorem before_trans {a b c : StackEntry} (left : a.before b = true) (right : b.before c = true) :
    a.before c = true := by
  rw [before_iff] at left right ⊢
  omega

theorem not_before_self (a : StackEntry) : ¬a.before a = true := by
  rw [before_iff]
  omega

theorem before_of_not_before {a b : StackEntry} (notBefore : ¬a.before b = true)
    (different : a ≠ b) : b.before a = true := by
  rw [before_iff] at notBefore ⊢
  have apart : ¬(a.z.toNat = b.z.toNat ∧ a.layer.number.toNat = b.layer.number.toNat) := by
    rintro ⟨z, number⟩
    obtain ⟨z', ⟨number'⟩⟩ := a
    obtain ⟨z'', ⟨number''⟩⟩ := b
    have sameZ : z' = z'' := UInt32.toNat_inj.mp z
    have sameNumber : number' = number'' := UInt64.toNat_inj.mp number
    exact different (by rw [sameZ, sameNumber])
  omega

end StackEntry

namespace StackOrder

/-- Every entry lies behind all that follow. -/
def Sorted (entries : List StackEntry) : Prop :=
  entries.Pairwise fun a b => a.before b = true

instance : Std.Irrefl fun a b : StackEntry => a.before b = true :=
  ⟨StackEntry.not_before_self⟩

instance : Std.Antisymm fun a b : StackEntry => a.before b = true :=
  ⟨fun a _ behind front => absurd (StackEntry.before_trans behind front) a.not_before_self⟩

theorem sorted_insertEntry {entry : StackEntry} {entries : List StackEntry}
    (sorted : Sorted entries) : Sorted (insertEntry entry entries) := by
  induction entries with
  | nil => exact List.pairwise_singleton _ _
  | cons next rest ih =>
      obtain ⟨behind, sortedRest⟩ := List.pairwise_cons.mp sorted
      simp only [insertEntry]
      split
      · rename_i first
        refine List.pairwise_cons.mpr ⟨?_, sorted⟩
        intro other member
        rcases List.mem_cons.mp member with rfl | later
        · exact first
        · exact StackEntry.before_trans first (behind other later)
      · rename_i notFirst
        split
        · exact sorted
        · rename_i different
          refine List.pairwise_cons.mpr ⟨?_, ih sortedRest⟩
          intro other member
          rcases mem_insertEntry.mp member with rfl | later
          · exact StackEntry.before_of_not_before notFirst different
          · exact behind other later

theorem mem_insert {order : StackOrder} {z : UInt32} {layer : LayerId} {entry : StackEntry} :
    entry ∈ (order.insert z layer).entries ↔ entry = ⟨z, layer⟩ ∨ entry ∈ order.entries :=
  mem_insertEntry

theorem mem_remove {order : StackOrder} {z : UInt32} {layer : LayerId} {entry : StackEntry} :
    entry ∈ (order.remove z layer).entries ↔ entry ∈ order.entries ∧ entry ≠ ⟨z, layer⟩ := by
  simp [remove]

theorem sorted_insert {order : StackOrder} (sorted : Sorted order.entries) (z : UInt32)
    (layer : LayerId) : Sorted (order.insert z layer).entries := sorted_insertEntry sorted

theorem sorted_remove {order : StackOrder} (sorted : Sorted order.entries) (z : UInt32)
    (layer : LayerId) : Sorted (order.remove z layer).entries := sorted.filter _

end StackOrder

/-! ## Displays whose order is that of their layers -/

/-- The stacking order is that of the layers. -/
structure Display.Stacked (display : Display) : Prop where
  distinct : display.ids.Nodup
  sorted : StackOrder.Sorted display.order.entries
  entries : ∀ entry, entry ∈ display.order.entries
    ↔ ∃ layer, display.layer? entry.layer = some layer ∧ layer.z = entry.z

namespace Display

/-- A number above those of all layers is the number of none. -/
theorem not_mem_ids_of_fresh {display : Display} {id : LayerId}
    (fresh : ∀ layer ∈ display.layers, layer.id.number.toNat < id.number.toNat) :
    id ∉ display.ids := by
  intro member
  obtain ⟨layer, there, same⟩ := List.mem_map.mp member
  have less := fresh layer there
  rw [same] at less
  omega

namespace Stacked

variable {display after : Display}

theorem held (stacked : display.Stacked) {id : LayerId} {layer : Layer}
    (found : display.layer? id = some layer) : display.order.holds layer.z id = true := by
  have member := (stacked.entries ⟨layer.z, id⟩).mpr ⟨layer, found, rfl⟩
  simpa [StackOrder.holds] using member

/-- Only the layers and their order count. -/
theorem of_eq (stacked : display.Stacked) (layers : after.layers = display.layers)
    (order : after.order = display.order) : after.Stacked := by
  obtain ⟨distinct, sorted, entries⟩ := stacked
  refine ⟨?_, order ▸ sorted, ?_⟩
  · unfold ids
    rw [layers]
    exact distinct
  · unfold layer?
    rw [layers, order]
    exact entries

/-- Layers may change in their places as long as they keep their Z keys. -/
theorem of_amends {relation : Layer → Layer → Prop} (stacked : display.Stacked)
    (keeps : ∀ {layer amended}, relation layer amended → layer.z = amended.z)
    (amends : Amends relation display after) : after.Stacked where
  distinct := amends.ids ▸ stacked.distinct
  sorted := amends.order ▸ stacked.sorted
  entries := by
    intro entry
    rw [amends.order, stacked.entries]
    constructor
    · rintro ⟨layer, found, z⟩
      obtain ⟨amended, foundAfter, related⟩ := amends.layers found
      exact ⟨amended, foundAfter, (keeps related).symm.trans z⟩
    · rintro ⟨amended, foundAfter, z⟩
      obtain ⟨layer, found, related⟩ := amends.before foundAfter
      exact ⟨layer, found, (keeps related).trans z⟩

theorem addLayer (stacked : display.Stacked) {id : LayerId}
    (fresh : ∀ layer ∈ display.layers, layer.id.number.toNat < id.number.toNat) :
    (display.addLayer id).Stacked := by
  have new := not_mem_ids_of_fresh fresh
  refine ⟨?_, StackOrder.sorted_insert stacked.sorted 0 id, ?_⟩
  · rw [ids_addLayer]
    exact stacked.distinct.append (List.nodup_singleton id) (by simpa using new)
  · intro entry
    have order : (display.addLayer id).order = display.order.insert 0 id := rfl
    rw [order, StackOrder.mem_insert, stacked.entries, layer?_addLayer]
    by_cases here : entry.layer = id
    · rw [here, layer?_eq_none_iff.mpr new, if_pos rfl]
      constructor
      · rintro (rfl | ⟨layer, found, _⟩)
        · exact ⟨_, rfl, rfl⟩
        · cases found
      · rintro ⟨layer, found, z⟩
        obtain rfl := Option.some.inj found
        exact Or.inl (congrArg₂ StackEntry.mk z.symm here)
    · have other : entry ≠ ⟨0, id⟩ := fun same => here (congrArg StackEntry.layer same)
      rw [if_neg here, Option.or_none]
      exact or_iff_right other

theorem removeLayer (stacked : display.Stacked) {id : LayerId} {layer : Layer}
    (found : display.layer? id = some layer) : (display.removeLayer id).2.Stacked := by
  have order : (display.removeLayer id).2.order = display.order.remove layer.z id := by
    simp only [removeLayer_eq found, reshaped]
  refine ⟨?_, ?_, ?_⟩
  · rw [ids_removeLayer found]
    exact stacked.distinct.filter _
  · rw [order]
    exact StackOrder.sorted_remove stacked.sorted layer.z id
  · intro entry
    rw [order, StackOrder.mem_remove, stacked.entries, layer?_removeLayer found]
    by_cases here : entry.layer = id
    · rw [if_pos here, here, found]
      constructor
      · rintro ⟨⟨other, same, z⟩, different⟩
        obtain rfl := Option.some.inj same
        exact absurd (congrArg₂ StackEntry.mk z.symm here) different
      · rintro ⟨other, missing, _⟩
        cases missing
    · rw [if_neg here]
      exact and_iff_left fun same => here (congrArg StackEntry.layer same)

theorem moved (stacked : display.Stacked) {id : LayerId} {layer : Layer}
    (found : display.layer? id = some layer) (z : UInt32) :
    Stacked (reshaped { display.putLayer { layer with z := z } with
      order := (display.order.remove layer.z id).insert z id }) where
  distinct := (ids_putLayer display { layer with z := z }) ▸ stacked.distinct
  sorted :=
    StackOrder.sorted_insert (StackOrder.sorted_remove stacked.sorted layer.z id) z id
  entries := by
    intro entry
    have number : layer.id = id := id_of_layer? found
    have lookup : (display.putLayer { layer with z := z }).layer? entry.layer
        = if entry.layer = id then (display.layer? entry.layer).map fun _ =>
            { layer with z := z } else display.layer? entry.layer :=
      number ▸ layer?_putLayer display { layer with z := z } entry.layer
    change entry ∈ ((display.order.remove layer.z id).insert z id).entries
      ↔ ∃ other, (display.putLayer { layer with z := z }).layer? entry.layer = some other
        ∧ other.z = entry.z
    rw [StackOrder.mem_insert, StackOrder.mem_remove, stacked.entries, lookup]
    by_cases here : entry.layer = id
    · rw [if_pos here, here, found]
      constructor
      · rintro (rfl | ⟨⟨other, same, oldZ⟩, different⟩)
        · exact ⟨_, rfl, rfl⟩
        · obtain rfl := Option.some.inj same
          exact absurd (congrArg₂ StackEntry.mk oldZ.symm here) different
      · rintro ⟨other, same, newZ⟩
        obtain rfl := Option.some.inj same
        exact Or.inl (congrArg₂ StackEntry.mk newZ.symm here)
    · have notNew : entry ≠ ⟨z, id⟩ := fun same => here (congrArg StackEntry.layer same)
      have notOld : entry ≠ ⟨layer.z, id⟩ := fun same => here (congrArg StackEntry.layer same)
      rw [if_neg here, or_iff_right notNew, and_iff_left notOld]

end Stacked

theorem stacked_edited {display after : Display} {id : LayerId} (stacked : display.Stacked)
    (edited : display.Edited id after) : after.Stacked := by
  have put : ∀ {layer changed : Layer}, display.layer? id = some layer →
      changed.id = layer.id → changed.z = layer.z → (display.putLayer changed).Stacked := by
    intro layer changed found same z
    have amends : Amends (fun layer amended => layer.z = amended.z) display
        (display.putLayer changed) := by
      refine Amends.putLayer ?_ found same z.symm
      exact fun _ => rfl
    exact stacked.of_amends (fun kept => kept) amends
  cases edited with
  | kept => exact stacked
  | restyled found same restyled => exact put found same restyled.alike.z.symm
  | @recomposed layer composition found =>
      have kept : (display.putLayer (layer.setComposition composition).1).Stacked :=
        put found rfl rfl
      exact kept.of_eq rfl rfl
  | @refilled layer content found =>
      have kept : (display.putLayer { layer with content := content }).Stacked :=
        put found rfl rfl
      exact kept.of_eq rfl rfl
  | reshaped found same z composition => exact (put found same z).of_eq rfl rfl
  | moved found => exact stacked.moved found _

theorem stacked_turned {display after : Display} {turn : Turn} (stacked : display.Stacked)
    (fresh : turn.FreshOn display) (turned : display.Turned turn after) : after.Stacked := by
  cases turned with
  | still forgotten => exact stacked
  | added => exact stacked.addLayer fresh
  | removed found => exact stacked.removeLayer found
  | edited edited => exact stacked_edited stacked edited
  | clientTarget => exact stacked.of_eq rfl rfl
  | outputBuffer => exact stacked.of_eq rfl rfl
  | accepted validated =>
      exact (stacked.of_amends Layer.Alike.z (display.amends_foldl_acceptChange _)).of_eq rfl rfl
  | colorMode => exact stacked.of_eq rfl rfl
  | negotiated modified proposed agreed complete =>
      exact (stacked.of_amends Layer.Alike.z (display.amends_latchLayers _)).of_eq rfl rfl
  | presented asking committed complete =>
      exact (stacked.of_amends (fun restyled => restyled.alike.z)
        (amends_foldl_pushReleaseFence _ display)).of_eq rfl rfl
  | switched => exact stacked.of_eq rfl rfl
  | powered => exact stacked.of_eq rfl rfl

/-- Every turn keeps the order that of the layers. -/
theorem stacked_turn {display : Display} (stacked : display.Stacked) {turn : Turn}
    (fresh : turn.FreshOn display) : (display.turn turn).2.Stacked :=
  stacked_turned stacked fresh (turned_turn stacked.held turn)

theorem ids_edited {display after : Display} {id : LayerId} (edited : display.Edited id after) :
    after.ids = display.ids := by
  cases edited with
  | kept => rfl
  | _ => exact ids_putLayer display _

/-- No turn changes the order in which layers are listed; a layer that it adds comes last. -/
theorem ids_turned {display after : Display} {turn : Turn} (turned : display.Turned turn after) :
    after.ids.Sublist (display.ids ++ turn.added?.toList) := by
  have same : after.ids = display.ids → after.ids.Sublist (display.ids ++ turn.added?.toList) := by
    intro kept
    rw [kept]
    exact List.sublist_append_left display.ids _
  cases turned with
  | added =>
      rw [ids_addLayer]
      exact List.Sublist.refl _
  | removed found =>
      rw [ids_removeLayer found]
      exact List.filter_sublist.trans (List.sublist_append_left display.ids _)
  | edited edited => exact same (ids_edited edited)
  | @accepted validation validated =>
      exact same (display.amends_foldl_acceptChange validation.typeChanges).ids
  | @negotiated prepare proposal decisions modified proposed agreed complete =>
      exact same (display.amends_latchLayers proposal).ids
  | @presented commit frame fences asking committed complete =>
      exact same (amends_foldl_pushReleaseFence (display.releaseShares fences) display).ids
  | _ => exact same rfl

/-- Only a turn that adds a layer brings a new number. -/
theorem mem_ids_turned {display after : Display} {turn : Turn}
    (turned : display.Turned turn after) {id : LayerId} (member : id ∈ after.ids) :
    id ∈ display.ids ∨ turn = .addLayer id := by
  rcases List.mem_append.mp ((ids_turned turned).subset member) with old | new
  · exact Or.inl old
  · exact Or.inr (Turn.added?_eq_some_iff.mp (Option.mem_toList.mp new))

theorem stacked_after {display : Display} (stacked : display.Stacked) {turns : List Turn}
    (follows : display.Follows turns) : (display.after turns).Stacked := by
  induction turns generalizing display with
  | nil => exact stacked
  | cons turn rest ih => exact ih (stacked_turn stacked follows.1) follows.2

/-- What every turn keeps, on a display whose order is that of its layers, turns keep. -/
theorem after_induction {motive : Memory → Display → Prop}
    (step : ∀ {memory display turn after}, display.Stacked → motive memory display →
      display.Turned turn after → motive (memory.next display turn) after)
    (memory : Memory) {display : Display} (stacked : display.Stacked)
    (start : motive memory display) {turns : List Turn} (follows : display.Follows turns) :
    motive (memory.through display turns) (display.after turns) := by
  induction turns generalizing memory display with
  | nil => exact start
  | cons turn rest ih =>
      obtain ⟨fresh, follows⟩ := follows
      have turned := turned_turn stacked.held turn
      exact ih _ (stacked_turned stacked fresh turned) (step stacked start turned) follows

theorem stacked_of_empty {display : Display} (noLayers : display.layers = [])
    (noOrder : display.order = {}) : display.Stacked where
  distinct := by simp [ids, noLayers]
  sorted := by simp [noOrder, StackOrder.Sorted]
  entries := by simp [noOrder, layer?, noLayers]

/-! ## The list of layers that frames are built from -/

theorem layersInOrder_nodup {display : Display} (stacked : display.Stacked) :
    display.layersInOrder.Nodup := by
  refine List.pairwise_map.mpr (stacked.sorted.imp_of_mem ?_)
  intro a b memberA memberB before same
  obtain ⟨layer, found, z⟩ := (stacked.entries a).mp memberA
  obtain ⟨other, found', z'⟩ := (stacked.entries b).mp memberB
  rw [same, found'] at found
  obtain rfl := Option.some.inj found
  have equal : a = b := by
    cases a
    cases b
    exact congrArg₂ StackEntry.mk (z.symm.trans z') same
  exact StackEntry.not_before_self b (equal ▸ before)

theorem mem_layersInOrder_iff {display : Display} (stacked : display.Stacked) {id : LayerId} :
    id ∈ display.layersInOrder ↔ ∃ layer, display.layer? id = some layer := by
  constructor
  · intro member
    obtain ⟨entry, there, rfl⟩ := List.mem_map.mp member
    obtain ⟨layer, found, _⟩ := (stacked.entries entry).mp there
    exact ⟨layer, found⟩
  · rintro ⟨layer, found⟩
    exact List.mem_map.mpr ⟨⟨layer.z, id⟩, (stacked.entries _).mpr ⟨layer, found, rfl⟩, rfl⟩

theorem mem_layersInOrder {display : Display} (stacked : display.Stacked) {id : LayerId} :
    id ∈ display.layersInOrder ↔ id ∈ display.ids :=
  (mem_layersInOrder_iff stacked).trans mem_ids_iff.symm

/-- These are the layers of a display, back to front: by Z key and, at one key, by number. -/
structure BackToFront (display : Display) (layers : List Layer) : Prop where
  perm : layers.Perm display.layers
  sorted : layers.Pairwise fun behind front =>
    behind.z < front.z ∨ behind.z = front.z ∧ behind.id.number < front.id.number

/-- The layers in the display's order. -/
def stack (display : Display) : List Layer := display.layersInOrder.filterMap display.layer?

theorem stack_entries {display : Display} (stacked : display.Stacked) :
    display.stack.map (fun layer => ⟨layer.z, layer.id⟩) = display.order.entries := by
  have every : ∀ entries : List StackEntry, (∀ entry ∈ entries, entry ∈ display.order.entries) →
      ((entries.map (·.layer)).filterMap display.layer?).map
        (fun layer => (⟨layer.z, layer.id⟩ : StackEntry)) = entries := by
    intro entries there
    induction entries with
    | nil => rfl
    | cons entry rest ih =>
        obtain ⟨layer, found, z⟩ :=
          (stacked.entries entry).mp (there entry List.mem_cons_self)
        rw [List.map_cons, List.filterMap_cons_some found, List.map_cons,
          ih fun other member => there other (List.mem_cons_of_mem _ member)]
        congr 1
        exact congrArg₂ StackEntry.mk z (id_of_layer? found)
  exact every display.order.entries fun _ member => member

theorem stack_ids {display : Display} (stacked : display.Stacked) :
    display.stack.map (·.id) = display.layersInOrder := by
  have mapped := congrArg (List.map (·.layer)) (stack_entries stacked)
  rw [List.map_map] at mapped
  exact mapped

theorem layer?_of_mem_stack {display : Display} {layer : Layer} (member : layer ∈ display.stack) :
    display.layer? layer.id = some layer := by
  obtain ⟨id, _, found⟩ := List.mem_filterMap.mp member
  rw [id_of_layer? found, found]

/-- The layers of the stack stand where their numbers are listed. -/
theorem stack_getElem? {display : Display} (stacked : display.Stacked) {index : Nat}
    {id : LayerId} (listed : display.layersInOrder[index]? = some id) :
    ∃ layer, display.stack[index]? = some layer ∧ display.layer? id = some layer := by
  rw [← stack_ids stacked, List.getElem?_map, Option.map_eq_some_iff] at listed
  obtain ⟨layer, there, rfl⟩ := listed
  exact ⟨layer, there, layer?_of_mem_stack (List.mem_of_getElem? there)⟩

/-- The order of a display is the order that its layers' keys and numbers ask for. -/
theorem backToFront_stack {display : Display} (stacked : display.Stacked) :
    display.BackToFront display.stack where
  perm := by
    have distinct : display.stack.Nodup := by
      refine List.Nodup.of_map (·.id) ?_
      rw [stack_ids stacked]
      exact layersInOrder_nodup stacked
    refine (List.perm_ext_iff_of_nodup distinct (stacked.distinct.of_map _)).mpr ?_
    intro layer
    constructor
    · exact fun member => mem_of_layer? (layer?_of_mem_stack member)
    · intro there
      have found := layer?_of_mem stacked.distinct there
      have member := (mem_layersInOrder_iff stacked).mpr ⟨layer, found⟩
      exact List.mem_filterMap.mpr ⟨layer.id, member, found⟩
  sorted := by
    have sorted := stacked.sorted
    rw [← stack_entries stacked] at sorted
    refine (List.pairwise_map.mp sorted).imp ?_
    intro behind front before
    simpa [StackEntry.before] using before

/-- The order has one entry for each layer, with the layer's Z key, and none besides. -/
theorem entries_perm {display : Display} (stacked : display.Stacked) :
    display.order.entries.Perm (display.layers.map fun layer => ⟨layer.z, layer.id⟩) := by
  rw [← stack_entries stacked]
  exact (backToFront_stack stacked).perm.map _

theorem mem_entries_iff {display : Display} (stacked : display.Stacked) {entry : StackEntry} :
    entry ∈ display.order.entries
      ↔ (display.layer? entry.layer).map (·.z) = some entry.z := by
  rw [stacked.entries, Option.map_eq_some_iff]

/-- The order depends on the layers' Z keys alone. -/
theorem layersInOrder_eq_of_keys {display other : Display} (stacked : display.Stacked)
    (stackedOther : other.Stacked)
    (keys : ∀ id, (other.layer? id).map (·.z) = (display.layer? id).map (·.z)) :
    other.layersInOrder = display.layersInOrder := by
  have same : other.order.entries = display.order.entries := by
    refine List.Pairwise.eq_of_mem_iff stackedOther.sorted stacked.sorted ?_
    intro entry
    rw [mem_entries_iff stackedOther, mem_entries_iff stacked, keys]
  exact congrArg (List.map (·.layer)) same

end Display

end Scanout
