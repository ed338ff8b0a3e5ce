import Scanout.Proofs.Display.Flagged

/-!
# Changes of two layers commute

What a client is told about an alteration of a layer, and what becomes of the layer, depends on the
layer alone (`turn_eq`), but for the position of a cursor, which may be set or not as the display's
state allows (`movesCursor`). `layer?_edit` says of every edit, that one included, what becomes of
all layers.

Two alterations share the stacking order and the count of dirty layers, which they change by hand.
But the order of a stacked display and the count of a counted one follow from its layers, so both
come out the same when the layers do (`turn_comm`).
-/

set_option autoImplicit false

namespace Scanout

/-- What a client does to one layer. -/
inductive Alteration where
  | destroy
  | edit (edit : LayerEdit)

/-- The layer after an edit that does not set the position of a cursor. -/
def LayerEdit.applied (layer : Layer) : LayerEdit → Layer
  | .z key => { layer with z := key }
  | .composition asked => (layer.setComposition asked).1
  | .buffer handle acquire => { layer with content := ⟨handle, acquire⟩ }
  | .surfaceDamage rects => { layer with surfaceDamage := rects }
  | .dataspace space => { layer with dataspace := space }
  | edit =>
    match edit.geometry? layer.geometry with
    | none => layer
    | some geometry => { layer with geometry := geometry }

namespace Alteration

def setsCursor : Alteration → Bool
  | edit (.cursor _ _) => true
  | _ => false

def turn (id : LayerId) : Alteration → Turn
  | destroy => .removeLayer id
  | edit change => .call (.edit id change)

def answer (layer : Layer) : Alteration → Except Error CallResult
  | edit (.buffer _ _) => .ok (.replaced layer.content)
  | edit (.planeAlpha alpha) =>
    if 0.0 ≤ alpha ∧ alpha ≤ 1.0 then .ok .done else .error .badParameter
  | _ => .ok .done

def applied (layer : Layer) : Alteration → Option Layer
  | destroy => none
  | edit change => some (change.applied layer)

/-- The last validation does not hold any more. -/
def isEffectiveOn (layer : Layer) : Alteration → Bool
  | destroy => true
  | edit change => change.isEffectiveOn layer

def reshapes (layer : Layer) : Alteration → Bool
  | destroy => true
  | edit change => change.reshapes layer

/-- What becomes of any layer if the one with this number is altered. -/
def on (id : LayerId) (alteration : Alteration) (layer : Layer) : Option Layer :=
  if layer.id = id then alteration.applied layer else some layer

end Alteration

theorem LayerEdit.applied_of_asked {change : LayerEdit} {layer : Layer}
    {geometry : LayerGeometry} (asked : change.geometry? layer.geometry = some geometry) :
    change.applied layer = { layer with geometry := geometry } := by
  cases change with
  | z key => cases asked
  | composition composition => cases asked
  | buffer handle acquire => cases asked
  | surfaceDamage rects => cases asked
  | dataspace space => cases asked
  | cursor x y => cases asked
  | _ => simp only [applied, asked]

theorem LayerEdit.id_applied (layer : Layer) (change : LayerEdit) :
    (change.applied layer).id = layer.id := by
  cases change with
  | planeAlpha alpha =>
      simp only [applied]
      split <;> rfl
  | _ => rfl

/-- The layer with its place on the display moved. -/
def Layer.movedTo (layer : Layer) (x y : Float) : Layer :=
  { layer with geometry := { layer.geometry with
      displayFrame := layer.geometry.displayFrame.withOrigin x y } }

namespace Alteration

variable {first second : Alteration} {a b : LayerId}

theorem id_applied {alteration : Alteration} {layer changed : Layer}
    (applied : alteration.applied layer = some changed) : changed.id = layer.id := by
  cases alteration with
  | destroy => cases applied
  | edit change =>
      obtain rfl := Option.some.inj applied
      exact change.id_applied layer

theorem on_of_ne {layer : Layer} (other : layer.id ≠ a) : first.on a layer = some layer :=
  if_neg other

theorem bind_on {layer : Layer} (other : layer.id ≠ b) :
    (first.applied layer).bind (second.on b) = first.applied layer := by
  cases applied : first.applied layer with
  | none => rfl
  | some changed => exact on_of_ne (id_applied applied ▸ other)

theorem on_comm (first second : Alteration) (apart : a ≠ b) (layers : List Layer) :
    (layers.filterMap (first.on a)).filterMap (second.on b)
      = (layers.filterMap (second.on b)).filterMap (first.on a) := by
  rw [List.filterMap_filterMap, List.filterMap_filterMap]
  congr 1
  funext layer
  by_cases hereA : layer.id = a
  · have other : layer.id ≠ b := hereA ▸ apart
    rw [on_of_ne other, on, if_pos hereA, bind_on other, Option.bind_some, on, if_pos hereA]
  · rw [on_of_ne hereA, Option.bind_some]
    by_cases hereB : layer.id = b
    · rw [on, if_pos hereB, bind_on hereA]
    · rw [on_of_ne hereB, Option.bind_some, on_of_ne hereA]

theorem find?_on (apart : a ≠ b) (layers : List Layer) :
    (layers.filterMap (first.on a)).find? (fun layer => layer.id == b)
      = layers.find? fun layer => layer.id == b := by
  induction layers with
  | nil => rfl
  | cons layer rest ih =>
      by_cases here : layer.id = a
      · have differs : (layer.id == b) = false := by simpa using here ▸ apart
        cases applied : first.applied layer with
        | none =>
            rw [List.filterMap_cons_none (by rw [on, if_pos here, applied]), ih, List.find?_cons,
              differs]
        | some changed =>
            have apartStill : (changed.id == b) = false := id_applied applied ▸ differs
            rw [List.filterMap_cons_some (by rw [on, if_pos here, applied]), List.find?_cons,
              apartStill, ih, List.find?_cons, differs]
      · rw [List.filterMap_cons_some (on_of_ne here), List.find?_cons, List.find?_cons, ih]

end Alteration

namespace Display

variable {display other : Display} {id : LayerId} {layer : Layer}

/-! ## What follows from the layers -/

theorem order_eq_of_layers (stacked : display.Stacked) (stackedOther : other.Stacked)
    (layers : other.layers = display.layers) : other.order = display.order := by
  have lookup : other.layer? = display.layer? := by
    funext id
    unfold layer?
    rw [layers]
  have entries : other.order.entries = display.order.entries := by
    refine List.Pairwise.eq_of_mem_iff stackedOther.sorted stacked.sorted ?_
    intro entry
    rw [mem_entries_iff stackedOther, mem_entries_iff stacked, lookup]
  exact congrArg StackOrder.mk entries

theorem dirtyLayers_eq_of_layers (counted : display.Counted) (countedOther : other.Counted)
    (layers : other.layers = display.layers) : other.dirtyLayers = display.dirtyLayers := by
  unfold Counted at counted countedOther
  rw [countedOther, counted, layers]

/-! ## One alteration -/

theorem confined_edited {after : Display} (edited : display.Edited id after) :
    ∃ layers order count resend validated, after = { display with
      layers := layers
      order := order
      dirtyLayers := count
      needsFullResend := resend
      validated := validated } := by
  cases edited <;> exact ⟨_, _, _, _, _, rfl⟩

theorem eq_of_layer? (distinct : display.ids.Nodup) (found : display.layer? id = some layer)
    {other : Layer} (there : other ∈ display.layers) (here : other.id = id) : other = layer := by
  have same := layer?_of_mem distinct there
  rw [here, found] at same
  exact (Option.some.inj same).symm

theorem layers_putLayer (distinct : display.ids.Nodup) (found : display.layer? id = some layer)
    {alteration : Alteration} {changed : Layer}
    (applied : alteration.applied layer = some changed) :
    (display.putLayer changed).layers = display.layers.filterMap (alteration.on id) := by
  have number : changed.id = id := (Alteration.id_applied applied).trans (id_of_layer? found)
  unfold putLayer
  rw [← List.filterMap_eq_map]
  apply List.filterMap_congr
  intro other there
  by_cases here : other.id = id
  · obtain rfl := eq_of_layer? distinct found there here
    simp [Alteration.on, here, number, applied]
  · simp [Alteration.on, here, number]

theorem layers_of_kept (distinct : display.ids.Nodup) (found : display.layer? id = some layer)
    {alteration : Alteration} (kept : alteration.applied layer = some layer) :
    display.layers = display.layers.filterMap (alteration.on id) := by
  have each : ∀ other ∈ display.layers, some other = alteration.on id other := by
    intro other there
    by_cases here : other.id = id
    · obtain rfl := eq_of_layer? distinct found there here
      rw [Alteration.on, if_pos here, kept]
    · exact (Alteration.on_of_ne here).symm
  exact List.filterMap_some.symm.trans (List.filterMap_congr each)

/-- The client is told, and the layers become, what the altered layer alone determines. -/
structure Alters (display : Display) (id : LayerId) (layer : Layer) (alteration : Alteration)
    (outcome : Except Error CallResult × Display) : Prop where
  told : outcome.1 = alteration.answer layer
  layers : outcome.2.layers = display.layers.filterMap (alteration.on id)

section

variable (distinct : display.ids.Nodup) (found : display.layer? id = some layer)

include distinct found

theorem alters_setGeometry (update : LayerGeometry → LayerGeometry) {change : LayerEdit}
    (told : (Alteration.edit change).answer layer = .ok .done)
    (updates : change.geometry? layer.geometry = some (update layer.geometry)) :
    display.Alters id layer (.edit change)
      ((editDone (display.setGeometry id update)).1.map EditResult.toCallResult,
        (display.setGeometry id update).2) := by
  have layers : (display.putLayer { layer with geometry := update layer.geometry }).layers
      = display.layers.filterMap ((Alteration.edit change).on id) :=
    layers_putLayer distinct found (congrArg some (LayerEdit.applied_of_asked updates))
  simp only [editDone, setGeometry, found]
  split
  · exact ⟨told.symm, layers⟩
  · exact ⟨told.symm, layers⟩

theorem alters_edit (stacked : display.Stacked) {change : LayerEdit}
    (own : (Alteration.edit change).setsCursor = false) :
    display.Alters id layer (.edit change) (display.call (.edit id change)) := by
  cases change with
  | z key =>
      simp only [call, edit, editDone, setZ, found]
      split
      · rename_i same
        refine ⟨rfl, layers_of_kept distinct found ?_⟩
        rw [← same]
        rfl
      · have moved : (display.putLayer { layer with z := key }).order.move? id layer.z key
            = some ((display.order.remove layer.z id).insert key id) :=
          if_pos (stacked.held found)
        rw [moved]
        exact ⟨rfl, layers_putLayer distinct found rfl⟩
  | composition asked =>
      simp only [call, edit, editDone, setComposition, found]
      split
      · rename_i same
        refine ⟨rfl, layers_of_kept distinct found ?_⟩
        simp only [Alteration.applied, LayerEdit.applied, Layer.setComposition,
          Latched.setPending_eq, ← same]
        rfl
      · exact ⟨rfl, layers_putLayer distinct found rfl⟩
  | buffer handle acquire =>
      simp only [call, edit, setBuffer, found]
      exact ⟨rfl, layers_putLayer distinct found rfl⟩
  | surfaceDamage rects =>
      simp only [call, edit, editDone, setSurfaceDamage, found]
      exact ⟨rfl, layers_putLayer distinct found rfl⟩
  | dataspace space =>
      simp only [call, edit, editDone, setDataspace, found]
      split
      · exact ⟨rfl, layers_putLayer distinct found rfl⟩
      · exact ⟨rfl, layers_putLayer distinct found rfl⟩
  | planeAlpha alpha =>
      simp only [call, edit, setPlaneAlpha]
      split
      · rename_i inside
        exact alters_setGeometry distinct found _ (if_pos inside) (if_pos inside)
      · rename_i outside
        refine ⟨(if_neg outside).symm, layers_of_kept distinct found ?_⟩
        have refused : LayerEdit.geometry? layer.geometry (.planeAlpha alpha) = none :=
          if_neg outside
        simp only [Alteration.applied, LayerEdit.applied, refused]
  | cursor x y => cases own
  | displayFrame rect => exact alters_setGeometry distinct found _ rfl rfl
  | sourceCrop rect => exact alters_setGeometry distinct found _ rfl rfl
  | blend mode => exact alters_setGeometry distinct found _ rfl rfl
  | transform turned => exact alters_setGeometry distinct found _ rfl rfl
  | color filling => exact alters_setGeometry distinct found _ rfl rfl

end

/-- All of a display that an alteration touches. -/
theorem turn_eq (stacked : display.Stacked) (found : display.layer? id = some layer)
    {alteration : Alteration} (own : alteration.setsCursor = false) :
    ∃ order count, display.turn (alteration.turn id) = (alteration.answer layer, { display with
      layers := display.layers.filterMap (alteration.on id)
      order := order
      dirtyLayers := count
      needsFullResend := display.needsFullResend || alteration.reshapes layer
      validated := if alteration.isEffectiveOn layer then none else display.validated }) := by
  cases alteration with
  | destroy =>
      have others : Alteration.destroy.on id
          = Option.guard fun other : Layer => other.id != id := by
        funext other
        by_cases here : other.id = id
          <;> simp [Alteration.on, Alteration.applied, Option.guard, here]
      have layers : display.layers.filter (fun other => other.id != id)
          = display.layers.filterMap (Alteration.destroy.on id) := by
        rw [others, List.filterMap_eq_filter]
      simp only [Alteration.turn, Display.turn, removeLayer, found, reshaped, layers]
      exact ⟨_, _, by rw [Alteration.reshapes, Bool.or_true]; rfl⟩
  | edit change =>
      obtain ⟨told, layers⟩ := alters_edit stacked.distinct found stacked own
      have resend := needsFullResend_edit stacked id change
      have validated := validated_edit stacked id change
      rw [isReshaping, found, Option.any_some] at resend
      rw [isMutation_of_some found] at validated
      have edited : display.Edited id (display.edit id change).2 :=
        edited_edit (fun _ there => stacked.held there) change
      obtain ⟨others, order, count, note, record, same⟩ := confined_edited edited
      have after : (display.call (.edit id change)).2 = (display.edit id change).2 := rfl
      rw [after] at layers
      rw [same] at layers resend validated
      dsimp only at layers resend validated
      subst layers resend validated
      exact ⟨order, count, Prod.ext told (after.trans same)⟩

theorem stacked_altered (stacked : display.Stacked) (alteration : Alteration) (id : LayerId) :
    (display.turn (alteration.turn id)).2.Stacked := by
  cases alteration with
  | destroy => exact stacked_turn stacked trivial
  | edit change => exact stacked_turn stacked trivial

theorem counted_altered (stacked : display.Stacked) (counted : display.Counted)
    (alteration : Alteration) (id : LayerId) :
    (display.turn (alteration.turn id)).2.Counted :=
  counted_turned stacked counted (turned_turn stacked.held _)

theorem layer?_altered {first : Alteration} (stacked : display.Stacked) {a b : LayerId}
    {layerA : Layer} (found : display.layer? a = some layerA) (apart : a ≠ b)
    (own : first.setsCursor = false) :
    (display.turn (first.turn a)).2.layer? b = display.layer? b := by
  obtain ⟨order, count, altered⟩ := turn_eq stacked found own
  rw [altered]
  exact first.find?_on apart display.layers

/-! ## One edit -/

/-- The position of a cursor can be set: no overrides wait, and the layer is committed as one. -/
def movesCursor (display : Display) (layer : Layer) : Bool :=
  display.state != .validatedWithChanges && layer.committed == .cursor

/-- What an edit makes of a layer of the display. -/
def revised (display : Display) (layer : Layer) : LayerEdit → Layer
  | .cursor x y => if display.movesCursor layer then layer.movedTo x y else layer
  | edit => edit.applied layer

theorem setCursorPosition_of_moves (found : display.layer? id = some layer)
    (moves : display.movesCursor layer = true) (x y : Float) :
    display.setCursorPosition id x y = (.ok (), display.putLayer (layer.movedTo x y)) := by
  simp only [movesCursor, Bool.and_eq_true, bne_iff_ne, beq_iff_eq] at moves
  simp only [setCursorPosition, if_neg moves.1, found, if_pos moves.2]
  rfl

theorem setCursorPosition_of_rests (found : display.layer? id = some layer)
    (rests : display.movesCursor layer = false) (x y : Float) :
    ∃ cause, display.setCursorPosition id x y = (.error cause, display) := by
  unfold setCursorPosition
  split
  · exact ⟨_, rfl⟩
  · rename_i accepted
    have other : layer.committed ≠ .cursor := by
      intro committed
      simp [movesCursor, accepted, committed] at rests
    simp only [found, if_neg other]
    exact ⟨_, rfl⟩

theorem layer?_edited_other {after : Display} (edited : display.Edited id after)
    {other : LayerId} (apart : other ≠ id) : after.layer? other = display.layer? other := by
  have put : ∀ {layer changed : Layer}, display.layer? id = some layer →
      changed.id = layer.id → (display.putLayer changed).layer? other = display.layer? other := by
    intro layer changed found same
    apply layer?_putLayer_other
    rw [same, id_of_layer? found]
    exact apart
  cases edited with
  | kept => rfl
  | restyled found same restyled fences => exact put found same
  | recomposed found => exact put found rfl
  | refilled found => exact put found rfl
  | reshaped found same z composition fences => exact put found same
  | moved found => exact put found rfl

theorem find?_on_edit (edit : LayerEdit) (id : LayerId) (layers : List Layer) :
    (layers.filterMap ((Alteration.edit edit).on id)).find? (fun layer => layer.id == id)
      = (layers.find? fun layer => layer.id == id).map edit.applied := by
  induction layers with
  | nil => rfl
  | cons layer rest ih =>
      by_cases here : layer.id = id
      · have altered : (Alteration.edit edit).on id layer = some (edit.applied layer) := if_pos here
        have still : ((edit.applied layer).id == id) = true := by
          rw [edit.id_applied, here]
          exact beq_self_eq_true id
        rw [List.filterMap_cons_some altered, List.find?_cons, still, List.find?_cons,
          beq_iff_eq.mpr here]
        rfl
      · have differs : (layer.id == id) = false := by simpa using here
        rw [List.filterMap_cons_some (Alteration.on_of_ne here), List.find?_cons, differs, ih,
          List.find?_cons, differs]

theorem layer?_edit_own (stacked : display.Stacked) (found : display.layer? id = some layer)
    (edit : LayerEdit) :
    (display.edit id edit).2.layer? id = some (display.revised layer edit) := by
  by_cases own : (Alteration.edit edit).setsCursor = false
  · obtain ⟨order, count, altered⟩ := turn_eq stacked found own
    have layers : (display.edit id edit).2.layers
        = display.layers.filterMap ((Alteration.edit edit).on id) :=
      congrArg (fun outcome => outcome.2.layers) altered
    have revised : display.revised layer edit = edit.applied layer := by
      cases edit with
      | cursor x y => cases own
      | _ => rfl
    rw [revised]
    unfold layer? at found ⊢
    rw [layers, find?_on_edit, found]
    rfl
  · cases edit with
    | cursor x y =>
        simp only [edit, editDone, revised]
        cases moves : display.movesCursor layer with
        | true =>
            have number : layer.id = id := id_of_layer? found
            rw [setCursorPosition_of_moves found moves]
            exact layer?_putLayer_self found number
        | false =>
            obtain ⟨cause, rests⟩ := setCursorPosition_of_rests found moves x y
            rw [rests]
            exact found
    | _ => exact absurd rfl own

/-- An edit revises its own layer, and no other. -/
theorem layer?_edit (stacked : display.Stacked) (id other : LayerId) (edit : LayerEdit) :
    (display.edit id edit).2.layer? other
      = (display.layer? other).map fun layer =>
          if other = id then display.revised layer edit else layer := by
  have edited : display.Edited id (display.edit id edit).2 :=
    edited_edit (fun _ there => stacked.held there) edit
  by_cases here : other = id
  · subst here
    simp only [if_true]
    cases found : display.layer? other with
    | none =>
        have kept : (display.edit other edit).2 = display := by
          generalize (display.edit other edit).2 = after at edited
          cases edited with
          | kept => rfl
          | restyled there | recomposed there | refilled there | reshaped there | moved there =>
              cases found.symm.trans there
        rw [kept, found]
        rfl
    | some layer => exact layer?_edit_own stacked found edit
  · simp only [if_neg here, Option.map_id']
    exact layer?_edited_other edited here

/-! ## Two alterations -/

/-- Alterations of two layers may change places. -/
theorem turn_comm (stacked : display.Stacked) (counted : display.Counted) {a b : LayerId}
    {layerA layerB : Layer} (foundA : display.layer? a = some layerA)
    (foundB : display.layer? b = some layerB) (apart : a ≠ b) {first second : Alteration}
    (ownA : first.setsCursor = false) (ownB : second.setsCursor = false) :
    ((display.turn (first.turn a)).2.turn (second.turn b)).1
        = (display.turn (second.turn b)).1
      ∧ ((display.turn (first.turn a)).2.turn (second.turn b)).2
        = ((display.turn (second.turn b)).2.turn (first.turn a)).2 := by
  have stackedA := stacked_altered stacked first a
  have stackedB := stacked_altered stacked second b
  have countedA := counted_altered stacked counted first a
  have countedB := counted_altered stacked counted second b
  have stackedAB := stacked_altered stackedA second b
  have stackedBA := stacked_altered stackedB first a
  have countedAB := counted_altered stackedA countedA second b
  have countedBA := counted_altered stackedB countedB first a
  have stillB := (layer?_altered stacked foundA apart ownA).trans foundB
  have stillA := (layer?_altered stacked foundB apart.symm ownB).trans foundA
  obtain ⟨orderA, countA, alteredA⟩ := turn_eq stacked foundA ownA
  obtain ⟨orderB, countB, alteredB⟩ := turn_eq stacked foundB ownB
  obtain ⟨orderAB, countAB, alteredAB⟩ := turn_eq stackedA stillB ownB
  obtain ⟨orderBA, countBA, alteredBA⟩ := turn_eq stackedB stillA ownA
  rw [alteredAB] at stackedAB countedAB ⊢
  rw [alteredBA] at stackedBA countedBA ⊢
  rw [alteredA] at stackedAB countedAB ⊢
  rw [alteredB] at stackedBA countedBA ⊢
  refine ⟨rfl, ?_⟩
  -- order and count are not compared change by change: they follow from the layers
  have layers := Alteration.on_comm first second apart display.layers
  have order : orderAB = orderBA := order_eq_of_layers stackedBA stackedAB layers
  have count : countAB = countBA := dirtyLayers_eq_of_layers countedBA countedAB layers
  have note : (display.needsFullResend || first.reshapes layerA || second.reshapes layerB)
      = (display.needsFullResend || second.reshapes layerB || first.reshapes layerA) :=
    Bool.or_right_comm _ _ _
  have record : (if second.isEffectiveOn layerB then none
        else if first.isEffectiveOn layerA then none else display.validated)
      = if first.isEffectiveOn layerA then none
        else if second.isEffectiveOn layerB then none else display.validated := by
    cases first.isEffectiveOn layerA <;> cases second.isEffectiveOn layerB <;> rfl
  simp only [layers, order, count, note, record]

end Display

end Scanout
