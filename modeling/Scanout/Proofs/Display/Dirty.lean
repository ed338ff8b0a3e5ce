import Scanout.Proofs.Device.Opened

/-!
# The count of dirty layers

A display does not look at its layers to know whether a composition waits to be committed. It keeps
a count, to which every change of a layer adds its effect. `Counted` says that the count is the
number of dirty layers; every turn keeps it. So no effect ever takes away from a count of zero, and
a count of zero means that every layer's pending composition is its committed one.
-/

set_option autoImplicit false

namespace Scanout

/-- The layers with one of them in another form, where `dirty` counts those of a kind. -/
theorem countP_replace {layers : List Layer} {layer changed : Layer} (dirty : Layer → Bool)
    (distinct : (layers.map (·.id)).Nodup) (there : layer ∈ layers)
    (same : changed.id = layer.id) :
    (layers.map fun other => if other.id == changed.id then changed else other).countP dirty
        + (dirty layer).toNat
      = layers.countP dirty + (dirty changed).toNat := by
  induction layers with
  | nil => cases there
  | cons first rest ih =>
      obtain ⟨notIn, distinctRest⟩ := List.nodup_cons.mp distinct
      rcases List.mem_cons.mp there with rfl | later
      · -- no other layer has the number of the first
        have others : rest.map (fun other => if other.id == changed.id then changed else other)
            = rest := by
          refine (List.map_congr_left fun other member => ?_).trans (List.map_id rest)
          have apart : other.id ≠ changed.id := fun here =>
            notIn (List.mem_map.mpr ⟨other, member, here.trans same⟩)
          simp [apart]
        have here : (layer.id == changed.id) = true := by simp [same]
        rw [List.map_cons, others, if_pos here, List.countP_cons, List.countP_cons]
        cases dirty layer <;> cases dirty changed <;> simp
      · have apart : (first.id == changed.id) = false := by
          have different : first.id ≠ changed.id := fun here =>
            notIn (List.mem_map.mpr ⟨layer, later, (here.trans same).symm⟩)
          simpa using different
        rw [List.map_cons, apart, List.countP_cons, List.countP_cons]
        have inRest := ih distinctRest later
        simp only [Bool.false_eq_true, if_false]
        omega

theorem countP_without {layers : List Layer} {layer : Layer} (dirty : Layer → Bool)
    (distinct : (layers.map (·.id)).Nodup) (there : layer ∈ layers) :
    (layers.filter fun other => other.id != layer.id).countP dirty + (dirty layer).toNat
      = layers.countP dirty := by
  induction layers with
  | nil => cases there
  | cons first rest ih =>
      obtain ⟨notIn, distinctRest⟩ := List.nodup_cons.mp distinct
      rcases List.mem_cons.mp there with rfl | later
      · have others : rest.filter (fun other => other.id != layer.id) = rest := by
          refine List.filter_eq_self.mpr fun other member => ?_
          have apart : other.id ≠ layer.id := fun here =>
            notIn (List.mem_map.mpr ⟨other, member, here⟩)
          simpa using apart
        rw [List.filter_cons_of_neg (by simp), others, List.countP_cons]
        cases dirty layer <;> simp
      · have apart : (first.id != layer.id) = true := by
          have different : first.id ≠ layer.id := fun here =>
            notIn (List.mem_map.mpr ⟨layer, later, here.symm⟩)
          simpa using different
        have inRest := ih distinctRest later
        rw [List.filter_cons, if_pos apart, List.countP_cons, List.countP_cons]
        omega

namespace Display

/-- The count is the number of layers whose pending composition is not committed. -/
def Counted (display : Display) : Prop :=
  display.dirtyLayers = display.layers.countP (·.isDirty)

theorem countP_putLayer {display : Display} (distinct : display.ids.Nodup) {id : LayerId}
    {layer changed : Layer} (found : display.layer? id = some layer)
    (same : changed.id = layer.id) :
    (display.putLayer changed).layers.countP (·.isDirty) + layer.isDirty.toNat
      = display.layers.countP (·.isDirty) + changed.isDirty.toNat :=
  countP_replace (·.isDirty) distinct (mem_of_layer? found) same

theorem isDirty_le_countP {display : Display} {id : LayerId} {layer : Layer}
    (found : display.layer? id = some layer) :
    layer.isDirty.toNat ≤ display.layers.countP (·.isDirty) := by
  cases dirty : layer.isDirty with
  | false => exact Nat.zero_le _
  | true => exact List.countP_pos_iff.mpr ⟨layer, mem_of_layer? found, dirty⟩

namespace Counted

variable {display : Display}

theorem recount (counted : display.Counted) (distinct : display.ids.Nodup) {id : LayerId}
    {layer changed : Layer} (found : display.layer? id = some layer)
    (same : changed.id = layer.id) {count : Nat}
    (effect : count + layer.isDirty.toNat = display.dirtyLayers + changed.isDirty.toNat) :
    Counted { display.putLayer changed with dirtyLayers := count } := by
  have replaced := countP_putLayer distinct found same
  change count = (display.putLayer changed).layers.countP _
  unfold Counted at counted
  omega

theorem putLayer (counted : display.Counted) (distinct : display.ids.Nodup) {id : LayerId}
    {layer changed : Layer} (found : display.layer? id = some layer)
    (same : changed.id = layer.id) (composition : changed.composition = layer.composition) :
    (display.putLayer changed).Counted := by
  have dirty : changed.isDirty = layer.isDirty := congrArg Latched.isDirty composition
  exact counted.recount distinct found same (by rw [dirty])

theorem isDirty_le (counted : display.Counted) {id : LayerId} {layer : Layer}
    (found : display.layer? id = some layer) : layer.isDirty.toNat ≤ display.dirtyLayers :=
  counted ▸ isDirty_le_countP found

theorem latchLayer (counted : display.Counted) (distinct : display.ids.Nodup) (id : LayerId) :
    (display.latchLayer id).Counted := by
  unfold Display.latchLayer
  cases found : display.layer? id with
  | none => exact counted
  | some layer =>
      dsimp only
      split
      · exact counted
      · have clean : layer.latchComposition.1.isDirty = false := by
          rw [Layer.latchComposition_eq]
          exact Latched.isDirty_ofValue layer.pending
        have same : layer.latchComposition.1.id = layer.id := rfl
        have effect := Latched.applyTo_latch layer.composition (counted.isDirty_le found)
        exact counted.recount distinct found same (by rw [clean]; exact effect)

theorem latchLayers (counted : display.Counted) (distinct : display.ids.Nodup)
    (proposal : Proposal) : (display.latchLayers proposal).Counted := by
  unfold Display.latchLayers
  induction proposal.layers generalizing display with
  | nil => exact counted
  | cons entry rest ih =>
      refine ih (counted.latchLayer distinct entry.1) ?_
      rw [(display.amends_latchLayer entry.1).ids]
      exact distinct

theorem acceptChange (counted : display.Counted) (distinct : display.ids.Nodup)
    (change : LayerId × Composition) : (display.acceptChange change).Counted := by
  unfold Display.acceptChange
  cases found : display.layer? change.1 with
  | none => exact counted
  | some layer =>
      dsimp only
      have clean : (layer.setComposition change.2).1.latchComposition.1.isDirty = false := by
        rw [Layer.latchComposition_eq]
        exact Latched.isDirty_ofValue _
      have same : (layer.setComposition change.2).1.latchComposition.1.id = layer.id := rfl
      have effect := Latched.applyTo_latch_setPending layer.composition change.2
        (counted.isDirty_le found)
      exact counted.recount distinct found same (by rw [clean]; exact effect)

theorem foldl_acceptChange (counted : display.Counted) (distinct : display.ids.Nodup)
    (changes : List (LayerId × Composition)) :
    (changes.foldl Display.acceptChange display).Counted := by
  induction changes generalizing display with
  | nil => exact counted
  | cons change rest ih =>
      refine ih (counted.acceptChange distinct change) ?_
      rw [(display.amends_acceptChange change).ids]
      exact distinct

theorem addLayer (counted : display.Counted) (id : LayerId) :
    (display.addLayer id).Counted := by
  change display.dirtyLayers = (display.layers ++ [_]).countP _
  rw [List.countP_append, counted]
  rfl

theorem removeLayer (counted : display.Counted) (distinct : display.ids.Nodup) {id : LayerId}
    {layer : Layer} (found : display.layer? id = some layer) :
    (display.removeLayer id).2.Counted := by
  have without := countP_without (·.isDirty) distinct (mem_of_layer? found)
  have number := id_of_layer? found
  subst number
  rw [removeLayer_eq found]
  change (if layer.isDirty then display.dirtyLayers - 1 else display.dirtyLayers)
    = (display.layers.filter fun other => other.id != layer.id).countP _
  unfold Counted at counted
  cases dirty : layer.isDirty with
  | true =>
      rw [dirty, Bool.toNat_true] at without
      rw [if_pos rfl]
      omega
  | false =>
      rw [dirty, Bool.toNat_false] at without
      rw [if_neg Bool.false_ne_true]
      omega

theorem foldl_pushReleaseFence (counted : display.Counted) (distinct : display.ids.Nodup)
    (shares : List (LayerId × Fence)) :
    (shares.foldl pushReleaseFence display).Counted := by
  induction shares generalizing display with
  | nil => exact counted
  | cons share rest ih =>
      refine ih ?_ ((display.amends_pushReleaseFence share).ids ▸ distinct)
      unfold pushReleaseFence
      cases found : display.layer? share.1 with
      | none => exact counted
      | some layer =>
          have same : (layer.pushReleaseFence share.2).id = layer.id := rfl
          exact counted.putLayer distinct found same rfl

end Counted

theorem counted_edited {display after : Display} {id : LayerId} (stacked : display.Stacked)
    (counted : display.Counted) (edited : display.Edited id after) : after.Counted := by
  cases edited with
  | kept => exact counted
  | restyled found same restyled =>
      exact counted.putLayer stacked.distinct found same restyled.composition
  | @recomposed layer composition found =>
      have same : (layer.setComposition composition).1.id = layer.id := rfl
      exact counted.recount stacked.distinct found same
        (Latched.applyTo_setPending layer.composition composition (counted.isDirty_le found))
  | @refilled layer content found =>
      have same : ({ layer with content := content } : Layer).id = layer.id := rfl
      exact counted.putLayer stacked.distinct found same rfl
  | reshaped found same z composition =>
      exact counted.putLayer stacked.distinct found same composition
  | @moved layer z found =>
      have same : ({ layer with z := z } : Layer).id = layer.id := rfl
      exact counted.putLayer stacked.distinct found same rfl

theorem counted_turned {display after : Display} {turn : Turn} (stacked : display.Stacked)
    (counted : display.Counted) (turned : display.Turned turn after) : after.Counted := by
  cases turned with
  | added => exact counted.addLayer _
  | removed found => exact counted.removeLayer stacked.distinct found
  | edited edited => exact counted_edited stacked counted edited
  | accepted validated => exact counted.foldl_acceptChange stacked.distinct _
  | @negotiated prepare proposal decisions modified proposed agreed complete =>
      exact counted.latchLayers stacked.distinct proposal
  | presented asking committed complete =>
      exact counted.foldl_pushReleaseFence stacked.distinct _
  | _ => exact counted

theorem counted_after {display : Display} (stacked : display.Stacked) (counted : display.Counted)
    {turns : List Turn} (follows : display.Follows turns) : (display.after turns).Counted :=
  after_induction (motive := fun _ display => display.Counted) counted_turned {} stacked counted
    follows

/-- With a count of zero, every layer is committed as it is asked for. -/
theorem pending_eq_committed {display : Display} (counted : display.Counted)
    (clean : display.dirtyLayers = 0) {id : LayerId} {layer : Layer}
    (found : display.layer? id = some layer) : layer.pending = layer.committed := by
  have below := counted.isDirty_le found
  refine Latched.pending_eq_committed ?_
  cases dirty : layer.composition.isDirty with
  | false => rfl
  | true =>
      have isDirty : layer.isDirty = true := dirty
      rw [isDirty, clean] at below
      exact absurd below (by decide)

end Display

namespace System

variable {σ : Type} {backend : Backend σ} {system : System σ}

theorem counted_of_opened (opened : system.Opened backend) : system.device.display.Counted := by
  obtain ⟨id, name, required, configs, same⟩ := opened_display opened
  rw [same]
  rfl

theorem counted_run (opened : system.Opened backend) (actions : List Action) :
    (system.run backend actions).device.display.Counted := by
  have sound := sound_of_opened opened
  rw [run_display]
  exact Display.counted_after sound.stacked (counted_of_opened opened)
    (follows_turns sound backend actions)

end System

end Scanout
