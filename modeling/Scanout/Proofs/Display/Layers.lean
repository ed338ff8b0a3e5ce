import Scanout.Proofs.Display.Turn
import Scanout.Proofs.Geometry.Equality

/-!
# The layers of a display

Most of what happens to a display changes one layer in its place. `Amends` says so of a change:
the same layers are there, each of them is as a relation says, and beside them only the count of
dirty layers may differ. `Layer.Alike` is the relation that matters to a frame.
-/

set_option autoImplicit false

namespace Scanout

/-- A frame with one layer and a frame with the other differ only in composition, in damage and in
the place on the display. -/
structure Layer.Alike (layer other : Layer) : Prop where
  z : layer.z = other.z
  unsupported : layer.isUnsupported = other.isUnsupported
  content : layer.content = other.content
  look : layer.geometry.SameLook other.geometry

namespace Layer.Alike

theorem refl (layer : Layer) : layer.Alike layer :=
  ⟨rfl, rfl, rfl, LayerGeometry.SameLook.refl _⟩

theorem trans {first second third : Layer} (left : first.Alike second)
    (right : second.Alike third) : first.Alike third :=
  ⟨left.z.trans right.z, left.unsupported.trans right.unsupported,
    left.content.trans right.content, left.look.trans right.look⟩

end Layer.Alike

namespace Display

/-! ## Looking layers up -/

/-- The numbers of the layers, in order of creation. -/
def ids (display : Display) : List LayerId := display.layers.map (·.id)

theorem id_of_layer? {display : Display} {id : LayerId} {layer : Layer}
    (found : display.layer? id = some layer) : layer.id = id := by
  have same := List.find?_some found
  simpa using same

theorem mem_of_layer? {display : Display} {id : LayerId} {layer : Layer}
    (found : display.layer? id = some layer) : layer ∈ display.layers :=
  List.mem_of_find?_eq_some found

theorem mem_ids_iff {display : Display} {id : LayerId} :
    id ∈ display.ids ↔ ∃ layer, display.layer? id = some layer := by
  constructor
  · intro member
    obtain ⟨layer, there, same⟩ := List.mem_map.mp member
    have some : (display.layer? id).isSome :=
      List.find?_isSome.mpr ⟨layer, there, by simpa using same⟩
    exact Option.isSome_iff_exists.mp some
  · rintro ⟨layer, found⟩
    exact List.mem_map.mpr ⟨layer, mem_of_layer? found, id_of_layer? found⟩

theorem layer?_eq_none_iff {display : Display} {id : LayerId} :
    display.layer? id = none ↔ id ∉ display.ids := by
  rw [mem_ids_iff, Option.eq_none_iff_forall_ne_some, not_exists]

theorem layer?_of_mem {display : Display} {layer : Layer} (distinct : display.ids.Nodup)
    (there : layer ∈ display.layers) : display.layer? layer.id = some layer := by
  obtain ⟨other, found⟩ := mem_ids_iff.mp (List.mem_map_of_mem there)
  have same : other = layer :=
    List.inj_on_of_nodup_map distinct (mem_of_layer? found) there (id_of_layer? found)
  rw [found, same]

theorem layer?_putLayer (display : Display) (layer : Layer) (id : LayerId) :
    (display.putLayer layer).layer? id
      = if id = layer.id then (display.layer? id).map fun _ => layer else display.layer? id := by
  have lookup : (display.putLayer layer).layer? id
      = (display.layer? id).map fun other => if other.id == layer.id then layer else other := by
    unfold layer? putLayer
    rw [List.find?_map]
    congr 2
    funext other
    by_cases same : other.id = layer.id <;> simp [same]
  rw [lookup]
  cases found : display.layer? id with
  | none => simp
  | some other =>
      by_cases same : id = layer.id <;> simp [id_of_layer? found, same]

theorem layer?_putLayer_self {display : Display} {layer changed : Layer} {id : LayerId}
    (found : display.layer? id = some layer) (same : changed.id = id) :
    (display.putLayer changed).layer? id = some changed := by
  rw [layer?_putLayer, if_pos same.symm, found]
  rfl

theorem layer?_putLayer_other {display : Display} {changed : Layer} {id : LayerId}
    (other : id ≠ changed.id) : (display.putLayer changed).layer? id = display.layer? id := by
  rw [layer?_putLayer, if_neg other]

/-- A change of the layer with one number, seen from any number. -/
theorem layer?_putLayer_change {display : Display} {layer : Layer} {other : LayerId}
    (change : Layer → Layer) (found : display.layer? other = some layer)
    (same : (change layer).id = layer.id) (id : LayerId) :
    (display.putLayer (change layer)).layer? id
      = (display.layer? id).map fun layer => if id = other then change layer else layer := by
  have number : (change layer).id = other := same.trans (id_of_layer? found)
  by_cases here : id = other
  · subst here
    rw [layer?_putLayer_self found number, found]
    simp
  · rw [layer?_putLayer_other (number ▸ here)]
    simp [here]

theorem layer?_change_of_none {display : Display} {other : LayerId} (change : Layer → Layer)
    (missing : display.layer? other = none) (id : LayerId) :
    display.layer? id
      = (display.layer? id).map fun layer => if id = other then change layer else layer := by
  by_cases here : id = other
  · simp [here, missing]
  · simp [here]

theorem ids_putLayer (display : Display) (layer : Layer) :
    (display.putLayer layer).ids = display.ids := by
  unfold ids putLayer
  rw [List.map_map]
  refine List.map_congr_left fun other _ => ?_
  by_cases same : other.id = layer.id <;> simp [same]

theorem ids_addLayer (display : Display) (id : LayerId) :
    (display.addLayer id).ids = display.ids ++ [id] :=
  List.map_append

theorem layer?_addLayer (display : Display) (id other : LayerId) :
    (display.addLayer id).layer? other
      = (display.layer? other).or
          (if other = id then some { id := id, display := display.id } else none) := by
  unfold layer? addLayer reshaped
  rw [List.find?_append]
  by_cases same : id = other
  · simp [same]
  · simp [same, Ne.symm same]

theorem removeLayer_eq {display : Display} {id : LayerId} {layer : Layer}
    (found : display.layer? id = some layer) :
    (display.removeLayer id).2 = reshaped { display with
      layers := display.layers.filter fun other => other.id != id
      order := display.order.remove layer.z id
      dirtyLayers := if layer.isDirty then display.dirtyLayers - 1 else display.dirtyLayers } := by
  simp only [removeLayer, found]

theorem ids_removeLayer {display : Display} {id : LayerId} {layer : Layer}
    (found : display.layer? id = some layer) :
    (display.removeLayer id).2.ids = display.ids.filter (· != id) := by
  simp only [removeLayer_eq found, ids, reshaped, List.filter_map]
  rfl

theorem layer?_removeLayer {display : Display} {id : LayerId} {layer : Layer}
    (found : display.layer? id = some layer) (other : LayerId) :
    (display.removeLayer id).2.layer? other
      = if other = id then none else display.layer? other := by
  rw [removeLayer_eq found]
  simp only [layer?, reshaped, List.find?_filter]
  by_cases same : other = id
  · simp [same]
  · rw [if_neg same]
    congr 1
    funext layer
    by_cases here : layer.id = other
    · simp [here, same]
    · simp [here]

/-! ## Changes that leave the stack alone -/

/-- The layers are changed in their places, as a relation says. -/
structure Amends (relation : Layer → Layer → Prop) (display after : Display) : Prop where
  confined : ∃ layers dirtyLayers,
    after = { display with layers := layers, dirtyLayers := dirtyLayers }
  ids : after.ids = display.ids
  layers : ∀ {id : LayerId} {layer : Layer}, display.layer? id = some layer →
    ∃ amended, after.layer? id = some amended ∧ relation layer amended

namespace Amends

variable {relation : Layer → Layer → Prop} {display after : Display}

theorem refl (reflexive : ∀ layer, relation layer layer) (display : Display) :
    Amends relation display display where
  confined := ⟨display.layers, display.dirtyLayers, rfl⟩
  ids := rfl
  layers := fun {_ layer} found => ⟨layer, found, reflexive layer⟩

theorem trans {third : Display}
    (transitive : ∀ {first second third : Layer}, relation first second →
      relation second third → relation first third)
    (left : Amends relation display after) (right : Amends relation after third) :
    Amends relation display third where
  confined := by
    obtain ⟨layers, dirtyLayers, rfl⟩ := left.confined
    obtain ⟨layers', dirtyLayers', rfl⟩ := right.confined
    exact ⟨layers', dirtyLayers', rfl⟩
  ids := right.ids.trans left.ids
  layers := by
    intro id layer found
    obtain ⟨second, foundSecond, first⟩ := left.layers found
    obtain ⟨third, foundThird, next⟩ := right.layers foundSecond
    exact ⟨third, foundThird, transitive first next⟩

theorem mono {wider : Layer → Layer → Prop}
    (implied : ∀ {layer amended : Layer}, relation layer amended → wider layer amended)
    (amends : Amends relation display after) : Amends wider display after where
  confined := amends.confined
  ids := amends.ids
  layers := by
    intro id layer found
    obtain ⟨amended, foundAfter, related⟩ := amends.layers found
    exact ⟨amended, foundAfter, implied related⟩

theorem putLayer (reflexive : ∀ layer, relation layer layer) {id : LayerId}
    {layer changed : Layer} (found : display.layer? id = some layer)
    (same : changed.id = layer.id) (related : relation layer changed) :
    Amends relation display (display.putLayer changed) where
  confined := ⟨(display.putLayer changed).layers, display.dirtyLayers, rfl⟩
  ids := ids_putLayer display changed
  layers := by
    have number : changed.id = id := same.trans (id_of_layer? found)
    intro place other foundOther
    by_cases here : place = id
    · subst here
      rw [found] at foundOther
      obtain rfl := Option.some.inj foundOther
      exact ⟨changed, layer?_putLayer_self found number, related⟩
    · have apart : place ≠ changed.id := number.symm ▸ here
      exact ⟨other, (layer?_putLayer_other apart).trans foundOther, reflexive other⟩

theorem countDelta (amends : Amends relation display after) (delta : DirtyDelta) :
    Amends relation display (after.countDelta delta) where
  confined := by
    obtain ⟨layers, dirtyLayers, rfl⟩ := amends.confined
    exact ⟨layers, delta.applyTo dirtyLayers, rfl⟩
  ids := amends.ids
  layers := amends.layers

theorem foldl {ι : Type} {change : Display → ι → Display}
    (reflexive : ∀ layer, relation layer layer)
    (transitive : ∀ {first second third : Layer}, relation first second →
      relation second third → relation first third)
    (each : ∀ display item, Amends relation display (change display item))
    (items : List ι) (display : Display) :
    Amends relation display (items.foldl change display) := by
  induction items generalizing display with
  | nil => exact refl reflexive display
  | cons item rest ih => exact (each display item).trans transitive (ih (change display item))

theorem before (amends : Amends relation display after) {id : LayerId} {amended : Layer}
    (found : after.layer? id = some amended) :
    ∃ layer, display.layer? id = some layer ∧ relation layer amended := by
  have member : id ∈ display.ids := amends.ids ▸ mem_ids_iff.mpr ⟨amended, found⟩
  obtain ⟨layer, foundBefore⟩ := mem_ids_iff.mp member
  obtain ⟨other, foundOther, related⟩ := amends.layers foundBefore
  rw [found] at foundOther
  obtain rfl := Option.some.inj foundOther
  exact ⟨layer, foundBefore, related⟩

theorem order (amends : Amends relation display after) : after.order = display.order := by
  obtain ⟨layers, dirtyLayers, rfl⟩ := amends.confined
  rfl

theorem needsFullResend (amends : Amends relation display after) :
    after.needsFullResend = display.needsFullResend := by
  obtain ⟨layers, dirtyLayers, rfl⟩ := amends.confined
  rfl

theorem validated (amends : Amends relation display after) :
    after.validated = display.validated := by
  obtain ⟨layers, dirtyLayers, rfl⟩ := amends.confined
  rfl

theorem activeConfig (amends : Amends relation display after) :
    after.activeConfig? = display.activeConfig? := by
  obtain ⟨layers, dirtyLayers, rfl⟩ := amends.confined
  rfl

end Amends

end Display

end Scanout
