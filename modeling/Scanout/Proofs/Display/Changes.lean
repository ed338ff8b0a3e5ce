import Scanout.Proofs.Display.Layers
import Scanout.Proofs.Latched

/-!
# What calls do to layers

`Edited` lists what an edit of a layer can do to a display. Invariants go through its cases instead
of the twelve edits.

Validating commits compositions, accepting takes overrides over, presenting hands out fences. Each
of these goes through a list of layers; `layer?_latchLayers` and `layer?_foldl_acceptChange` say
what becomes of every layer, however often it is in the list.
-/

set_option autoImplicit false

namespace Scanout

/-- A change that no backend has to hear about before the next frame. -/
structure Layer.Restyled (layer changed : Layer) : Prop where
  alike : layer.Alike changed
  composition : changed.composition = layer.composition

namespace Layer.Restyled

theorem refl (layer : Layer) : layer.Restyled layer := ⟨Layer.Alike.refl layer, rfl⟩

theorem trans {first second third : Layer} (left : first.Restyled second)
    (right : second.Restyled third) : first.Restyled third :=
  ⟨left.alike.trans right.alike, right.composition.trans left.composition⟩

end Layer.Restyled

namespace Display

/-! ## Edits -/

/-- What an edit of a layer can do to a display whose order holds the layer. -/
inductive Edited (display : Display) (id : LayerId) : Display → Prop where
  /-- The edit is refused or asks for what is there. -/
  | kept : Edited display id display
  | restyled {layer changed : Layer} (found : display.layer? id = some layer)
      (same : changed.id = layer.id) (restyled : layer.Restyled changed)
      (fences : changed.releaseFences = layer.releaseFences) :
      Edited display id (display.putLayer changed)
  | recomposed {layer : Layer} {composition : Composition}
      (found : display.layer? id = some layer) :
      Edited display id
        ((display.putLayer (layer.setComposition composition).1).countDelta
          (layer.setComposition composition).2).modified
  | refilled {layer : Layer} {content : FencedBuffer} (found : display.layer? id = some layer) :
      Edited display id (display.putLayer { layer with content := content }).modified
  | reshaped {layer changed : Layer} (found : display.layer? id = some layer)
      (same : changed.id = layer.id) (z : changed.z = layer.z)
      (composition : changed.composition = layer.composition)
      (fences : changed.releaseFences = layer.releaseFences) :
      Edited display id (display.putLayer changed).reshaped
  | moved {layer : Layer} {z : UInt32} (found : display.layer? id = some layer) :
      Edited display id (Display.reshaped
        { display.putLayer { layer with z := z } with
          order := (display.order.remove layer.z id).insert z id })

theorem edited_setZ {display : Display} {id : LayerId}
    (held : ∀ layer, display.layer? id = some layer → display.order.holds layer.z id = true)
    (z : UInt32) : display.Edited id (display.setZ id z).2 := by
  unfold setZ
  cases found : display.layer? id with
  | none => exact .kept
  | some layer =>
      dsimp only
      split
      · exact .kept
      · have moved : (display.putLayer { layer with z := z }).order.move? id layer.z z
            = some ((display.order.remove layer.z id).insert z id) :=
          if_pos (held layer found)
        rw [moved]
        exact .moved found

theorem edited_setComposition (display : Display) (id : LayerId) (composition : Composition) :
    display.Edited id (display.setComposition id composition).2 := by
  unfold setComposition
  cases found : display.layer? id with
  | none => exact .kept
  | some layer =>
      dsimp only
      split
      · exact .kept
      · exact .recomposed found

theorem edited_setBuffer (display : Display) (id : LayerId) (buffer : Option BufferHandle)
    (acquire : Fence) : display.Edited id (display.setBuffer id buffer acquire).2 := by
  unfold setBuffer
  cases found : display.layer? id with
  | none => exact .kept
  | some layer => exact .refilled found

theorem edited_setSurfaceDamage (display : Display) (id : LayerId) (rects : List Rect) :
    display.Edited id (display.setSurfaceDamage id rects).2 := by
  unfold setSurfaceDamage
  cases found : display.layer? id with
  | none => exact .kept
  | some layer =>
      exact .restyled found rfl ⟨⟨rfl, rfl, rfl, LayerGeometry.SameLook.refl _⟩, rfl⟩ rfl

theorem edited_setDataspace (display : Display) (id : LayerId) (dataspace : Dataspace) :
    display.Edited id (display.setDataspace id dataspace).2 := by
  unfold setDataspace
  cases found : display.layer? id with
  | none => exact .kept
  | some layer =>
      dsimp only
      split
      · rename_i supported
        exact .restyled found rfl
          ⟨⟨rfl, supported, rfl, LayerGeometry.SameLook.refl _⟩, rfl⟩ rfl
      · exact .reshaped found rfl rfl rfl rfl

theorem edited_setGeometry (display : Display) (id : LayerId)
    (update : LayerGeometry → LayerGeometry) :
    display.Edited id (display.setGeometry id update).2 := by
  unfold setGeometry
  cases found : display.layer? id with
  | none => exact .kept
  | some layer =>
      dsimp only
      split
      · exact .reshaped found rfl rfl rfl rfl
      · rename_i equal
        have same : (update layer.geometry == layer.geometry) = true := by
          simpa only [bne, Bool.not_eq_true, Bool.not_eq_false'] using equal
        exact .restyled found rfl
          ⟨⟨rfl, rfl, rfl, (LayerGeometry.sameLook_of_beq same).symm⟩, rfl⟩ rfl

theorem edited_setPlaneAlpha (display : Display) (id : LayerId) (alpha : Float32) :
    display.Edited id (display.setPlaneAlpha id alpha).2 := by
  unfold setPlaneAlpha
  split
  · exact display.edited_setGeometry id _
  · exact .kept

theorem edited_setCursorPosition (display : Display) (id : LayerId) (x y : Float) :
    display.Edited id (display.setCursorPosition id x y).2 := by
  unfold setCursorPosition
  split
  · exact .kept
  · cases found : display.layer? id with
    | none => exact .kept
    | some layer =>
        dsimp only
        split
        · exact .restyled found rfl
            ⟨⟨rfl, rfl, rfl, layer.geometry.sameLook_displayFrame _⟩, rfl⟩ rfl
        · exact .kept

theorem edited_edit {display : Display} {id : LayerId}
    (held : ∀ layer, display.layer? id = some layer → display.order.holds layer.z id = true)
    (edit : LayerEdit) : display.Edited id (display.edit id edit).2 := by
  cases edit with
  | z z => exact edited_setZ held z
  | composition composition => exact display.edited_setComposition id composition
  | buffer buffer acquire => exact display.edited_setBuffer id buffer acquire
  | surfaceDamage rects => exact display.edited_setSurfaceDamage id rects
  | dataspace dataspace => exact display.edited_setDataspace id dataspace
  | planeAlpha alpha => exact display.edited_setPlaneAlpha id alpha
  | cursor x y => exact display.edited_setCursorPosition id x y
  | displayFrame rect => exact display.edited_setGeometry id _
  | sourceCrop rect => exact display.edited_setGeometry id _
  | blend mode => exact display.edited_setGeometry id _
  | transform transform => exact display.edited_setGeometry id _
  | color color => exact display.edited_setGeometry id _

end Display

/-! ## Committing compositions -/

namespace Layer

/-- The layer once a composition is both asked for and committed. -/
def settled (layer : Layer) (composition : Composition) : Layer :=
  { layer with composition := .ofValue composition }

/-- The layer after a frame that it was proposed in. -/
def latched (layer : Layer) : Layer :=
  if layer.isUnsupported then layer else layer.settled layer.pending

theorem latchComposition_eq (layer : Layer) :
    layer.latchComposition.1 = layer.settled layer.pending := by
  simp only [latchComposition, Latched.latch_eq, settled, pending]

theorem latch_setComposition_eq (layer : Layer) (composition : Composition) :
    (layer.setComposition composition).1.latchComposition.1 = layer.settled composition := by
  rw [latchComposition_eq]
  simp only [setComposition, settled, pending, Latched.setPending_eq]

theorem alike_settled (layer : Layer) (composition : Composition) :
    layer.Alike (layer.settled composition) :=
  ⟨rfl, rfl, rfl, LayerGeometry.SameLook.refl _⟩

theorem id_latched (layer : Layer) : layer.latched.id = layer.id := by
  unfold latched
  split <;> rfl

theorem latched_latched (layer : Layer) : layer.latched.latched = layer.latched := by
  unfold latched
  split
  · rfl
  · rename_i supported
    have still : (layer.settled layer.pending).isUnsupported = layer.isUnsupported := rfl
    rw [still, if_neg supported]
    rfl

end Layer

namespace Display

theorem amends_latchLayer (display : Display) (id : LayerId) :
    Amends Layer.Alike display (display.latchLayer id) := by
  unfold latchLayer
  cases found : display.layer? id with
  | none => exact Amends.refl Layer.Alike.refl display
  | some layer =>
      dsimp only
      split
      · exact Amends.refl Layer.Alike.refl display
      · rw [Layer.latchComposition_eq]
        have same : (layer.settled layer.pending).id = layer.id := rfl
        have put := Amends.putLayer Layer.Alike.refl found same (layer.alike_settled _)
        exact put.countDelta _

theorem layer?_latchLayer (display : Display) (other id : LayerId) :
    (display.latchLayer other).layer? id
      = (display.layer? id).map fun layer => if id = other then layer.latched else layer := by
  unfold latchLayer
  cases found : display.layer? other with
  | none => exact layer?_change_of_none Layer.latched found id
  | some layer =>
      dsimp only
      split
      · rename_i unsupported
        have unchanged : layer.latched = layer := if_pos unsupported
        by_cases here : id = other
        · simp [here, found, unchanged]
        · simp [here]
      · rename_i supported
        have changed : layer.latchComposition.1 = layer.latched := by
          rw [Layer.latchComposition_eq, Layer.latched, if_neg supported]
        rw [changed]
        exact layer?_putLayer_change Layer.latched found layer.id_latched id

/-- Each layer of a list is latched once or more often, which is the same. -/
theorem layer?_foldl_latchLayer (entries : List (LayerId × Slot)) (display : Display)
    (id : LayerId) :
    (entries.foldl (fun display entry => display.latchLayer entry.1) display).layer? id
      = (display.layer? id).map fun layer =>
          if id ∈ entries.map (·.1) then layer.latched else layer := by
  induction entries generalizing display with
  | nil => simp
  | cons entry rest ih =>
      rw [List.foldl_cons, ih, layer?_latchLayer, Option.map_map]
      congr 1
      funext layer
      by_cases first : id = entry.1 <;> by_cases later : id ∈ rest.map (·.1)
        <;> simp_all [Layer.latched_latched]

theorem layer?_latchLayers (display : Display) (proposal : Proposal) (id : LayerId) :
    (display.latchLayers proposal).layer? id
      = (display.layer? id).map fun layer =>
          if id ∈ proposal.layers.map (·.1) then layer.latched else layer :=
  layer?_foldl_latchLayer proposal.layers display id

theorem amends_latchLayers (display : Display) (proposal : Proposal) :
    Amends Layer.Alike display (display.latchLayers proposal) := by
  refine Amends.foldl Layer.Alike.refl Layer.Alike.trans ?_ proposal.layers display
  intro display entry
  exact display.amends_latchLayer entry.1

/-! ## Accepting overrides -/

theorem amends_acceptChange (display : Display) (change : LayerId × Composition) :
    Amends Layer.Alike display (display.acceptChange change) := by
  unfold acceptChange
  cases found : display.layer? change.1 with
  | none => exact Amends.refl Layer.Alike.refl display
  | some layer =>
      dsimp only
      rw [Layer.latch_setComposition_eq]
      have same : (layer.settled change.2).id = layer.id := rfl
      have put := Amends.putLayer Layer.Alike.refl found same (layer.alike_settled _)
      exact (put.countDelta _).countDelta _

theorem layer?_acceptChange (display : Display) (change : LayerId × Composition) (id : LayerId) :
    (display.acceptChange change).layer? id
      = (display.layer? id).map fun layer =>
          if id = change.1 then layer.settled change.2 else layer := by
  unfold acceptChange
  cases found : display.layer? change.1 with
  | none => exact layer?_change_of_none (fun layer => layer.settled change.2) found id
  | some layer =>
      dsimp only
      rw [Layer.latch_setComposition_eq]
      exact layer?_putLayer_change (fun layer => layer.settled change.2) found rfl id

theorem amends_foldl_acceptChange (changes : List (LayerId × Composition)) (display : Display) :
    Amends Layer.Alike display (changes.foldl acceptChange display) :=
  Amends.foldl Layer.Alike.refl Layer.Alike.trans amends_acceptChange changes display

/-- The last override of a layer prevails. -/
theorem layer?_foldl_acceptChange (changes : List (LayerId × Composition)) (display : Display)
    (id : LayerId) :
    (changes.foldl acceptChange display).layer? id
      = (display.layer? id).map fun layer =>
          ((changes.reverse.lookup id).map layer.settled).getD layer := by
  induction changes generalizing display with
  | nil => simp
  | cons change rest ih =>
      obtain ⟨other, composition⟩ := change
      rw [List.foldl_cons, ih, layer?_acceptChange, Option.map_map, List.reverse_cons,
        List.lookup_append]
      congr 1
      funext layer
      cases later : rest.reverse.lookup id with
      | some last =>
          -- a later override hides this one
          by_cases here : id = other <;> simp [here, Layer.settled]
      | none =>
          by_cases here : id = other
          · simp [here]
          · have differs : (id == other) = false := by simpa using here
            simp [here, List.lookup, differs]

/-! ## Handing out fences -/

theorem amends_pushReleaseFence (display : Display) (entry : LayerId × Fence) :
    Amends Layer.Restyled display (display.pushReleaseFence entry) := by
  unfold pushReleaseFence
  cases found : display.layer? entry.1 with
  | none => exact Amends.refl Layer.Restyled.refl display
  | some layer =>
      have restyled : layer.Restyled (layer.pushReleaseFence entry.2) :=
        ⟨⟨rfl, rfl, rfl, LayerGeometry.SameLook.refl _⟩, rfl⟩
      exact Amends.putLayer Layer.Restyled.refl found rfl restyled

theorem amends_foldl_pushReleaseFence (shares : List (LayerId × Fence)) (display : Display) :
    Amends Layer.Restyled display (shares.foldl pushReleaseFence display) :=
  Amends.foldl Layer.Restyled.refl Layer.Restyled.trans amends_pushReleaseFence shares display

theorem layer?_pushReleaseFence (display : Display) (entry : LayerId × Fence) (id : LayerId) :
    (display.pushReleaseFence entry).layer? id
      = (display.layer? id).map fun layer =>
          if id = entry.1 then layer.pushReleaseFence entry.2 else layer := by
  unfold pushReleaseFence
  cases found : display.layer? entry.1 with
  | none => exact layer?_change_of_none (fun layer => layer.pushReleaseFence entry.2) found id
  | some layer =>
      exact layer?_putLayer_change (fun layer => layer.pushReleaseFence entry.2) found rfl id

/-- Where every layer has one share at most, it gets just that. -/
theorem layer?_foldl_pushReleaseFence {shares : List (LayerId × Fence)}
    (distinct : (shares.map (·.1)).Nodup) (display : Display) (id : LayerId) :
    (shares.foldl pushReleaseFence display).layer? id
      = (display.layer? id).map fun layer =>
          ((shares.lookup id).map layer.pushReleaseFence).getD layer := by
  induction shares generalizing display with
  | nil => simp
  | cons share rest ih =>
      obtain ⟨other, fence⟩ := share
      obtain ⟨notLater, distinctRest⟩ := List.nodup_cons.mp distinct
      rw [List.foldl_cons, ih distinctRest, layer?_pushReleaseFence, Option.map_map]
      congr 1
      funext layer
      by_cases here : id = other
      · have last : rest.lookup id = none := by
          refine List.lookup_eq_none_iff.mpr fun later listed => ?_
          have apart : id ≠ later.1 := by
            intro same
            apply notLater
            exact List.mem_map.mpr ⟨later, listed, same.symm.trans here⟩
          simpa using apart
        simp [here, here ▸ last]
      · have differs : (id == other) = false := by simpa using here
        simp [here, List.lookup, differs]

/-! ## Turns -/

/-- The display once a validation's overrides are accepted. -/
def accepted (display : Display) (validation : Validation) : Display :=
  { validation.typeChanges.foldl acceptChange display with
    validated := some { validation with typeChanges := [] } }

/-- The display once a proposal has been decided on. -/
def decided (display : Display) (proposal : Proposal) (decisions : List Decision) : Display :=
  (display.latchLayers proposal).keepValidation
    ((display.latchLayers proposal).validationOf proposal decisions)

/-- What a turn can do to a display whose order holds its layers. -/
inductive Turned (display : Display) : Turn → Display → Prop where
  /-- The turn fails, or nothing is left to do, and there is nothing to remember. -/
  | still {turn : Turn} (forgotten : ∀ memory, Memory.next memory display turn = memory) :
      Turned display turn display
  | added {id : LayerId} : Turned display (.addLayer id) (display.addLayer id)
  | removed {id : LayerId} {layer : Layer} (found : display.layer? id = some layer) :
      Turned display (.removeLayer id) (display.removeLayer id).2
  | edited {id : LayerId} {edit : LayerEdit} {after : Display}
      (edited : display.Edited id after) : Turned display (.call (.edit id edit)) after
  | clientTarget {buffer : Option BufferHandle} {acquire : Fence} {dataspace : Dataspace}
      {damage : List Rect} :
      Turned display (.call (.clientTarget buffer acquire dataspace damage))
        (display.setClientTarget buffer acquire dataspace damage)
  | outputBuffer {buffer : Option BufferHandle} {release : Fence} :
      Turned display (.call (.outputBuffer buffer release))
        (display.setOutputBuffer buffer release)
  | accepted {validation : Validation} (validated : display.validated = some validation) :
      Turned display (.call .acceptChanges) (display.accepted validation)
  | colorMode {mode : ColorMode} :
      Turned display (.call (.colorMode mode)) { display with colorMode := mode }
  | negotiated {prepare : Frame → Except BackendError (List Decision)} {proposal : Proposal}
      {decisions : List Decision} (modified : display.validated = none)
      (proposed : display.propose = .ok proposal)
      (agreed : display.negotiated? prepare = some ⟨proposal, decisions⟩)
      (complete : decisions.length = proposal.slotCount) :
      Turned display (.validate prepare) (display.decided proposal decisions)
  | presented {commit : Frame → Except BackendError CommitFences} {frame : Frame}
      {fences : CommitFences} (asking : display.beginPresent = .asking frame)
      (committed : commit frame = .ok fences)
      (complete : fences.release.length = frame.slots.length) :
      Turned display (.present commit) (display.deliver fences)
  | switched {id : ConfigId} :
      Turned display (.switchConfig id (.ok ()))
        (reshaped { display with activeConfigId := some id })
  | powered {mode : PowerMode} :
      Turned display (.switchPower mode (.ok ())) { display with powerMode := mode }

theorem beginValidate_eq_asking {display : Display} {proposal : Proposal}
    (asking : display.beginValidate = .asking proposal) :
    display.validated = none ∧ display.propose = .ok proposal := by
  unfold beginValidate at asking
  cases validated : display.validated with
  | some validation => simp [validated] at asking
  | none =>
      cases proposed : display.propose with
      | error cause => simp [validated, proposed] at asking
      | ok other =>
          simp only [validated, proposed, Begun.asking.injEq] at asking
          exact ⟨rfl, congrArg Except.ok asking⟩

/-- A validation changes a display exactly if it ends in an agreement. -/
theorem validateWith_eq (display : Display)
    (prepare : Frame → Except BackendError (List Decision)) :
    (display.validateWith prepare).2
      = match display.negotiated? prepare with
        | none => display
        | some negotiation => display.decided negotiation.proposal negotiation.decisions := by
  unfold validateWith negotiated?
  cases begun : display.beginValidate with
  | finished result notices => rfl
  | asking proposal =>
      cases answer : prepare proposal.frame with
      | error cause => simp only [answer, finishValidate, failed]
      | ok decisions =>
          simp only [answer, finishValidate]
          split <;> rfl

theorem turned_validate (display : Display)
    (prepare : Frame → Except BackendError (List Decision)) :
    display.Turned (.validate prepare) (display.turn (.validate prepare)).2 := by
  simp only [turn, validateWith]
  cases begun : display.beginValidate with
  | finished result notices =>
      have none : display.negotiated? prepare = none := by simp only [negotiated?, begun]
      exact .still fun memory => by simp only [Memory.next, none]
  | asking proposal =>
      cases answer : prepare proposal.frame with
      | error cause =>
          have none : display.negotiated? prepare = none := by
            simp only [negotiated?, begun, answer]
          simp only [answer, finishValidate, failed]
          exact .still fun memory => by simp only [Memory.next, none]
      | ok decisions =>
          by_cases complete : decisions.length = proposal.slotCount
          · obtain ⟨modified, proposed⟩ := beginValidate_eq_asking begun
            have agreed : display.negotiated? prepare = some ⟨proposal, decisions⟩ := by
              simp only [negotiated?, begun, answer, complete, if_true]
            simp only [answer, finishValidate, if_pos complete]
            exact .negotiated modified proposed agreed complete
          · have none : display.negotiated? prepare = none := by
              simp only [negotiated?, begun, answer, complete, if_false]
            simp only [answer, finishValidate, if_neg complete]
            exact .still fun memory => by simp only [Memory.next, none]

theorem turned_present (display : Display)
    (commit : Frame → Except BackendError CommitFences) :
    display.Turned (.present commit) (display.turn (.present commit)).2 := by
  simp only [turn, presentWith]
  cases begun : display.beginPresent with
  | finished result notices => exact .still fun _ => rfl
  | asking frame =>
      cases answer : commit frame with
      | error cause =>
          simp only [answer, finishPresent, failed]
          exact .still fun _ => rfl
      | ok fences =>
          simp only [answer, finishPresent]
          split
          · rename_i complete
            exact .presented begun answer complete
          · exact .still fun _ => rfl

theorem turned_call {display : Display}
    (held : ∀ {id layer}, display.layer? id = some layer →
      display.order.holds layer.z id = true)
    (call : DisplayCall) : display.Turned (.call call) (display.turn (.call call)).2 := by
  cases call with
  | edit id edit => exact .edited (edited_edit (fun _ found => held found) edit)
  | clientTarget buffer acquire dataspace damage => exact .clientTarget
  | outputBuffer buffer release => exact .outputBuffer
  | acceptChanges =>
      simp only [turn, Display.call, acceptChanges]
      cases validated : display.validated with
      | none => exact .still fun memory => by simp only [Memory.next, validated]
      | some validation => exact .accepted validated
  | colorMode mode =>
      simp only [turn, Display.call, setColorMode]
      split
      · exact .colorMode
      · exact .still fun _ => rfl

theorem turned_turn {display : Display}
    (held : ∀ {id layer}, display.layer? id = some layer →
      display.order.holds layer.z id = true)
    (turn : Turn) : display.Turned turn (display.turn turn).2 := by
  cases turn with
  | idle => exact .still fun _ => rfl
  | addLayer id => exact .added
  | removeLayer id =>
      cases found : display.layer? id with
      | none =>
          have unchanged : (display.removeLayer id).2 = display := by
            simp only [removeLayer, found]
          simp only [Display.turn, unchanged]
          exact .still fun _ => rfl
      | some layer => exact .removed found
  | call call => exact turned_call held call
  | validate prepare => exact display.turned_validate prepare
  | present commit => exact display.turned_present commit
  | switchConfig id answer =>
      cases answer with
      | error cause => exact .still fun _ => rfl
      | ok done => exact .switched
  | switchPower mode answer =>
      cases answer with
      | error cause => exact .still fun _ => rfl
      | ok done => exact .powered

end Display

end Scanout
