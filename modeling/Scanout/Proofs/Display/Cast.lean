import Scanout.Proofs.Backend.Plain
import Scanout.Proofs.Device.Opening
import Scanout.Proofs.Display.Commuting
import Scanout.Proofs.Display.Decisions
import Scanout.Proofs.Display.Effects
import Scanout.Proofs.Display.Presenting

/-!
# The cast of a display

The *role* of a layer is what the order of its display and the negotiation of a frame read off it:
its number, its Z key, the composition it asks for, its buffer, and whether only the client can draw
it. The roles of a display's layers are its *cast*. An edit changes one role (`Features.edited`);
validating, presenting and moving a cursor change none.

What the scripted backend calls for in a slot depends on the role. Where it calls for nothing but
what is asked for (`Script.Grants`), a frame goes without a hitch: validating reports no change
(`run_validate_of_grants`), presenting succeeds (`run_present_of_cleared`), and then a layer that
asks for a cursor plane is on one and can be moved (`call_cursor_of_cleared`).
-/

set_option autoImplicit false

namespace Scanout

/-- What the order of a display and the negotiation of a frame read off a layer. -/
structure Role where
  id : LayerId
  z : UInt32 := 0
  pending : Composition := .invalid
  buffer : Option BufferHandle := none
  unsupported : Bool := false
  deriving DecidableEq

def Layer.role (layer : Layer) : Role where
  id := layer.id
  z := layer.z
  pending := layer.pending
  buffer := layer.content.buffer
  unsupported := layer.isUnsupported

theorem Layer.restyled_movedTo (layer : Layer) (x y : Float) :
    layer.Restyled (layer.movedTo x y) :=
  ⟨⟨rfl, rfl, rfl, layer.geometry.sameLook_displayFrame _⟩, rfl⟩

/-- The roles of the layers, in order of creation. -/
def Display.cast (display : Display) : List Role := display.layers.map (·.role)

namespace LayerEdit

/-- The role of a layer after an edit that does not set the position of a cursor. -/
def recast (role : Role) : LayerEdit → Role
  | .z key => { role with z := key }
  | .composition asked => { role with pending := asked }
  | .buffer handle _ => { role with buffer := handle }
  | .dataspace space => { role with unsupported := !space.isSupported }
  | _ => role

/-- The cast after such an edit of the layer with this number. -/
def recastIn (id : LayerId) (change : LayerEdit) (cast : List Role) : List Role :=
  cast.map fun role => if role.id = id then change.recast role else role

theorem role_applied (change : LayerEdit) (layer : Layer) :
    (change.applied layer).role = change.recast layer.role := by
  cases change with
  | composition asked =>
      simp only [applied, Layer.setComposition, Latched.setPending_eq]
      rfl
  | planeAlpha alpha =>
      simp only [applied]
      split <;> rfl
  | _ => rfl

theorem ids_recastIn (change : LayerEdit) (id : LayerId) (cast : List Role) :
    (change.recastIn id cast).map (·.id) = cast.map (·.id) := by
  rw [recastIn, List.map_map]
  refine List.map_congr_left fun role _ => ?_
  by_cases here : role.id = id
  · simp only [Function.comp_apply, if_pos here]
    cases change <;> rfl
  · simp only [Function.comp_apply, if_neg here]

theorem role_on (change : LayerEdit) (id : LayerId) (layers : List Layer) :
    (layers.filterMap ((Alteration.edit change).on id)).map (·.role)
      = change.recastIn id (layers.map (·.role)) := by
  rw [recastIn, List.map_filterMap, List.map_map, ← List.filterMap_eq_map]
  congr 1
  funext layer
  by_cases here : layer.id = id
  · have role : layer.role.id = id := here
    simp [Alteration.on, Alteration.applied, here, role, role_applied]
  · have role : layer.role.id ≠ id := here
    simp [Alteration.on, here, role]

end LayerEdit

/-! ## What the script calls for -/

namespace Script

/-- The composition that a script calls for in a role, if it forces no slot by its number. -/
def assigned? (script : Script) (role : Role) : Option Composition :=
  match role.buffer.bind fun buffer => script.forcedBuffers.lookup buffer with
  | some placement => placement.override?
  | none =>
    if role.unsupported then some .client
    else
      match role.pending with
      | .device => some .device
      | .cursor => some .device
      | .sideband => none
      | _ => some .client

/-- The backend may show the layer, and the script calls for nothing but what it asks for. -/
structure Grants (script : Script) (role : Role) : Prop where
  supported : role.unsupported = false
  asked : ∀ composition, script.assigned? role = some composition → role.pending = composition

variable {script : Script}

theorem called?_eq_assigned? (slots : script.forcedSlots = []) (index : Nat) (layer : Layer) :
    script.called? index layer = script.assigned? layer.role := by
  have forced : script.forced? index layer.slot
      = layer.role.buffer.bind fun buffer => script.forcedBuffers.lookup buffer := by
    simp only [forced?, slots, List.lookup_nil]
    rfl
  simp only [called?, decide, forced, assigned?]
  cases layer.role.buffer.bind fun buffer => script.forcedBuffers.lookup buffer with
  | some placement => rfl
  | none => exact override?_accepted layer

/-- A script that forces buffers onto planes alone leaves the other layers where they are. -/
theorem grants_of_planes (planes : ∀ entry ∈ script.forcedBuffers, entry.2.override? = none)
    {role : Role} (supported : role.unsupported = false)
    (asked : role.pending = .client ∨ role.pending = .device) : script.Grants role := by
  refine ⟨supported, fun composition assigned => ?_⟩
  unfold assigned? at assigned
  split at assigned
  · rename_i placement forced
    obtain ⟨buffer, -, known⟩ := Option.bind_eq_some_iff.mp forced
    obtain ⟨_, _, split, -⟩ := List.lookup_eq_some_iff.mp known
    have plane := planes (buffer, placement) (by simp [split])
    cases plane.symm.trans assigned
  · rw [supported] at assigned
    rcases asked with client | device
    · rw [client] at assigned ⊢
      exact Option.some.inj assigned
    · rw [device] at assigned ⊢
      exact Option.some.inj assigned

end Script

namespace Display

variable {display after : Display}

theorem ids_of_cast (display : Display) : display.ids = display.cast.map (·.id) := by
  rw [cast, List.map_map]
  rfl

theorem layer?_of_mem_cast (distinct : display.ids.Nodup) {role : Role}
    (member : role ∈ display.cast) : ∃ layer, display.layer? role.id = some layer
      ∧ layer.role = role := by
  obtain ⟨layer, there, rfl⟩ := List.mem_map.mp member
  exact ⟨layer, layer?_of_mem distinct there, rfl⟩

theorem cast_addLayer (display : Display) (id : LayerId) :
    (display.addLayer id).cast = display.cast ++ [{ id := id }] :=
  List.map_append

theorem cast_of_eq (layers : after.layers = display.layers) : after.cast = display.cast :=
  congrArg (List.map Layer.role) layers

/-- Layers that are at most restyled play the same roles. -/
theorem cast_of_amends (distinct : display.ids.Nodup)
    (amends : Amends Layer.Restyled display after) : after.cast = display.cast := by
  have same : after.layers = display.layers.map fun layer =>
      (after.layer? layer.id).getD layer := by
    apply layers_eq_map distinct amends.ids
    intro layer there
    obtain ⟨amended, still, -⟩ := amends.layers (layer?_of_mem distinct there)
    rw [still]
    rfl
  rw [cast, same, List.map_map]
  refine List.map_congr_left fun layer there => ?_
  obtain ⟨amended, still, restyled⟩ := amends.layers (layer?_of_mem distinct there)
  have id : amended.id = layer.id := id_of_layer? still
  have pending : amended.pending = layer.pending :=
    congrArg Latched.pending restyled.composition
  simp only [Function.comp_apply, still, Option.getD_some, Layer.role, id, pending,
    restyled.alike.z, restyled.alike.content, restyled.alike.unsupported]

theorem layersInOrder_of_cast (stacked : display.Stacked) (entries : List StackEntry)
    (sorted : StackOrder.Sorted entries)
    (perm : entries.Perm (display.cast.map fun role => ⟨role.z, role.id⟩)) :
    display.layersInOrder = entries.map (·.layer) := by
  have same : display.order.entries = entries := by
    refine List.Pairwise.eq_of_mem_iff stacked.sorted sorted fun entry => ?_
    rw [(entries_perm stacked).mem_iff, perm.mem_iff, cast, List.map_map]
    rfl
  rw [layersInOrder, StackOrder.layers, same]

theorem suits_of_grants {script : Script} (slots : script.forcedSlots = [])
    (grants : ∀ role ∈ display.cast, script.Grants role) : script.Suits display := by
  intro index layer there composition called
  have member : layer ∈ display.layers :=
    mem_of_layer? (layer?_of_mem_stack (List.mem_of_getElem? there))
  have granted := grants layer.role (List.mem_map_of_mem member)
  have supported : layer.isUnsupported = false := granted.supported
  rw [Script.called?_eq_assigned? slots] at called
  rw [Layer.committed_latched, supported]
  exact granted.asked composition called

/-! ## What the calls of a frame do -/

/-- A display in order with this cast, which has shown this many frames. -/
structure Features (id : DisplayId) (cast : List Role) (frames : Nat) (retired : Fence)
    (display : Display) : Prop where
  stacked : display.Stacked
  counted : display.Counted
  active : display.activeConfig?.isSome
  id : display.id = id
  cast : display.cast = cast
  frames : display.framesPresented = frames
  retired : display.retireFence = retired

/-- The frame is validated, and every layer is committed as it asks. -/
structure Cleared (display : Display) : Prop where
  state : display.state = .validatedNoChanges
  clean : display.dirtyLayers = 0

variable {id : DisplayId} {cast : List Role} {frames : Nat} {retired : Fence}

namespace Features

theorem turned {turn : Turn} (features : display.Features id cast frames retired)
    (turned : display.Turned turn after) (fresh : turn.FreshOn display)
    (stays : ∀ config, turn ≠ .switchConfig config (.ok ())) {next : List Role}
    {shown : Nat} {fence : Fence} (cast : after.cast = next)
    (frames : after.framesPresented = shown) (retired : after.retireFence = fence) :
    after.Features id next shown fence where
  stacked := stacked_turned features.stacked fresh turned
  counted := counted_turned features.stacked features.counted turned
  active := by
    rw [activeConfig_turned turned stays]
    exact features.active
  id := (id_turned turned).trans features.id
  cast := cast
  frames := frames
  retired := retired

theorem added (features : display.Features id cast frames retired) {number : LayerId}
    (fresh : ∀ role ∈ cast, role.id.number.toNat < number.number.toNat) :
    (display.addLayer number).Features id (cast ++ [{ id := number }]) frames retired := by
  refine features.turned .added ?_ (fun _ => Turn.noConfusion) ?_ features.frames features.retired
  · intro layer there
    exact fresh layer.role (features.cast ▸ List.mem_map_of_mem there)
  · rw [cast_addLayer, features.cast]

/-- An edit changes one role. -/
theorem edited (features : display.Features id cast frames retired) {number : LayerId}
    (member : number ∈ cast.map (·.id)) {change : LayerEdit}
    (own : (Alteration.edit change).setsCursor = false) :
    ∃ layer after, display.call (.edit number change)
        = ((Alteration.edit change).answer layer, after)
      ∧ after.Features id (change.recastIn number cast) frames retired
      ∧ after.validated = if change.isEffectiveOn layer then none else display.validated := by
  obtain ⟨role, among, rfl⟩ := List.mem_map.mp member
  obtain ⟨layer, found, -⟩ := layer?_of_mem_cast features.stacked.distinct (features.cast ▸ among)
  obtain ⟨order, count, altered⟩ := turn_eq features.stacked found own
  have turned := turned_turn features.stacked.held (.call (.edit role.id change))
  change display.call (.edit role.id change) = _ at altered
  change display.Turned _ (display.call (.edit role.id change)).2 at turned
  rw [altered] at turned
  refine ⟨layer, _, altered, ?_, rfl⟩
  refine features.turned turned trivial (fun _ => Turn.noConfusion) ?_ features.frames
    features.retired
  exact (change.role_on role.id display.layers).trans (congrArg _ features.cast)

theorem targeted (features : display.Features id cast frames retired)
    (buffer : Option BufferHandle) (acquire : Fence) (dataspace : Dataspace)
    (damage : List Rect) :
    (display.setClientTarget buffer acquire dataspace damage).Features id cast frames retired :=
  features.turned .clientTarget trivial (fun _ => Turn.noConfusion)
    ((cast_of_eq rfl).trans features.cast) features.frames features.retired

end Features

/-- What asks for nothing but what it gets is committed as it asks. -/
theorem committed?_of_clean (features : display.Features id cast frames retired)
    (clean : display.dirtyLayers = 0) {role : Role} (member : role ∈ cast) :
    display.committed? role.id = some role.pending := by
  obtain ⟨layer, found, rfl⟩ := layer?_of_mem_cast features.stacked.distinct
    (features.cast ▸ member)
  have committed := pending_eq_committed features.counted clean found
  rw [committed?, found, Option.map_some, ← committed]
  rfl

/-! ## Validating -/

theorem requests_of_plain {script : Script} {proposal : Proposal} (stacked : display.Stacked)
    (plain : script.Plain) (proposed : display.propose = .ok proposal) :
    ((display.latchLayers proposal).validationOf proposal
      (script.decideFrom 0 proposal.frame.slots)).requests = [] := by
  rw [requests_eq stacked proposed, clearings, List.map_eq_nil_iff, List.filter_eq_nil_iff]
  rintro ⟨layer, decision⟩ member
  have unasked := Script.clearClientTarget_of_mem plain.cleared (List.of_mem_zip member).2
  exact Bool.eq_false_iff.mp unasked

theorem cast_decided {proposal : Proposal} (stacked : display.Stacked)
    (proposed : display.propose = .ok proposal) (decisions : List Decision) :
    (display.decided proposal decisions).cast = display.cast := by
  rw [cast, layers_decided stacked proposed, List.map_map]
  rfl

/-- Where the backend may show every layer, a validation leaves none dirty. -/
theorem dirtyLayers_decided {proposal : Proposal} {decisions : List Decision}
    (features : (display.decided proposal decisions).Features id cast frames retired)
    (stacked : display.Stacked) (proposed : display.propose = .ok proposal)
    (supported : ∀ role ∈ cast, role.unsupported = false) :
    (display.decided proposal decisions).dirtyLayers = 0 := by
  rw [features.counted, List.countP_eq_zero]
  intro layer there dirty
  have unsupported := settled_decided stacked proposed layer.id layer
    (layer?_of_mem features.stacked.distinct there) dirty
  have shown : layer.isUnsupported = false :=
    supported layer.role (features.cast ▸ List.mem_map_of_mem there)
  exact absurd (shown.symm.trans unsupported) nofun

theorem run_validate_complete {σ : Type} (backend : Backend σ) {state next : σ}
    {proposal : Proposal} {decisions : List Decision}
    (begun : display.beginValidate = .asking proposal)
    (answer : backend.prepare proposal.frame state = (.ok decisions, next))
    (complete : decisions.length = proposal.slotCount) :
    ∃ notices, display.run backend .validate state
      = (⟨.ok (.summary ((display.latchLayers proposal).validationOf proposal decisions).summary),
          display.decided proposal decisions, notices⟩, next) := by
  refine ⟨(display.latchLayers proposal).allNotices proposal decisions, ?_⟩
  simp only [run, begin, begun, Begun.map, Display.complete, answer, finishValidate,
    if_pos complete]
  rfl

/-- Where the script grants every role, a validation reports no change. -/
theorem run_validate_of_grants {stage : Stage} (features : display.Features id cast frames retired)
    (plain : stage.script.Plain) (modified : display.validated = none)
    (grants : ∀ role ∈ cast, stage.script.Grants role) :
    ∃ frame after notices,
      display.run .scripted .validate stage
        = (⟨.ok (.summary ⟨.noChanges, 0, 0⟩), after, notices⟩,
          { stage with script := stage.script.preparing frame })
      ∧ after.Features id cast frames retired ∧ after.Cleared := by
  obtain ⟨config, active⟩ := Option.isSome_iff_exists.mp features.active
  obtain ⟨proposal, proposed⟩ := propose_of_active active
  have begun := beginValidate_of_proposed modified proposed
  have answer := Stage.prepare_of_plain plain proposal.frame
  have places := (stage.script.preparing proposal.frame).places_decideFrom proposal.frame.slots
  have complete := complete_of_places places
  obtain ⟨notices, validates⟩ := run_validate_complete .scripted begun answer complete
  have suits : (stage.script.preparing proposal.frame).Suits display := by
    refine suits_of_grants plain.slots fun role member => ?_
    have granted := grants role (features.cast ▸ member)
    exact ⟨granted.supported, granted.asked⟩
  have quiet := typeChanges_of_suits features.stacked suits proposed places
  have requests := requests_of_plain features.stacked (plain.preparing proposal.frame) proposed
  -- from here on it does not matter what the script has decided, as long as it suits
  generalize (stage.script.preparing proposal.frame).decideFrom 0 proposal.frame.slots = decisions
    at *
  have agreed : display.negotiated? (fun frame => (stage.prepare frame).1)
      = some ⟨proposal, decisions⟩ := by
    simp only [negotiated?, begun, answer, if_pos complete]
  obtain ⟨layers, dirtyLayers, confined⟩ := (display.amends_latchLayers proposal).confined
  have decided : (display.decided proposal decisions).Features id cast frames retired := by
    refine features.turned (.negotiated modified proposed agreed complete) trivial
      (fun _ => Turn.noConfusion)
      ((cast_decided features.stacked proposed decisions).trans features.cast) ?_ ?_
    · rw [← features.frames]
      simp only [Display.decided, keepValidation, confined]
    · rw [← features.retired]
      simp only [Display.decided, keepValidation, confined]
  refine ⟨proposal.frame, display.decided proposal decisions, notices, ?_, decided, ?_, ?_⟩
  · rw [validates, Validation.summary, quiet, requests]
    rfl
  · simp only [state, Display.decided, keepValidation, quiet, List.isEmpty_nil, if_true]
  · exact dirtyLayers_decided decided features.stacked proposed fun role member =>
      (grants role member).supported

/-! ## Presenting and moving a cursor -/

theorem beginPresent_of_cleared (cleared : display.Cleared)
    (target : display.clientTarget.buffer.isSome) :
    ∃ frame, display.beginPresent = .asking frame := by
  obtain ⟨validation, validated, accepted⟩ := validated_of_settled cleared.state
  have there : display.clientTarget.buffer.isNone = false := by
    rw [← Option.not_isSome, target]
    rfl
  refine ⟨display.commitFrame validation.proposal, ?_⟩
  simp [beginPresent, validated, accepted, lacksClientTarget, there]

/-- A cleared frame with a client target is shown. -/
theorem run_present_of_cleared {σ : Type} {backend : Backend σ} {state : σ}
    (features : display.Features id cast frames retired) (cleared : display.Cleared)
    (target : display.clientTarget.buffer.isSome)
    (answers : ∀ frame, ∃ fences next, backend.commit frame state = (.ok fences, next)
      ∧ fences.release.length = frame.slots.length) :
    ∃ frame fences next after,
      backend.commit frame state = (.ok fences, next)
      ∧ display.run backend .present state = (⟨.ok (.fence fences.retire), after, []⟩, next)
      ∧ after.Features id cast (frames + 1) fences.retire ∧ after.Cleared := by
  obtain ⟨frame, begun⟩ := beginPresent_of_cleared cleared target
  obtain ⟨fences, next, answer, complete⟩ := answers frame
  have amends := amends_foldl_pushReleaseFence (display.releaseShares fences) display
  refine ⟨frame, fences, next, display.deliver fences, answer, ?_, ?_, ?_, ?_⟩
  · rw [run_present_asking begun, answer]
    simp only [finishPresent, if_pos complete]
    rfl
  · have presented : display.Turned (.present fun frame => (backend.commit frame state).1)
        (display.deliver fences) := .presented begun (congrArg Prod.fst answer) complete
    refine features.turned presented trivial (fun _ => Turn.noConfusion) ?_ ?_ rfl
    · exact (cast_of_amends features.stacked.distinct amends).trans features.cast
    · rw [← features.frames]
      rfl
  · rw [state_deliver, cleared.state]
  · exact (dirtyLayers_foldl_pushReleaseFence _ display).trans cleared.clean

/-- Once its frame is cleared, a layer that asks for a cursor plane can be moved. -/
theorem call_cursor_of_cleared (features : display.Features id cast frames retired)
    (cleared : display.Cleared) {role : Role} (member : role ∈ cast)
    (asked : role.pending = .cursor) (x y : Float) :
    ∃ after, display.call (.edit role.id (.cursor x y)) = (.ok .done, after)
      ∧ after.Features id cast frames retired ∧ after.Cleared := by
  obtain ⟨layer, found, rfl⟩ := layer?_of_mem_cast features.stacked.distinct
    (features.cast ▸ member)
  have committed : layer.committed = .cursor :=
    (pending_eq_committed features.counted cleared.clean found).symm.trans asked
  have movable : display.movesCursor layer = true := by
    simp only [movesCursor, cleared.state, committed]
    rfl
  have moves : display.call (.edit layer.role.id (.cursor x y))
      = (.ok .done, display.putLayer (layer.movedTo x y)) := by
    simp only [call, edit, setCursorPosition_of_moves found movable]
    rfl
  have turned := turned_turn features.stacked.held (.call (.edit layer.role.id (.cursor x y)))
  change display.Turned _ (display.call (.edit layer.role.id (.cursor x y))).2 at turned
  rw [moves] at turned
  refine ⟨_, moves, ?_, ⟨cleared.state, cleared.clean⟩⟩
  have amends : Amends Layer.Restyled display (display.putLayer (layer.movedTo x y)) :=
    Amends.putLayer Layer.Restyled.refl found rfl (layer.restyled_movedTo x y)
  exact features.turned turned trivial (fun _ => Turn.noConfusion)
    ((cast_of_amends features.stacked.distinct amends).trans features.cast) features.frames
    features.retired

end Display

end Scanout
