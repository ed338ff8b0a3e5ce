import Scanout.Proofs.Backend.Scripted
import Scanout.Proofs.Device.Attainable
import Scanout.Proofs.Display.Unsupported

/-!
# A negotiation settles in one round

A backend may override what layers ask for, and a client that accepts asks for the override from
then on, so the next frame asks for something else than the last one. The scripted backend decides
on a slot by its number, its buffer and what it asks for. Whatever composition such a decision calls
for, a layer that asks for just this composition is decided on alike (`called?_settled`). Hence one
round is enough: once the overrides of a validation are accepted, no later validation reports
another one as long as the *terms* of the negotiation stay the same, the layers and their order and,
for each, what it asks for, its buffer and its colour space (`atRest_run`).
-/

set_option autoImplicit false

namespace Scanout

/-- What the decision on a layer depends on, apart from its place. -/
structure Terms where
  id : LayerId
  pending : Composition
  buffer : Option BufferHandle
  dataspace : Dataspace
  deriving DecidableEq

def Layer.terms (layer : Layer) : Terms where
  id := layer.id
  pending := layer.pending
  buffer := layer.content.buffer
  dataspace := layer.dataspace

/-- The terms of the layers, back to front. -/
def Display.terms (display : Display) : List Terms := display.stack.map (·.terms)

namespace Script

/-- The composition that the script calls for when a layer is in this place. -/
def called? (script : Script) (index : Nat) (layer : Layer) : Option Composition :=
  (script.decide index layer.slot).placement.override?

/-- Every layer would be committed to what the script calls for. -/
def Suits (script : Script) (display : Display) : Prop :=
  ∀ index layer, display.stack[index]? = some layer →
    ∀ composition, script.called? index layer = some composition →
      layer.latched.committed = composition

end Script

/-! ## One layer -/

namespace Layer

variable {layer other : Layer}

theorem isUnsupported_of_terms (same : layer.terms = other.terms) :
    layer.isUnsupported = other.isUnsupported := by
  have dataspace : layer.dataspace = other.dataspace := congrArg Terms.dataspace same
  simp only [isUnsupported, dataspace]

theorem requested_of_terms (same : layer.terms = other.terms) :
    layer.requested = other.requested := by
  have pending : layer.pending = other.pending := congrArg Terms.pending same
  simp only [requested, isUnsupported_of_terms same, pending]

theorem terms_latched (layer : Layer) : layer.latched.terms = layer.terms := by
  unfold latched
  split <;> rfl

/-- A layer that the client has to draw stays committed, any other is committed as it asks. -/
theorem committed_latched (layer : Layer) :
    layer.latched.committed = if layer.isUnsupported then layer.committed else layer.pending := by
  unfold latched
  split <;> rfl

theorem committed_latched_settled (layer : Layer) (composition : Composition) :
    (layer.settled composition).latched.committed = composition := by
  rw [committed_latched]
  exact ite_self composition

end Layer

namespace Script

variable {script other : Script}

theorem called?_of_terms {layer amended : Layer} (same : layer.terms = amended.terms)
    (script : Script) (index : Nat) :
    script.called? index layer = script.called? index amended := by
  have requested := Layer.requested_of_terms same
  have placement : layer.slot.placement = amended.slot.placement := congrArg Prod.fst requested
  have skip : layer.slot.skip = amended.slot.skip := congrArg Prod.snd requested
  have buffer : layer.slot.buffer = amended.slot.buffer := congrArg Terms.buffer same
  simp only [called?, decide, forced?, accepted, placement, skip, buffer]

/-- Where nothing is forced, a layer that only the client can draw is left to the client, a layer
for the hardware gets a plane, and a stream is passed on. -/
theorem override?_accepted (layer : Layer) :
    (accepted layer.slot).override?
      = if layer.isUnsupported then some .client
        else match layer.pending with
          | .device => some .device
          | .cursor => some .device
          | .sideband => none
          | _ => some .client := by
  simp only [accepted, Layer.slot, Layer.requested]
  split
  · rfl
  · cases layer.pending <;> rfl

/-- A layer that asks for what the script calls for is decided on alike. -/
theorem called?_settled {index : Nat} {layer : Layer} {composition : Composition}
    (called : script.called? index layer = some composition) :
    script.called? index (layer.settled composition) = some composition := by
  have same : script.forced? index (layer.settled composition).slot
      = script.forced? index layer.slot := rfl
  simp only [called?, decide, same] at called ⊢
  cases forced : script.forced? index layer.slot with
  | some placement =>
      rw [forced] at called
      exact called
  | none =>
      rw [forced] at called
      simp only [Option.getD_none, override?_accepted] at called ⊢
      have still : (layer.settled composition).isUnsupported = layer.isUnsupported := rfl
      rw [still]
      by_cases unsupported : layer.isUnsupported = true
      · rw [if_pos unsupported] at called ⊢
        exact called
      · -- what is called for stands for itself
        rw [if_neg unsupported] at called ⊢
        cases asked : layer.pending <;> rw [asked] at called <;> cases called <;> rfl

end Script

/-! ## One round -/

namespace Display

variable {script : Script} {display : Display} {proposal : Proposal} {decisions : List Decision}

theorem slots_length (proposal : Proposal) : proposal.frame.slots.length = proposal.slotCount := by
  simp only [Proposal.frame, Proposal.slotCount, List.length_append, List.length_map,
    List.length_singleton]

/-- The slots of a validation are those of the layers, placed by the script. -/
theorem layers_validationOf (proposed : display.propose = .ok proposal)
    (places : script.Places proposal.frame.slots decisions) :
    ((display.latchLayers proposal).validationOf proposal decisions).proposal.layers
      = display.stack.mapIdx fun index layer =>
          (layer.id, { layer.slot with
            placement := (script.decide index layer.slot).placement }) := by
  have proposes := proposes_of_propose proposed
  simp only [validationOf, proposes.decideSlots]
  refine List.ext_getElem? fun index => ?_
  have proposedHere : proposal.layers[index]?
      = (display.stack[index]?).map fun layer => (layer.id, layer.slot) := by
    rw [proposes.layers, List.getElem?_map]
  rw [List.getElem?_map, List.getElem?_mapIdx, List.zip_eq_zipWith, List.getElem?_zipWith,
    proposedHere]
  cases there : display.stack[index]? with
  | none => rfl
  | some layer =>
      rw [there] at proposedHere
      have placed := places.placed index layer.slot (Proposal.frame_slot proposedHere)
      obtain ⟨decision, decided, placement⟩ := Option.map_eq_some_iff.mp placed
      simp only [decided, placement, Option.map_some]

/-- What is called for in a place of the stack and not committed there is an override that is
due. -/
theorem overrideDue?_slot {after : Display} {index : Nat} {layer amended : Layer}
    (found : after.layer? layer.id = some amended) :
    after.overrideDue? (layer.id, { layer.slot with
        placement := (script.decide index layer.slot).placement })
      = ((script.called? index layer).filter (· != amended.committed)).map fun composition =>
          (layer.id, composition) := by
  simp only [overrideDue?, committed?, found, Option.map_some, Option.bind_some, Script.called?]

theorem layer?_latchLayers_of_mem (stacked : display.Stacked)
    (proposed : display.propose = .ok proposal) {layer : Layer} (member : layer ∈ display.stack) :
    (display.latchLayers proposal).layer? layer.id = some layer.latched := by
  have listed : layer.id ∈ proposal.layers.map (·.1) := by
    rw [(proposes_of_propose proposed).ids stacked, ← stack_ids stacked]
    exact List.mem_map_of_mem member
  rw [layer?_latchLayers, layer?_of_mem_stack member, Option.map_some, if_pos listed]

/-- Nothing is overridden where every layer would be committed to what is called for. -/
theorem typeChanges_of_suits (stacked : display.Stacked) (suits : script.Suits display)
    (proposed : display.propose = .ok proposal)
    (places : script.Places proposal.frame.slots decisions) :
    ((display.latchLayers proposal).validationOf proposal decisions).typeChanges = [] := by
  rw [typeChanges_validationOf, overridesDue, layers_validationOf proposed places,
    List.filterMap_eq_nil_iff]
  intro entry member
  obtain ⟨index, bound, rfl⟩ := List.mem_mapIdx.mp member
  have there : display.stack[index]? = some display.stack[index] := List.getElem?_eq_getElem bound
  rw [overrideDue?_slot (layer?_latchLayers_of_mem stacked proposed (List.getElem_mem bound))]
  cases called : script.called? index display.stack[index] with
  | none => rfl
  | some composition =>
      have committed := suits index _ there composition called
      simp [committed, Option.filter]

/-- The layer in this place of the stack once the overrides of a validation are accepted. -/
def agreedLayer (script : Script) (index : Nat) (layer : Layer) : Layer :=
  ((script.called? index layer).filter (· != layer.latched.committed)).elim layer.latched
    layer.latched.settled

theorem complete_of_places (places : script.Places proposal.frame.slots decisions) :
    decisions.length = proposal.slotCount := places.length.trans (slots_length proposal)

theorem layer?_accepted (stacked : display.Stacked) (proposed : display.propose = .ok proposal)
    (places : script.Places proposal.frame.slots decisions) {index : Nat} {layer : Layer}
    (there : display.stack[index]? = some layer) :
    ((display.decided proposal decisions).accepted
        ((display.latchLayers proposal).validationOf proposal decisions)).layer? layer.id
      = some (agreedLayer script index layer) := by
  have found : (display.decided proposal decisions).layer? layer.id = some layer.latched :=
    layer?_latchLayers_of_mem stacked proposed (List.mem_of_getElem? there)
  have outstanding := outstanding_decided stacked proposed (complete_of_places places)
  have member : (layer.id, { layer.slot with
        placement := (script.decide index layer.slot).placement })
      ∈ ((display.latchLayers proposal).validationOf proposal decisions).proposal.layers := by
    rw [layers_validationOf proposed places]
    obtain ⟨bound, rfl⟩ := List.getElem?_eq_some_iff.mp there
    exact List.mem_mapIdx.mpr ⟨index, bound, rfl⟩
  change (Display.layer? (List.foldl acceptChange _ _) _) = _
  rw [layer?_foldl_acceptChange, found, outstanding.due,
    lookup_overridesDue outstanding.distinct member, overrideDue?_slot found]
  unfold agreedLayer
  cases (script.called? index layer).filter (· != layer.latched.committed) <;> rfl

/-- A round leaves a layer asking for what is called for, if it was overridden. -/
theorem committed_agreedLayer {index : Nat} {layer : Layer} {composition : Composition}
    (called : script.called? index (agreedLayer script index layer) = some composition) :
    (agreedLayer script index layer).latched.committed = composition := by
  have latched : script.called? index layer.latched = script.called? index layer :=
    Script.called?_of_terms layer.terms_latched script index
  unfold agreedLayer at called ⊢
  cases due : (script.called? index layer).filter (· != layer.latched.committed) with
  | some override =>
      -- overridden: the layer asks for the override, and the script calls for it again
      rw [due] at called
      have first : script.called? index layer.latched = some override := by
        rw [latched]
        exact (Option.filter_eq_some_iff.mp due).1
      have again := Script.called?_settled first
      simp only [Option.elim_some] at called ⊢
      rw [again] at called
      rw [Layer.committed_latched_settled]
      exact Option.some.inj called
  | none =>
      rw [due] at called
      simp only [Option.elim_none] at called ⊢
      rw [latched] at called
      rw [Layer.latched_latched]
      by_contra differs
      have effective : (composition != layer.latched.committed) = true := by
        simpa using Ne.symm differs
      simp [called, Option.filter, effective] at due

/-- Once the overrides of a validation are accepted, every layer is what the script calls for. -/
theorem suits_accepted (stacked : display.Stacked) (proposed : display.propose = .ok proposal)
    (places : script.Places proposal.frame.slots decisions) :
    script.Suits ((display.decided proposal decisions).accepted
      ((display.latchLayers proposal).validationOf proposal decisions)) := by
  have latching := display.amends_latchLayers proposal
  have accepting := (display.decided proposal decisions).amends_foldl_acceptChange
    ((display.latchLayers proposal).validationOf proposal decisions).typeChanges
  have known := fun index layer (there : display.stack[index]? = some layer) =>
    layer?_accepted stacked proposed places there
  have order : ((display.decided proposal decisions).accepted
      ((display.latchLayers proposal).validationOf proposal decisions)).order = display.order :=
    accepting.order.trans latching.order
  have stackedAfter : ((display.decided proposal decisions).accepted
      ((display.latchLayers proposal).validationOf proposal decisions)).Stacked := by
    have decided : (display.decided proposal decisions).Stacked :=
      (stacked.of_amends Layer.Alike.z latching).of_eq rfl rfl
    exact (decided.of_amends Layer.Alike.z accepting).of_eq rfl rfl
  intro index amended there composition called
  generalize (display.decided proposal decisions).accepted
    ((display.latchLayers proposal).validationOf proposal decisions) = after at *
  -- the layer that was in this place before
  have listed : display.layersInOrder[index]? = some amended.id := by
    have same : after.layersInOrder = display.layersInOrder := congrArg StackOrder.layers order
    rw [← same, ← stack_ids stackedAfter, List.getElem?_map, there]
    rfl
  obtain ⟨layer, before, found⟩ := stack_getElem? stacked listed
  have agreed := known index layer before
  rw [id_of_layer? found, layer?_of_mem_stack (List.mem_of_getElem? there)] at agreed
  obtain rfl := Option.some.inj agreed
  exact committed_agreedLayer called

/-! ## Later turns -/

variable {prepare : Frame → Except BackendError (List Decision)}

theorem propose_of_active {config : DisplayConfig} (active : display.activeConfig? = some config) :
    ∃ proposal, display.propose = .ok proposal := by
  simp only [propose, active]
  exact ⟨_, rfl⟩

/-- With a backend that follows the script, validating ends in an agreement. -/
theorem validateWith_of_guides (guides : script.Guides prepare)
    (modified : display.validated = none) (proposed : display.propose = .ok proposal) :
    ∃ decisions, script.Places proposal.frame.slots decisions
      ∧ display.validateWith prepare
        = (.ok ((display.latchLayers proposal).validationOf proposal decisions).summary,
          display.decided proposal decisions) := by
  obtain ⟨decisions, answered, places⟩ := guides proposal.frame
  have begun : display.beginValidate = .asking proposal := by
    simp only [beginValidate, modified, proposed]
  refine ⟨decisions, places, ?_⟩
  simp only [validateWith, begun, answered, finishValidate, if_pos (complete_of_places places)]
  rfl

/-- The layers are what the script calls for, and no override waits. -/
structure AtRest (script : Script) (display : Display) : Prop where
  suits : script.Suits display
  agreed : ∀ validation, display.validated = some validation → validation.typeChanges = []

theorem validates_atRest (stacked : display.Stacked) (atRest : AtRest script display)
    (active : display.activeConfig?.isSome) (guides : script.Guides prepare) :
    ∃ requests, (display.validateWith prepare).1 = .ok ⟨.noChanges, 0, requests⟩ := by
  cases validated : display.validated with
  | some validation =>
      have begun : display.beginValidate = .finished (.ok validation.summary) [] := by
        simp only [beginValidate, validated]
      refine ⟨validation.requests.length, ?_⟩
      simp only [validateWith, begun, Validation.summary, atRest.agreed validation validated]
      rfl
  | none =>
      obtain ⟨config, active⟩ := Option.isSome_iff_exists.mp active
      obtain ⟨proposal, proposed⟩ := propose_of_active active
      obtain ⟨decisions, places, validates⟩ := validateWith_of_guides guides validated proposed
      have quiet := typeChanges_of_suits stacked atRest.suits proposed places
      refine ⟨((display.latchLayers proposal).validationOf proposal decisions).requests.length, ?_⟩
      simp only [validates, Validation.summary, quiet]
      rfl

end Display

namespace Display

variable {script : Script} {display after : Display} {turn : Turn}

/-- As long as the terms are the same, every layer would be committed as before. -/
theorem suits_turned (atRest : AtRest script display) (turned : display.Turned turn after)
    (kept : after.terms = display.terms) : script.Suits after := by
  intro index amended there composition called
  have listed : display.terms[index]? = some amended.terms := by
    rw [← kept, terms, List.getElem?_map, there]
    rfl
  rw [terms, List.getElem?_map, Option.map_eq_some_iff] at listed
  obtain ⟨layer, before, same⟩ := listed
  have suited := atRest.suits index layer before composition
    ((Script.called?_of_terms same script index).trans called)
  rw [Layer.committed_latched] at suited ⊢
  rw [← Layer.isUnsupported_of_terms same]
  by_cases unsupported : layer.isUnsupported = true
  · -- nothing but an override commits such a layer, and none waits
    rw [if_pos unsupported] at suited ⊢
    have found := layer?_of_mem_stack (List.mem_of_getElem? before)
    have still := layer?_of_mem_stack (List.mem_of_getElem? there)
    have id : layer.id = amended.id := congrArg Terms.id same
    rw [← id] at still
    rcases committed?_turned turned found unsupported (mem_ids_iff.mpr ⟨amended, still⟩) with
      same | ⟨-, validation, override, validated, listed, -⟩
    · rw [committed?, committed?, still, found] at same
      exact (Option.some.inj same).trans suited
    · rw [atRest.agreed validation validated] at listed
      cases listed
  · rw [if_neg unsupported] at suited ⊢
    exact (congrArg Terms.pending same).symm.trans suited

/-- Only a validation that succeeds is a deed of this kind. -/
theorem validate_of_deed {typeChanges : Nat} (deed : display.deed turn = .validated typeChanges) :
    ∃ prepare summary, turn = .validate prepare ∧ (display.validateWith prepare).1 = .ok summary
      ∧ summary.typeChanges = typeChanges := by
  cases turn with
  | validate prepare =>
      simp only [Display.deed] at deed
      cases result : (display.validateWith prepare).1 with
      | error cause =>
          rw [result] at deed
          cases deed
      | ok summary =>
          rw [result] at deed
          exact ⟨prepare, summary, rfl, result, Deed.validated.inj deed⟩
  | removeLayer id =>
      simp only [Display.deed] at deed
      split at deed <;> cases deed
  | switchConfig id answer =>
      simp only [Display.deed] at deed
      split at deed <;> cases deed
  | call call =>
      cases call with
      | edit id edit =>
          simp only [Display.deed] at deed
          split at deed <;> cases deed
      | acceptChanges =>
          simp only [Display.deed] at deed
          split at deed <;> cases deed
      | _ => cases deed
  | _ => cases deed

theorem agreed_turn (stacked : display.Stacked) (atRest : AtRest script display)
    (active : display.activeConfig?.isSome) (guided : turn.GuidedBy script) :
    ∀ validation, (display.turn turn).2.validated = some validation →
      validation.typeChanges = [] := by
  intro validation validated
  have before : display.outstanding? = none ∨ display.outstanding? = some 0 := by
    unfold outstanding?
    cases record : display.validated with
    | none => exact .inl rfl
    | some earlier =>
        right
        rw [Option.map_some, atRest.agreed earlier record]
        rfl
  have outcome := outstanding?_turn stacked turn
  rw [outstanding?, validated, Option.map_some] at outcome
  rw [← List.length_eq_zero_iff]
  cases said : display.deed turn with
  | mutation =>
      rw [said] at outcome
      cases outcome
  | validated typeChanges =>
      obtain ⟨prepare, summary, rfl, result, rfl⟩ := validate_of_deed said
      obtain ⟨requests, quiet⟩ := validates_atRest stacked atRest active guided
      rw [result] at quiet
      rw [said, Except.ok.inj quiet] at outcome
      exact Option.some.inj outcome
  | accepted =>
      rw [said] at outcome
      rcases before with none | zero
      · rw [none] at outcome
        cases outcome
      · rw [zero] at outcome
        exact Option.some.inj outcome
  | other =>
      rw [said] at outcome
      rcases before with none | zero
      · rw [none] at outcome
        cases outcome
      · rw [zero] at outcome
        exact Option.some.inj outcome

theorem atRest_turn (stacked : display.Stacked) (atRest : AtRest script display)
    (active : display.activeConfig?.isSome) (guided : turn.GuidedBy script)
    (kept : (display.turn turn).2.terms = display.terms) : AtRest script (display.turn turn).2 :=
  ⟨suits_turned atRest (turned_turn stacked.held turn) kept,
    agreed_turn stacked atRest active guided⟩

end Display

/-! ## Runs -/

namespace System

variable {σ : Type}

/-- The same device and what waits for its backend, with a scripted backend in this state. -/
def staged (system : System σ) (stage : Stage) : System Stage where
  device := system.device
  backend := stage
  waiting := system.waiting

/-- The terms stay as they are through all of these actions. -/
def KeepsTerms (backend : Backend σ) (system : System σ) (actions : List Action) : Prop :=
  ∀ first, first <+: actions →
    (system.run backend first).device.display.terms = system.device.display.terms

/-- Validating succeeds and reports no override. -/
def Unopposed (backend : Backend σ) (system : System σ) : Prop :=
  ∀ access, system.device.reaches access = true →
    ∃ requests, (system.device.runAt backend access .validate system.backend).result
      = .ok (.summary ⟨.noChanges, 0, requests⟩)

/-- The client validates and accepts. -/
def round (asking accepting : Access) : List Action :=
  [.ask asking .validate, .call accepting .acceptChanges]

/-- On a display that is not validated, with a backend that is not made to fail, validating
succeeds, and accepting reaches the display after it. -/
structure Negotiates (system : System Stage) (asking accepting : Access) : Prop where
  modified : system.device.display.state = .modified
  willing : system.backend.script.failPrepare = false
  validates : ∃ result,
    (system.device.runAt .scripted asking .validate system.backend).result = .ok result
  reached : (system.step .scripted (.ask asking .validate)).device.reaches accepting = true

/-- The display can be validated, and the backend plays the script. -/
structure Ready (script : Script) (system : System Stage) : Prop where
  sound : system.Sound
  attainable : system.Attainable
  active : system.device.display.activeConfig?.isSome
  plays : system.backend.Plays script

structure AtRest (script : Script) (system : System Stage) : Prop where
  ready : Ready script system
  display : Display.AtRest script system.device.display

variable {backend : Backend σ} {script : Script} {stage : System Stage}

theorem ready_step (ready : Ready script stage) (action : Action) :
    Ready script (stage.step .scripted action) where
  sound := sound_step ready.sound .scripted action
  attainable := attainable_step ready.sound ready.attainable .scripted action
  active := active_step ready.sound ready.attainable ready.active .scripted action
  plays := step_maintains (Stage.plays_maintained script) ready.plays action

theorem atRest_step (atRest : AtRest script stage) {action : Action}
    (kept : (stage.step .scripted action).device.display.terms = stage.device.display.terms) :
    AtRest script (stage.step .scripted action) where
  ready := ready_step atRest.ready action
  display := by
    rw [step_display] at kept ⊢
    exact Display.atRest_turn atRest.ready.sound.stacked atRest.display atRest.ready.active
      (guided_turn atRest.ready.plays action) kept

theorem atRest_run (atRest : AtRest script stage) {actions : List Action}
    (kept : stage.KeepsTerms .scripted actions) : AtRest script (stage.run .scripted actions) := by
  induction actions generalizing stage with
  | nil => exact atRest
  | cons action rest ih =>
      have now : (stage.step .scripted action).device.display.terms
          = stage.device.display.terms :=
        kept [action] (List.prefix_cons_inj action |>.mpr (List.nil_prefix))
      refine ih (atRest_step atRest now) ?_
      intro first leads
      exact (kept (action :: first) ((List.prefix_cons_inj action).mpr leads)).trans now.symm

theorem unopposed_of_atRest (atRest : AtRest script stage) : stage.Unopposed .scripted := by
  intro access reached
  obtain ⟨requests, quiet⟩ := Display.validates_atRest atRest.ready.sound.stacked atRest.display
    atRest.ready.active (Stage.guides_of_plays atRest.ready.plays)
  refine ⟨requests, ?_⟩
  rw [Device.runAt_result reached, Display.run_validate, quiet]
  rfl

theorem reaches_of_ok {device : Device} {access : Access} {call : BackendCall} {state : σ}
    {result : CallResult}
    (succeeds : (device.runAt backend access call state).result = .ok result) :
    device.reaches access = true := by
  cases access with
  | display => rfl
  | device id =>
      simp only [Device.runAt, Device.run, Device.begin] at succeeds
      simp only [Device.reaches]
      cases found : device.find id with
      | error cause =>
          rw [found] at succeeds
          cases succeeds
      | ok display => rfl

theorem unvalidated_of_modified {display : Display} (modified : display.state = .modified) :
    display.validated = none := by
  unfold Display.state at modified
  cases record : display.validated with
  | none => rfl
  | some validation =>
      rw [record] at modified
      dsimp only at modified
      split at modified <;> cases modified

/-- After one round the display is at rest. -/
theorem atRest_round (sound : stage.Sound) (attainable : stage.Attainable)
    {asking accepting : Access} (negotiates : stage.Negotiates asking accepting) :
    AtRest stage.backend.script (stage.run .scripted (round asking accepting)) := by
  obtain ⟨modified, willing, ⟨result, validates⟩, reached⟩ := negotiates
  have unvalidated := unvalidated_of_modified modified
  have plays : stage.backend.Plays stage.backend.script := ⟨rfl, rfl, willing⟩
  have guides := Stage.guides_of_plays plays
  have asked := reaches_of_ok validates
  rw [Device.runAt_result asked, Display.run_validate] at validates
  cases proposed : stage.device.display.propose with
  | error cause =>
      have refused : stage.device.display.beginValidate = .finished (.error cause) [] := by
        simp only [Display.beginValidate, unvalidated, proposed]
      simp only [Display.validateWith, refused] at validates
      cases validates
  | ok proposal =>
      obtain ⟨decisions, places, agreed⟩ :=
        Display.validateWith_of_guides guides unvalidated proposed
      have first : (stage.step .scripted (.ask asking .validate)).device.display
          = stage.device.display.decided proposal decisions := by
        rw [step_display]
        simp only [turn, asked, if_true, Display.turn, agreed]
      have admitted : (stage.step .scripted (.ask asking .validate)).device.admits accepting
          .acceptChanges = true := by
        cases accepting <;> exact reached
      have second : (stage.run .scripted (round asking accepting)).device.display
          = (stage.device.display.decided proposal decisions).accepted
            ((stage.device.display.latchLayers proposal).validationOf proposal decisions) := by
        rw [round, run, run, run, step_display, first]
        simp only [turn, admitted, if_true, Display.turn, Display.call]
        rfl
      have active : stage.device.display.activeConfig?.isSome := by
        obtain ⟨config, active, -⟩ := (Display.proposes_of_propose proposed).target
        rw [active]
        rfl
      have ready : Ready stage.backend.script stage := ⟨sound, attainable, active, plays⟩
      refine ⟨ready_step (ready_step ready _) _, ?_⟩
      rw [second]
      refine ⟨Display.suits_accepted sound.stacked proposed places, ?_⟩
      intro validation accepted
      obtain rfl := Option.some.inj accepted
      rfl

/-- **A negotiation with a scripted backend settles in one round.** Whatever was done before, once a
validation has succeeded and its overrides are accepted, validating reports no override as long as
the terms stay as they are. -/
theorem settled_run {backend : Backend σ} {system : System σ} (opened : system.Opened backend)
    (actions : List Action) {stage : Stage} {asking accepting : Access}
    (negotiates : ((system.run backend actions).staged stage).Negotiates asking accepting)
    {later : List Action}
    (kept : (((system.run backend actions).staged stage).run .scripted
      (round asking accepting)).KeepsTerms .scripted later) :
    ∀ first, first <+: later →
      (((system.run backend actions).staged stage).run .scripted
        (round asking accepting ++ first)).Unopposed .scripted := by
  have sound := sound_run (sound_of_opened opened) backend actions
  have attainable := attainable_run (sound_of_opened opened) (attainable_of_opened opened) backend
    actions
  have soundOnStage : ((system.run backend actions).staged stage).Sound :=
    ⟨sound.stacked, sound.numbered⟩
  have rests := atRest_round soundOnStage attainable negotiates
  intro first leads
  rw [run_append]
  refine unopposed_of_atRest (atRest_run rests ?_)
  intro part partLeads
  exact kept part (partLeads.trans leads)

/-- Two layers, of which the second has a colour space that only the client can draw. -/
def twoLayersRun : List Action :=
  [.createLayer ⟨1⟩, .createLayer ⟨1⟩,
    .call (.device ⟨1⟩) (.edit ⟨1⟩ (.composition .device)),
    .call (.device ⟨1⟩) (.edit ⟨1⟩ (.buffer (some ⟨7⟩) .noop)),
    .call (.device ⟨1⟩) (.edit ⟨2⟩ (.dataspace ⟨5⟩))]

/-- Everything is shown again with the buffers that were there. -/
def sameBuffersRun : List Action :=
  [.call (.device ⟨1⟩) (.edit ⟨1⟩ (.buffer (some ⟨7⟩) .noop)), .ask .display .validate,
    .call .display .acceptChanges, .call (.device ⟨1⟩) (.clientTarget (some ⟨9⟩) .noop ⟨0⟩ []),
    .ask (.device ⟨1⟩) .present, .call (.device ⟨1⟩) (.edit ⟨2⟩ (.buffer none .noop)),
    .ask (.device ⟨1⟩) .validate]

/-- The backend leaves the first layer to the client and puts the second one on an overlay. -/
def contraryStage : Stage :=
  { script := { forcedSlots := [(1, .overlay)], forcedBuffers := [(⟨7⟩, .framebuffer)] } }

def twoLayers : System Stage := ((onScript []).run .scripted twoLayersRun).staged contraryStage

theorem settled_run_twoLayers :
    twoLayers.Negotiates (.device ⟨1⟩) .display
      ∧ (twoLayers.run .scripted (round (.device ⟨1⟩) .display)).KeepsTerms .scripted sameBuffersRun
      ∧ ∀ first, first <+: sameBuffersRun →
        (twoLayers.run .scripted (round (.device ⟨1⟩) .display ++ first)).Unopposed .scripted := by
  have negotiates : twoLayers.Negotiates (.device ⟨1⟩) .display :=
    ⟨by decide +kernel, rfl, ⟨.summary ⟨.hasChanges, 2, 0⟩, by decide +kernel⟩, by decide +kernel⟩
  have kept : (twoLayers.run .scripted (round (.device ⟨1⟩) .display)).KeepsTerms .scripted
      sameBuffersRun := by
    have each : ∀ first ∈ sameBuffersRun.inits,
        ((twoLayers.run .scripted (round (.device ⟨1⟩) .display)).run .scripted
            first).device.display.terms
          = (twoLayers.run .scripted (round (.device ⟨1⟩) .display)).device.display.terms := by
      decide +kernel
    intro first leads
    exact each first ((List.mem_inits first sameBuffersRun).mpr leads)
  exact ⟨negotiates, kept, settled_run (opened_onScript []) twoLayersRun negotiates kept⟩

end System

end Scanout
