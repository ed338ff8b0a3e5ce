import Scanout.Proofs.Device.Answered
import Scanout.Proofs.Display.Settling

/-!
# What a backend's decisions come to

A validation goes through two lists. It first commits what the layers ask for, but for layers that
only the client can draw; then it goes through the backend's decisions, slot by slot, and compares
each with what the slot's layer is committed to by then. `overrides` and `clearings` say what both
passes come to, as functions of the layers, back to front, and of the decisions.

Both stop with the last layer, so the decision on the client target's slot, which comes after it, is
required and has no influence (`validationOf_congr`).
-/

set_option autoImplicit false

namespace Scanout

/-- A backend that decides like this whatever it is shown. -/
def Backend.deciding (decisions : List Decision) : Backend Unit where
  displayConfigs := fun _ => (.ok [], ())
  prepare := fun _ _ => (.ok decisions, ())
  commit := fun _ _ => (.ok {}, ())

/-! ## Layers and decisions -/

namespace Layer

/-- What a validation commits the layer to, before any override. -/
def committedNext (layer : Layer) : Composition :=
  if layer.dataspace.isSupported then layer.pending else layer.committed

def validatedOnce (layer : Layer) : Layer :=
  { layer with composition := ⟨layer.committedNext, layer.pending⟩ }

/-- What the layer is overridden to if its slot is placed like this. -/
def overridden? (layer : Layer) : Placement → Option Composition
  | .framebuffer => if layer.committedNext = .client then none else some .client
  | .overlay => if layer.committedNext = .device then none else some .device
  | _ => none

end Layer

/-- The overrides of these layers, in the order of their slots. -/
def overrides (layers : List Layer) (decisions : List Decision) :
    List (LayerId × Composition) :=
  (layers.zip decisions).filterMap fun (layer, decision) =>
    (layer.overridden? decision.placement).map fun composition => (layer.id, composition)

/-- The layers whose areas the client is asked to clear, in the order of their slots. -/
def clearings (layers : List Layer) (decisions : List Decision) :
    List (LayerId × LayerRequest) :=
  ((layers.zip decisions).filter fun (_, decision) => decision.clearClientTarget).map
    fun (layer, _) => (layer.id, .clearClientTarget)

namespace Device

/-- A validation of these layers, back to front, has ended as the decisions say. -/
structure Validates (device : Device) (layers : List Layer) (decisions : List Decision)
    (reply : Reply CallResult) : Prop where
  summary : reply.result = .ok (.summary {
    status := if overrides layers decisions = [] then .noChanges else .hasChanges
    typeChanges := (overrides layers decisions).length
    requests := (clearings layers decisions).length })
  overridden : reply.device.display.changedCompositions = .ok (overrides layers decisions)
  requested : reply.device.display.requests = .ok (clearings layers decisions)
  layers : reply.device.display.layers = device.display.layers.map Layer.validatedOnce

/-- How a validation of these layers ends with a backend that decides like this. -/
structure EndsWith {τ : Type} (device : Device) (layers : List Layer) (proposal : Proposal)
    (access : Access) (backend : Backend τ) (state : τ) (decisions : List Decision) : Prop where
  succeeds : (∃ result, (device.runAt backend access .validate state).result = .ok result)
    ↔ decisions.length = layers.length + 1
  refused : decisions.length ≠ layers.length + 1 →
    (device.runAt backend access .validate state).result = .error .noResources
      ∧ (device.runAt backend access .validate state).device = device
  validates : decisions.length = layers.length + 1 →
    device.Validates layers decisions (device.runAt backend access .validate state)
  /-- With the same decisions on the slots of layers, nothing differs. -/
  target : ∀ {υ : Type} (other : Backend υ) (state' : υ) (others : List Decision),
    (other.prepare proposal.frame state').1 = .ok others →
    others.length = decisions.length →
    others.take layers.length = decisions.take layers.length →
    (device.runAt other access .validate state').result
        = (device.runAt backend access .validate state).result
      ∧ (device.runAt other access .validate state').device
        = (device.runAt backend access .validate state).device
      ∧ (device.runAt other access .validate state').events
        = (device.runAt backend access .validate state).events

end Device

theorem Layer.latched_eq (layer : Layer) : layer.latched = layer.validatedOnce := by
  unfold latched isUnsupported validatedOnce committedNext
  cases layer.dataspace.isSupported <;> rfl

theorem filter_ne_committed (called committed : Composition) :
    (some called).filter (· != committed) = if committed = called then none else some called := by
  by_cases same : committed = called
  · simp [Option.filter, same]
  · simp [Option.filter, same, Ne.symm same]

theorem typeChange?_validatedOnce (layer : Layer) (decision : Decision) :
    Display.typeChange? layer.validatedOnce decision
      = (layer.overridden? decision.placement).map fun composition => (layer.id, composition) := by
  have committed : layer.validatedOnce.committed = layer.committedNext := rfl
  unfold Display.typeChange? Layer.overridden?
  rw [committed]
  cases decision.placement with
  | framebuffer =>
      rw [Placement.override?, filter_ne_committed]
      rfl
  | overlay =>
      rw [Placement.override?, filter_ne_committed]
      rfl
  | _ => rfl

namespace Display

variable {display after : Display} {proposal : Proposal} {decisions other : List Decision}

/-! ## Both passes -/

theorem layers_eq_map (distinct : display.ids.Nodup) (ids : after.ids = display.ids)
    {change : Layer → Layer}
    (changed : ∀ layer ∈ display.layers, after.layer? layer.id = some (change layer)) :
    after.layers = display.layers.map change := by
  have length : after.layers.length = display.layers.length := by
    simpa [Display.ids] using congrArg List.length ids
  refine List.ext_getElem (by simpa using length) ?_
  intro index inside within
  rw [List.length_map] at within
  have same : after.layers[index].id = display.layers[index].id := by
    have named := congrArg (fun ids => ids[index]?) ids
    simpa [Display.ids, inside, within] using named
  have found := layer?_of_mem (ids ▸ distinct) (List.getElem_mem inside)
  rw [same, changed _ (List.getElem_mem within)] at found
  rw [List.getElem_map]
  exact (Option.some.inj found).symm

theorem layers_decided (stacked : display.Stacked) (proposed : display.propose = .ok proposal)
    (decisions : List Decision) :
    (display.decided proposal decisions).layers = display.layers.map Layer.validatedOnce := by
  apply layers_eq_map stacked.distinct (display.amends_latchLayers proposal).ids
  intro layer there
  have inStack := (backToFront_stack stacked).perm.mem_iff.mpr there
  rw [← layer.latched_eq]
  exact layer?_latchLayers_of_mem stacked proposed inStack

theorem decidedLayers_eq (stacked : display.Stacked) (proposed : display.propose = .ok proposal)
    (decisions : List Decision) :
    (display.latchLayers proposal).decidedLayers proposal decisions
      = (display.stack.zip decisions).map fun (layer, decision) =>
          (layer.validatedOnce, decision) := by
  unfold decidedLayers
  rw [(proposes_of_propose proposed).layers, List.zip_map_left, List.filterMap_map,
    ← List.filterMap_eq_map]
  refine List.filterMap_congr ?_
  rintro ⟨layer, decision⟩ member
  -- the layer in this place of the stack is there, latched, and meets the decision on its slot
  have found := layer?_latchLayers_of_mem stacked proposed (List.of_mem_zip member).1
  simp only [Function.comp_apply, Prod.map_apply, found, Option.map_some, layer.latched_eq]
  rfl

theorem typeChanges_eq (stacked : display.Stacked) (proposed : display.propose = .ok proposal)
    (decisions : List Decision) :
    ((display.latchLayers proposal).validationOf proposal decisions).typeChanges
      = overrides display.stack decisions := by
  simp only [validationOf, decidedLayers_eq stacked proposed, overrides, List.filterMap_map]
  refine List.filterMap_congr ?_
  rintro ⟨layer, decision⟩ -
  exact typeChange?_validatedOnce layer decision

theorem requests_eq (stacked : display.Stacked) (proposed : display.propose = .ok proposal)
    (decisions : List Decision) :
    ((display.latchLayers proposal).validationOf proposal decisions).requests
      = clearings display.stack decisions := by
  simp only [validationOf, decidedLayers_eq stacked proposed, clearings, List.filterMap_map]
  rw [← List.filterMap_eq_map, ← List.filterMap_eq_filter, List.filterMap_filterMap]
  refine List.filterMap_congr ?_
  rintro ⟨layer, decision⟩ -
  cases hint : decision.clearClientTarget 
    <;> simp [request?, hint, Layer.validatedOnce, Option.guard]

/-- The decision on the client target's slot has no influence. -/
theorem validationOf_congr
    (same : other.take proposal.layers.length = decisions.take proposal.layers.length) :
    display.validationOf proposal other = display.validationOf proposal decisions := by
  have cut : ∀ decisions : List Decision, proposal.layers.zip decisions
      = proposal.layers.zip (decisions.take proposal.layers.length) := by
    intro decisions
    have whole : (proposal.layers.zip decisions).take proposal.layers.length
        = proposal.layers.zip decisions := by
      apply List.take_of_length_le
      rw [List.length_zip]
      exact Nat.min_le_left _ _
    rw [← whole, List.zip_eq_zipWith, List.take_zipWith, List.take_length]
    rfl
  simp only [validationOf, decidedLayers, cut other, cut decisions, same]

/-! ## A validation from its beginning to its end -/

theorem beginValidate_of_proposed (modified : display.validated = none)
    (proposed : display.propose = .ok proposal) : display.beginValidate = .asking proposal := by
  simp only [beginValidate, modified, proposed]

theorem run_validate_asking (begun : display.beginValidate = .asking proposal) {τ : Type}
    (backend : Backend τ) (state : τ) :
    (display.run backend .validate state).1
      = (display.finishValidate proposal (backend.prepare proposal.frame state).1).map
        .summary := by
  simp only [run, begin, begun, Begun.map, complete]

theorem finishValidate_complete (display : Display)
    (complete : decisions.length = proposal.slotCount) :
    (display.finishValidate proposal (.ok decisions)).result
        = .ok ((display.latchLayers proposal).validationOf proposal decisions).summary
      ∧ (display.finishValidate proposal (.ok decisions)).display
        = display.decided proposal decisions := by
  constructor
  · simp only [finishValidate, if_pos complete]
  · simp only [finishValidate, if_pos complete]
    rfl

theorem finishValidate_incomplete (display : Display)
    (incomplete : decisions.length ≠ proposal.slotCount) :
    (display.finishValidate proposal (.ok decisions)).result = .error .noResources
      ∧ (display.finishValidate proposal (.ok decisions)).display = display := by
  constructor <;> simp only [finishValidate, if_neg incomplete]

theorem finishValidate_congr (display : Display) (count : other.length = decisions.length)
    (same : other.take proposal.layers.length = decisions.take proposal.layers.length) :
    (display.finishValidate proposal (.ok other)).result
        = (display.finishValidate proposal (.ok decisions)).result
      ∧ (display.finishValidate proposal (.ok other)).display
        = (display.finishValidate proposal (.ok decisions)).display := by
  by_cases complete : decisions.length = proposal.slotCount
  · obtain ⟨result, after⟩ := display.finishValidate_complete complete
    obtain ⟨result', after'⟩ := display.finishValidate_complete (count.trans complete)
    rw [result, result', after, after']
    unfold decided
    rw [validationOf_congr same]
    exact ⟨rfl, rfl⟩
  · obtain ⟨result, after⟩ := display.finishValidate_incomplete complete
    obtain ⟨result', after'⟩ := display.finishValidate_incomplete (count.symm ▸ complete)
    rw [result, result', after, after']
    exact ⟨rfl, rfl⟩

end Display

namespace Device

variable {device : Device} {access : Access} {proposal : Proposal} {decisions : List Decision}
  {τ : Type} {backend : Backend τ} {state : τ}

theorem runAt_validate (reached : device.reaches access = true)
    (begun : device.display.beginValidate = .asking proposal)
    (answered : (backend.prepare proposal.frame state).1 = .ok decisions) :
    device.runAt backend access .validate state
      = device.concludeAt access .validate
        ((device.display.finishValidate proposal (.ok decisions)).map .summary) := by
  rw [runAt_eq reached, Display.run_validate_asking begun, answered]

section

variable (stacked : device.display.Stacked) (modified : device.display.validated = none)
  (proposed : device.display.propose = .ok proposal) (reached : device.reaches access = true)
  (answered : (backend.prepare proposal.frame state).1 = .ok decisions)

include stacked modified proposed reached answered

theorem validates_of_complete (complete : decisions.length = proposal.slotCount) :
    device.Validates device.display.stack decisions
      (device.runAt backend access .validate state) := by
  have begun := Display.beginValidate_of_proposed modified proposed
  obtain ⟨result, display⟩ := device.display.finishValidate_complete complete
  have after : (device.runAt backend access .validate state).device.display
      = device.display.decided proposal decisions := by
    rw [runAt_validate reached begun answered, display_concludeAt]
    exact display
  have changes := Display.typeChanges_eq stacked proposed decisions
  have requests := Display.requests_eq stacked proposed decisions
  constructor
  · rw [runAt_result reached, Display.run_validate_asking begun, answered]
    simp only [Outcome.map, result, Except.map, Validation.summary, changes, requests,
      List.isEmpty_iff]
  · rw [after]
    exact congrArg Except.ok changes
  · rw [after]
    exact congrArg Except.ok requests
  · rw [after]
    exact Display.layers_decided stacked proposed decisions

theorem endsWith_of_proposed :
    device.EndsWith device.display.stack proposal access backend state decisions := by
  have begun := Display.beginValidate_of_proposed modified proposed
  have count : proposal.slotCount = device.display.stack.length + 1 := by
    rw [Proposal.slotCount, (Display.proposes_of_propose proposed).layers, List.length_map]
  have refused : decisions.length ≠ device.display.stack.length + 1 →
      (device.runAt backend access .validate state).result = .error .noResources := by
    intro incomplete
    rw [runAt_result reached, Display.run_validate_asking begun, answered]
    exact congrArg (Except.map CallResult.summary)
      (device.display.finishValidate_incomplete (count ▸ incomplete)).1
  have validates : decisions.length = device.display.stack.length + 1 →
      device.Validates device.display.stack decisions
        (device.runAt backend access .validate state) := fun complete =>
    validates_of_complete stacked modified proposed reached answered (complete.trans count.symm)
  constructor
  · constructor
    · rintro ⟨result, succeeds⟩
      by_contra incomplete
      rw [refused incomplete] at succeeds
      cases succeeds
    · intro complete
      exact ⟨_, (validates complete).summary⟩
  · intro incomplete
    have spared := device.spares_runAt backend access .validate state _ (refused incomplete)
    exact ⟨refused incomplete, spared.1⟩
  · exact validates
  · intro υ other state' others answered' length same
    have slots : proposal.layers.length = device.display.stack.length := by
      rw [(Display.proposes_of_propose proposed).layers, List.length_map]
    rw [← slots] at same
    obtain ⟨result, display⟩ := device.display.finishValidate_congr length same
    rw [runAt_validate reached begun answered, runAt_validate reached begun answered']
    exact device.concludeAt_congr access .validate (congrArg (Except.map CallResult.summary) result)
      display

end

end Device

namespace System

variable {σ : Type}

/-- **What a validation comes to, for any layers and any decisions.** -/
theorem decided_run {backend : Backend σ} {system : System σ} (opened : system.Opened backend)
    (actions : List Action) {access : Access}
    (reached : (system.run backend actions).device.reaches access = true)
    (modified : (system.run backend actions).device.display.state = .modified)
    (active : (system.run backend actions).device.display.activeConfig?.isSome = true) :
    ∃ layers proposal, (system.run backend actions).device.display.BackToFront layers
      ∧ (system.run backend actions).device.display.beginValidate = .asking proposal
      ∧ proposal.layers.map (·.1) = layers.map (·.id)
      ∧ ∀ {τ : Type} (answering : Backend τ) (state : τ) (decisions : List Decision),
        (answering.prepare proposal.frame state).1 = .ok decisions →
        (system.run backend actions).device.EndsWith layers proposal access answering state
          decisions := by
  have stacked := (sound_run (sound_of_opened opened) backend actions).stacked
  generalize (system.run backend actions).device = device at *
  have unvalidated := unvalidated_of_modified modified
  obtain ⟨config, active⟩ := Option.isSome_iff_exists.mp active
  obtain ⟨proposal, proposed⟩ := Display.propose_of_active active
  refine ⟨device.display.stack, proposal, Display.backToFront_stack stacked, ?_, ?_, ?_⟩
  · exact Display.beginValidate_of_proposed unvalidated proposed
  · rw [(Display.proposes_of_propose proposed).ids stacked, Display.stack_ids stacked]
  · intro τ answering state decisions answered
    exact Device.endsWith_of_proposed stacked unvalidated proposed reached answered

/-- A layer for the hardware, one in a colour space that only the client can draw, and one for the
client. -/
def mixedRun : List Action :=
  [.createLayer ⟨1⟩, .createLayer ⟨1⟩, .createLayer ⟨1⟩,
    .call (.device ⟨1⟩) (.edit ⟨1⟩ (.composition .device)),
    .call .display (.edit ⟨2⟩ (.composition .device)),
    .call (.device ⟨1⟩) (.edit ⟨2⟩ (.dataspace ⟨7⟩)),
    .call .display (.edit ⟨3⟩ (.composition .client))]

/-- The first layer is left to the client, the second one gets a plane, and the decision on the
client target's slot is this one. -/
def mixedDecisions (target : Decision) : List Decision :=
  [⟨.framebuffer, true⟩, ⟨.overlay, false⟩, ⟨.framebuffer, true⟩, target]

theorem decided_run_mixed :
    let device := ((onScript []).run .scripted mixedRun).device
    let moved := mixedDecisions ⟨.overlay, true⟩
    let kept := mixedDecisions ⟨.framebufferTarget, false⟩
    (onScript []).Opened .scripted ∧ device.reaches .display = true
      ∧ device.display.state = .modified ∧ device.display.activeConfig?.isSome = true
      ∧ (device.runAt (.deciding moved) .display .validate ()).result
        = .ok (.summary ⟨.hasChanges, 2, 2⟩)
      ∧ (∃ layers, device.Validates layers moved
          (device.runAt (.deciding moved) .display .validate ())
        ∧ overrides layers moved = [(⟨1⟩, .client), (⟨2⟩, .device)])
      ∧ (device.runAt (.deciding kept) .display .validate ()).device
        = (device.runAt (.deciding moved) .display .validate ()).device := by
  intro device moved kept
  have opened : (onScript []).Opened .scripted := opened_onScript []
  have reached : device.reaches .display = true := rfl
  have modified : device.display.state = .modified := by decide +kernel
  have active : device.display.activeConfig?.isSome = true := by decide +kernel
  obtain ⟨layers, proposal, ordered, -, -, ends⟩ :=
    decided_run opened mixedRun reached modified active
  have count : moved.length = layers.length + 1 := by
    rw [ordered.perm.length_eq]
    decide +kernel
  have ending := ends (.deciding moved) () moved rfl
  have validates := ending.validates count
  have told : ((device.runAt (.deciding moved) .display .validate
      ()).device.display.changedCompositions).toOption
        = some [(⟨1⟩, .client), (⟨2⟩, .device)] := by decide +kernel
  rw [validates.overridden] at told
  have same : kept.take layers.length = moved.take layers.length := by
    have three : layers.length = 3 := Nat.succ.inj count.symm
    rw [three]
    rfl
  obtain ⟨-, after, -⟩ := ending.target (.deciding kept) () kept rfl rfl same
  exact ⟨opened, reached, modified, active, by decide +kernel,
    ⟨layers, validates, Option.some.inj told⟩, after⟩

end System

end Scanout
