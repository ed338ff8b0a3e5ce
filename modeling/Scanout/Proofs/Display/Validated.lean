import Scanout.Proofs.Device.Opened

/-!
# What lasts while a display is validated

A display is validated from a negotiation up to the first change that its backend has to hear about.
In between, overrides are accepted, layers are restyled, and the display's own settings change. So
what a negotiation brings about, and what these keep, holds of every validated display: `Lasting`
asks for no more, and `whenever_run` is the induction over a run.
-/

set_option autoImplicit false

namespace Scanout

namespace Display

/-- The same layers are there, each of them at most restyled. -/
structure Restyles (display after : Display) : Prop where
  ids : after.ids = display.ids
  layers : ∀ {id : LayerId} {layer : Layer}, display.layer? id = some layer →
    ∃ amended, after.layer? id = some amended ∧ layer.Restyled amended

namespace Restyles

variable {display after : Display}

theorem of_amends (amends : Amends Layer.Restyled display after) : display.Restyles after :=
  ⟨amends.ids, amends.layers⟩

theorem of_eq (layers : after.layers = display.layers) : display.Restyles after where
  ids := by simp only [Display.ids, layers]
  layers := by
    intro id layer found
    refine ⟨layer, ?_, Layer.Restyled.refl layer⟩
    unfold layer? at found ⊢
    rwa [layers]

theorem before (restyles : display.Restyles after) {id : LayerId} {amended : Layer}
    (found : after.layer? id = some amended) :
    ∃ layer, display.layer? id = some layer ∧ layer.Restyled amended := by
  have member : id ∈ display.ids := restyles.ids ▸ mem_ids_iff.mpr ⟨amended, found⟩
  obtain ⟨layer, there⟩ := mem_ids_iff.mp member
  obtain ⟨other, still, restyled⟩ := restyles.layers there
  rw [found] at still
  exact ⟨layer, there, Option.some.inj still ▸ restyled⟩

end Restyles

/-- If the display is validated, it has this property together with its validation. -/
def Whenever (property : Display → Validation → Prop) (display : Display) : Prop :=
  ∀ validation, display.validated = some validation → property display validation

/-- A property of validated displays that a negotiation brings about and that lasts. -/
structure Lasting (property : Display → Validation → Prop) : Prop where
  decided : ∀ {display : Display} {proposal : Proposal} {decisions : List Decision},
    display.Stacked → display.propose = .ok proposal → decisions.length = proposal.slotCount →
    property (display.decided proposal decisions)
      ((display.latchLayers proposal).validationOf proposal decisions)
  accepted : ∀ {display : Display} {validation : Validation}, property display validation →
    property (display.accepted validation) { validation with typeChanges := [] }
  restyled : ∀ {display after : Display} {validation : Validation}, display.Restyles after →
    property display validation → property after validation

/-- The same of a property that also speaks of the overrides accepted since the negotiation. -/
structure LastingWith (property : List (LayerId × Composition) → Display → Validation → Prop) :
    Prop where
  decided : ∀ {display : Display} {proposal : Proposal} {decisions : List Decision},
    display.Stacked → display.propose = .ok proposal → decisions.length = proposal.slotCount →
    property [] (display.decided proposal decisions)
      ((display.latchLayers proposal).validationOf proposal decisions)
  accepted : ∀ {taken : List (LayerId × Composition)} {display : Display}
    {validation : Validation}, property taken display validation →
    property (taken ++ validation.typeChanges) (display.accepted validation)
      { validation with typeChanges := [] }
  restyled : ∀ {taken : List (LayerId × Composition)} {display after : Display}
    {validation : Validation}, display.Restyles after →
    property taken display validation → property taken after validation

theorem Lasting.withAccepted {property : Display → Validation → Prop}
    (lasting : Lasting property) : LastingWith fun _ => property where
  decided := lasting.decided
  accepted := lasting.accepted
  restyled := lasting.restyled

theorem whenever_of_modified {property : Display → Validation → Prop} {display : Display}
    (modified : display.validated = none) : display.Whenever property := by
  intro validation validated
  rw [modified] at validated
  cases validated

variable {property : List (LayerId × Composition) → Display → Validation → Prop}
  {taken : List (LayerId × Composition)} {memory : Memory} {display after : Display}

theorem Whenever.restyle (whenever : display.Whenever (property taken))
    (lasting : LastingWith property) (restyles : display.Restyles after)
    (same : after.validated = display.validated) : after.Whenever (property taken) := by
  intro validation validated
  exact lasting.restyled restyles (whenever validation (same ▸ validated))

theorem whenever_edited (lasting : LastingWith property) {id : LayerId}
    (whenever : display.Whenever (property taken)) (edited : display.Edited id after) :
    after.Whenever (property taken) := by
  cases edited with
  | kept => exact whenever
  | restyled found same restyled =>
      have amends := Amends.putLayer Layer.Restyled.refl found same restyled
      exact whenever.restyle lasting (.of_amends amends) rfl
  | _ => exact whenever_of_modified rfl

theorem whenever_turned (lasting : LastingWith property) {turn : Turn} (stacked : display.Stacked)
    (whenever : display.Whenever (property memory.accepted))
    (turned : display.Turned turn after) :
    after.Whenever (property (memory.next display turn).accepted) := by
  cases turned with
  | still forgotten => exact (forgotten memory).symm ▸ whenever
  | added => exact whenever_of_modified rfl
  | removed found => exact whenever_of_modified (by rw [removeLayer_eq found]; rfl)
  | edited edited => exact whenever_edited lasting whenever edited
  | @accepted validation validated =>
      simp only [Memory.next, validated]
      intro settled same
      obtain rfl := Option.some.inj same
      exact lasting.accepted (whenever validation validated)
  | negotiated modified proposed agreed complete =>
      simp only [Memory.next, agreed]
      intro validation same
      obtain rfl := Option.some.inj same
      exact lasting.decided stacked proposed complete
  | @presented commit frame fences asking committed complete =>
      have amends := amends_foldl_pushReleaseFence (display.releaseShares fences) display
      have handed := whenever.restyle lasting (.of_amends amends) amends.validated
      exact handed.restyle lasting (.of_eq rfl) rfl
  | switched => exact whenever_of_modified rfl
  | _ => exact whenever.restyle lasting (.of_eq rfl) rfl

theorem whenever_after (lasting : LastingWith property) (stacked : display.Stacked)
    (whenever : display.Whenever (property memory.accepted)) {turns : List Turn}
    (follows : display.Follows turns) :
    (display.after turns).Whenever (property (memory.through display turns).accepted) :=
  after_induction (motive := fun memory display => display.Whenever (property memory.accepted))
    (whenever_turned lasting) memory stacked whenever follows

end Display

namespace System

variable {σ : Type} {backend : Backend σ} {system : System σ}

/-- A property that lasts holds whenever the display of an opened device is validated. -/
theorem wheneverWith_run
    {property : List (LayerId × Composition) → Display → Validation → Prop}
    (lasting : Display.LastingWith property) (opened : system.Opened backend)
    (actions : List Action) :
    (system.run backend actions).device.display.Whenever
      (property
        (Memory.through {} system.device.display (system.turns backend actions)).accepted) := by
  have sound := sound_of_opened opened
  have start : system.device.display.Whenever (property []) := by
    obtain ⟨id, name, required, configs, same⟩ := opened_display opened
    exact Display.whenever_of_modified (by rw [same]; rfl)
  rw [run_display]
  exact Display.whenever_after lasting sound.stacked start (follows_turns sound backend actions)

theorem whenever_run {property : Display → Validation → Prop} (lasting : Display.Lasting property)
    (opened : system.Opened backend) (actions : List Action) :
    (system.run backend actions).device.display.Whenever property :=
  wheneverWith_run lasting.withAccepted opened actions

end System

end Scanout
