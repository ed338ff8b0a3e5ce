import Scanout.Proofs.Display.Commit
import Scanout.Proofs.Display.Dirty

/-!
# What a backend is told between two frames

On prepare a display tells its backend whether the list has changed since the prepare before, and
it finds that out without comparing lists: from a flag, from the count of dirty layers and from the
number of layers. `Resent` is what these three say together: without the flag, the layers are
stacked as on the prepare before, and every layer is committed to what it asked for then, or to the
override that was accepted since.

So a list that is not flagged shows the same layers (`unflagged_run`), and what it asks for differs
exactly where an accepted override asks for something else. Accepting an override raises no flag,
and `unflagged_override` is a run in which the backend is not told.
-/

set_option autoImplicit false

namespace Scanout

def Slot.request (slot : Slot) : Placement × Bool := (slot.placement, slot.skip)

/-- What a layer with this composition asks the backend for. -/
def Composition.request : Composition → Placement × Bool
  | .device => (.framebuffer, false)
  | .cursor => (.framebuffer, false)
  | .sideband => (.sideband, false)
  | _ => (.framebuffer, true)

namespace Layer

theorem requested_eq (layer : Layer) :
    layer.requested
      = if layer.isUnsupported then (.framebuffer, true) else layer.pending.request := by
  unfold requested
  cases layer.pending <;> rfl

/-- What a layer asks for if nothing but the committed composition is pending. -/
def committedRequest (layer : Layer) : Placement × Bool :=
  if layer.isUnsupported then (.framebuffer, true) else layer.committed.request

end Layer

/-- What a layer asks for after the last negotiation, in which its slot was `slot`, if it is
committed to the override accepted last. -/
def Memory.expected (memory : Memory) (layer : Layer) (slot : Slot) : Placement × Bool :=
  if layer.isUnsupported then slot.request
  else
    match memory.accepted.reverse.lookup layer.id with
    | none => slot.request
    | some composition => composition.request

namespace Display

/-! ## Without the flag -/

/-- What a display without the flag says about the last negotiation. -/
structure ResentSince (memory : Memory) (display : Display) (negotiation : Negotiation) : Prop where
  ids : negotiation.proposal.layers.map (·.1) = display.layersInOrder
  target : negotiation.proposal.target.request = (.framebufferTarget, false)
  layers : ∀ entry ∈ negotiation.proposal.layers, ∃ layer, display.layer? entry.1 = some layer
    ∧ layer.committedRequest = memory.expected layer entry.2

/-- Without the flag, nothing but accepted overrides has changed what layers are committed to. -/
def Resent (memory : Memory) (display : Display) : Prop :=
  display.needsFullResend = false → ∃ negotiation, memory.negotiation = some negotiation
    ∧ ResentSince memory display negotiation

/-- Nothing is added to what the last negotiation says. -/
structure Unchanged (display after : Display) : Prop where
  resend : after.needsFullResend = display.needsFullResend
  order : after.order = display.order
  layers : ∀ {id : LayerId} {layer : Layer}, display.layer? id = some layer →
    ∃ amended, after.layer? id = some amended ∧ amended.isUnsupported = layer.isUnsupported
      ∧ amended.committed = layer.committed

theorem Unchanged.of_amends {relation : Layer → Layer → Prop} {display after : Display}
    (keeps : ∀ {layer amended}, relation layer amended →
      amended.isUnsupported = layer.isUnsupported ∧ amended.committed = layer.committed)
    (amends : Amends relation display after) : display.Unchanged after where
  resend := amends.needsFullResend
  order := amends.order
  layers := by
    intro id layer found
    obtain ⟨amended, still, related⟩ := amends.layers found
    exact ⟨amended, still, keeps related⟩

theorem Unchanged.of_eq {display after : Display}
    (resend : after.needsFullResend = display.needsFullResend)
    (order : after.order = display.order) (layers : after.layers = display.layers) :
    display.Unchanged after where
  resend := resend
  order := order
  layers := by
    intro id layer found
    refine ⟨layer, ?_, rfl, rfl⟩
    unfold layer?
    rw [layers]
    exact found

theorem Resent.carry {memory : Memory} {display after : Display} (resent : display.Resent memory)
    (unchanged : display.Unchanged after) : after.Resent memory := by
  intro unflagged
  obtain ⟨negotiation, known, since⟩ := resent (unchanged.resend ▸ unflagged)
  refine ⟨negotiation, known, ?_, since.target, ?_⟩
  · unfold layersInOrder
    rw [unchanged.order]
    exact since.ids
  · intro entry member
    obtain ⟨layer, found, expected⟩ := since.layers entry member
    obtain ⟨amended, still, unsupported, committed⟩ := unchanged.layers found
    have number : amended.id = layer.id := (id_of_layer? still).trans (id_of_layer? found).symm
    refine ⟨amended, still, ?_⟩
    simpa only [Layer.committedRequest, Memory.expected, unsupported, committed, number]
      using expected

/-- Only the last negotiation and the overrides accepted since count. -/
theorem Resent.recall {memory memory' : Memory} {display : Display}
    (resent : display.Resent memory) (negotiation : memory'.negotiation = memory.negotiation)
    (accepted : memory'.accepted = memory.accepted) : display.Resent memory' := by
  intro unflagged
  obtain ⟨agreed, known, since⟩ := resent unflagged
  refine ⟨agreed, negotiation.trans known, since.ids, since.target, ?_⟩
  intro entry member
  obtain ⟨layer, found, expected⟩ := since.layers entry member
  refine ⟨layer, found, ?_⟩
  simpa only [Memory.expected, accepted] using expected

theorem resent_flagged {memory : Memory} {display : Display}
    (flagged : display.needsFullResend = true) : display.Resent memory := by
  intro unflagged
  rw [flagged] at unflagged
  cases unflagged

theorem resent_edited {memory : Memory} {display after : Display} {id : LayerId}
    (resent : display.Resent memory) (edited : display.Edited id after) :
    after.Resent memory := by
  have put : ∀ {layer changed : Layer}, display.layer? id = some layer →
      changed.id = layer.id → changed.isUnsupported = layer.isUnsupported →
      changed.committed = layer.committed → (display.putLayer changed).Resent memory := by
    intro layer changed found same unsupported committed
    have amends : Amends (fun layer amended => amended.isUnsupported = layer.isUnsupported
        ∧ amended.committed = layer.committed) display (display.putLayer changed) := by
      refine Amends.putLayer ?_ found same ⟨unsupported, committed⟩
      exact fun _ => ⟨rfl, rfl⟩
    exact resent.carry (Unchanged.of_amends (fun kept => kept) amends)
  cases edited with
  | kept => exact resent
  | restyled found same restyled =>
      exact put found same restyled.alike.unsupported.symm
        (congrArg Latched.committed restyled.composition)
  | @recomposed layer composition found =>
      have committed : (layer.setComposition composition).1.committed = layer.committed := by
        simp only [Layer.setComposition, Layer.committed, Latched.setPending_eq]
      have kept : (display.putLayer (layer.setComposition composition).1).Resent memory :=
        put found rfl rfl committed
      exact kept.carry (Unchanged.of_eq rfl rfl rfl)
  | @refilled layer content found =>
      have kept : (display.putLayer { layer with content := content }).Resent memory :=
        put found rfl rfl rfl
      exact kept.carry (Unchanged.of_eq rfl rfl rfl)
  | reshaped found same z composition => exact resent_flagged rfl
  | moved found => exact resent_flagged rfl

/-- Overrides that are accepted are expected from then on. -/
theorem resent_accepted {memory : Memory} {display : Display} {validation : Validation}
    (resent : display.Resent memory) :
    (display.accepted validation).Resent
      { memory with accepted := memory.accepted ++ validation.typeChanges } := by
  have amends := display.amends_foldl_acceptChange validation.typeChanges
  intro unflagged
  have before : display.needsFullResend = false := amends.needsFullResend ▸ unflagged
  obtain ⟨negotiation, known, since⟩ := resent before
  refine ⟨negotiation, known, ?_, since.target, ?_⟩
  · change _ = (validation.typeChanges.foldl acceptChange display).order.layers
    rw [amends.order]
    exact since.ids
  · intro entry member
    obtain ⟨layer, found, expected⟩ := since.layers entry member
    have number : layer.id = entry.1 := id_of_layer? found
    have after : (display.accepted validation).layer? entry.1
        = some (((validation.typeChanges.reverse.lookup entry.1).map layer.settled).getD layer) := by
      change (validation.typeChanges.foldl acceptChange display).layer? entry.1 = _
      rw [layer?_foldl_acceptChange, found]
      rfl
    refine ⟨_, after, ?_⟩
    cases override : validation.typeChanges.reverse.lookup entry.1 with
    | none =>
        simpa [Layer.committedRequest, Memory.expected, override, number, List.lookup_append]
          using expected
    | some composition =>
        have settled : (layer.settled composition).isUnsupported = layer.isUnsupported := rfl
        by_cases drawn : layer.isUnsupported = true
        · simpa [Layer.committedRequest, Memory.expected, drawn, settled] using expected
        · have same : (layer.settled composition).id = entry.1 := number
          simp [Layer.committedRequest, Memory.expected, override, same, List.lookup_append,
            drawn, settled]
          rfl

/-- After a negotiation every layer is expected to ask for the same again. -/
theorem resent_decided {memory : Memory} {display : Display} (stacked : display.Stacked)
    {proposal : Proposal} {decisions : List Decision} (proposed : display.propose = .ok proposal) :
    (display.decided proposal decisions).Resent
      { memory with negotiation := some ⟨proposal, decisions⟩, accepted := [] } := by
  have proposes := proposes_of_propose proposed
  intro _
  refine ⟨⟨proposal, decisions⟩, rfl, ?_, ?_, ?_⟩
  · change _ = (display.latchLayers proposal).order.layers
    rw [(display.amends_latchLayers proposal).order]
    exact proposes.ids stacked
  · obtain ⟨config, _, target⟩ := proposes.target
    rw [target]
    rfl
  · intro entry member
    obtain ⟨layer, found, same⟩ := proposes.layer? member
    have named : entry.1 ∈ proposal.layers.map (·.1) := List.mem_map_of_mem member
    have latched : (display.decided proposal decisions).layer? entry.1 = some layer.latched := by
      change (display.latchLayers proposal).layer? entry.1 = _
      rw [layer?_latchLayers, found, Option.map_some, if_pos named]
    refine ⟨layer.latched, latched, ?_⟩
    have asked : entry.2.request = layer.requested := by rw [same]; rfl
    simp only [Memory.expected, asked, Layer.requested_eq, List.reverse_nil, List.lookup_nil,
      Layer.committedRequest]
    by_cases drawn : layer.isUnsupported = true
    · have same : layer.latched = layer := if_pos drawn
      simp [same, drawn]
    · have same : layer.latched = layer.settled layer.pending := if_neg drawn
      have still : (layer.settled layer.pending).isUnsupported = layer.isUnsupported := rfl
      simp [same, still, drawn]
      rfl

theorem resent_turned {memory : Memory} {display after : Display} {turn : Turn}
    (stacked : display.Stacked) (resent : display.Resent memory)
    (turned : display.Turned turn after) : after.Resent (memory.next display turn) := by
  cases turned with
  | still forgotten => exact (forgotten memory).symm ▸ resent
  | added => exact resent_flagged rfl
  | removed found =>
      rw [removeLayer_eq found]
      exact resent_flagged rfl
  | edited edited => exact resent_edited resent edited
  | clientTarget => exact Resent.recall (resent.carry (Unchanged.of_eq rfl rfl rfl)) rfl rfl
  | outputBuffer => exact Resent.recall (resent.carry (Unchanged.of_eq rfl rfl rfl)) rfl rfl
  | accepted validated =>
      simp only [Memory.next, validated]
      exact resent_accepted resent
  | colorMode => exact resent.carry (Unchanged.of_eq rfl rfl rfl)
  | negotiated modified proposed agreed complete =>
      simp only [Memory.next, agreed]
      exact resent_decided stacked proposed
  | @presented commit frame fences asking committed complete =>
      have amends := amends_foldl_pushReleaseFence (display.releaseShares fences) display
      have unchanged := Unchanged.of_amends
        (fun restyled : Layer.Restyled _ _ => ⟨restyled.alike.unsupported.symm,
          congrArg Latched.committed restyled.composition⟩) amends
      exact (resent.carry unchanged).carry (Unchanged.of_eq rfl rfl rfl)
  | switched => exact resent_flagged rfl
  | powered => exact resent.carry (Unchanged.of_eq rfl rfl rfl)

theorem resent_after {memory : Memory} {display : Display} (stacked : display.Stacked)
    (resent : display.Resent memory) {turns : List Turn} (follows : display.Follows turns) :
    (display.after turns).Resent (memory.through display turns) :=
  after_induction (motive := fun memory display => display.Resent memory) resent_turned memory
    stacked resent follows

/-! ## Lists that are not flagged -/

/-- A layer that the backend may show has taken over this override since the last negotiation. -/
def Overridden (display : Display) (memory : Memory) (id : LayerId) (composition : Composition) :
    Prop :=
  memory.accepted.reverse.lookup id = some composition
    ∧ ∃ layer, display.layer? id = some layer ∧ layer.isUnsupported = false

/-- What a list that is not flagged has to do with the list before. -/
structure Continues (display : Display) (memory : Memory) (proposal earlier : Proposal) :
    Prop where
  slots : proposal.frame.slots.length = earlier.frame.slots.length
  layers : proposal.layers.map (·.1) = earlier.layers.map (·.1)
  /-- A slot asks for the same as before, or for what an accepted override stands for. -/
  requests : ∀ (index : Nat) (before now : LayerId × Slot), earlier.layers[index]? = some before →
    proposal.layers[index]? = some now → now.2.request = before.2.request
      ∨ ∃ composition, display.Overridden memory before.1 composition
        ∧ now.2.request = composition.request
  /-- All slots ask for the same exactly if all overrides do. -/
  same_iff : proposal.frame.slots.map Slot.request = earlier.frame.slots.map Slot.request
    ↔ ∀ entry ∈ earlier.layers, ∀ composition, display.Overridden memory entry.1 composition →
      composition.request = entry.2.request

theorem request_getElem? {proposal : Proposal} {index : Nat} {entry : LayerId × Slot}
    (there : proposal.layers[index]? = some entry) :
    (proposal.frame.slots.map Slot.request)[index]? = some entry.2.request := by
  rw [List.getElem?_map, Proposal.frame_slot there]
  rfl

theorem expected_eq_or {memory : Memory} {display : Display} {id : LayerId} {layer : Layer}
    (found : display.layer? id = some layer) (slot : Slot) :
    memory.expected layer slot = slot.request
      ∨ ∃ composition, display.Overridden memory id composition
        ∧ memory.expected layer slot = composition.request := by
  have number : layer.id = id := id_of_layer? found
  unfold Memory.expected
  rw [number]
  by_cases drawn : layer.isUnsupported = true
  · exact Or.inl (if_pos drawn)
  · rw [if_neg drawn]
    cases override : memory.accepted.reverse.lookup id with
    | none => exact Or.inl rfl
    | some composition =>
        exact Or.inr ⟨composition, ⟨override, layer, found, by simpa using drawn⟩, rfl⟩

theorem expected_of_overridden {memory : Memory} {display : Display} {id : LayerId}
    {layer : Layer} {composition : Composition} (found : display.layer? id = some layer)
    (overridden : display.Overridden memory id composition) (slot : Slot) :
    memory.expected layer slot = composition.request := by
  obtain ⟨override, other, foundOther, supported⟩ := overridden
  rw [found] at foundOther
  obtain rfl := Option.some.inj foundOther
  unfold Memory.expected
  rw [id_of_layer? found, override, supported]
  rfl

section Unflagged

variable {memory : Memory} {display : Display} {proposal : Proposal} {negotiation : Negotiation}
  (stacked : display.Stacked) (counted : display.Counted)
  (since : display.ResentSince memory negotiation) (proposes : display.Proposes proposal)
  (clean : display.dirtyLayers = 0)

include stacked counted since proposes clean

/-- Slot by slot, the next list asks for what is expected. -/
theorem slot_of_clean {index : Nat} {entry : LayerId × Slot}
    (before : negotiation.proposal.layers[index]? = some entry) :
    ∃ layer, display.layer? entry.1 = some layer
      ∧ proposal.layers[index]? = some (entry.1, layer.slot)
      ∧ layer.slot.request = memory.expected layer entry.2 := by
  obtain ⟨layer, found, expected⟩ := since.layers entry (List.mem_of_getElem? before)
  have listed : display.layersInOrder[index]? = some entry.1 := by
    rw [← since.ids, List.getElem?_map, before]
    rfl
  obtain ⟨there, stackedAt, here⟩ := stack_getElem? stacked listed
  rw [found] at here
  obtain rfl := Option.some.inj here
  refine ⟨layer, found, ?_, ?_⟩
  · rw [proposes.layers, List.getElem?_map, stackedAt, ← id_of_layer? found]
    rfl
  · have committed := pending_eq_committed counted clean found
    rw [← expected, Layer.committedRequest, ← committed, ← Layer.requested_eq]
    rfl

theorem continues_of_clean : display.Continues memory proposal negotiation.proposal := by
  have names : proposal.layers.map (·.1) = negotiation.proposal.layers.map (·.1) :=
    (proposes.ids stacked).trans since.ids.symm
  have lengths : proposal.layers.length = negotiation.proposal.layers.length := by
    simpa using congrArg List.length names
  have target : proposal.target.request = negotiation.proposal.target.request := by
    obtain ⟨config, _, shown⟩ := proposes.target
    rw [since.target, shown]
    rfl
  refine ⟨by simp [Proposal.frame, lengths], names, ?_, ?_⟩
  · intro index before now atBefore atNow
    obtain ⟨layer, found, next, request⟩ :=
      slot_of_clean stacked counted since proposes clean atBefore
    obtain rfl := Option.some.inj (atNow.symm.trans next)
    rw [request]
    exact expected_eq_or found before.2
  · constructor
    · intro same entry member composition overridden
      obtain ⟨index, before⟩ := List.mem_iff_getElem?.mp member
      obtain ⟨layer, found, next, request⟩ :=
        slot_of_clean stacked counted since proposes clean before
      have requests : layer.slot.request = entry.2.request := by
        have now := request_getElem? next
        rw [same, request_getElem? before] at now
        exact (Option.some.inj now).symm
      rw [← requests, request, expected_of_overridden found overridden]
    · -- slots that are not overridden ask for the same anyway
      intro settled
      have requests : proposal.layers.map (fun entry => entry.2.request)
          = negotiation.proposal.layers.map (fun entry => entry.2.request) := by
        refine List.ext_getElem? fun index => ?_
        rw [List.getElem?_map, List.getElem?_map]
        cases before : negotiation.proposal.layers[index]? with
        | none =>
            have outside := List.getElem?_eq_none_iff.mp before
            rw [List.getElem?_eq_none_iff.mpr (lengths ▸ outside)]
        | some entry =>
            obtain ⟨layer, found, next, request⟩ :=
              slot_of_clean stacked counted since proposes clean before
            rw [next]
            refine congrArg some (request.trans ?_)
            rcases expected_eq_or found entry.2 with same | ⟨composition, overridden, same⟩
            · exact same
            · rw [same]
              exact settled entry (List.mem_of_getElem? before) composition overridden
      simp only [Proposal.frame, List.map_append, List.map_map, List.map_singleton, target]
      exact congrArg (· ++ _) requests

end Unflagged

end Display

namespace System

variable {σ : Type}

/-- In every run, a list that is not flagged continues the list of the last negotiation. -/
theorem unflagged_run {backend : Backend σ} {system : System σ} (opened : system.Opened backend)
    (actions : List Action) {proposal : Proposal}
    (asking : (system.run backend actions).device.display.beginValidate = .asking proposal)
    (unflagged : proposal.frame.geometryChanged = false) :
    ∃ negotiation, (system.memory backend actions).negotiation = some negotiation
      ∧ (system.run backend actions).device.display.Continues (system.memory backend actions)
        proposal negotiation.proposal := by
  have sound := sound_of_opened opened
  have follows := follows_turns sound backend actions
  obtain ⟨id, name, required, configs, same⟩ := opened_display opened
  have resent : system.device.display.Resent {} := Display.resent_flagged (same ▸ rfl)
  have countedAfter := counted_run opened actions
  rw [run_display] at asking countedAfter ⊢
  have proposes := Display.proposes_of_propose (Display.beginValidate_eq_asking asking).2
  have stackedAfter := Display.stacked_after sound.stacked follows
  have flags := proposes.geometryChanged.symm.trans unflagged
  simp only [Bool.or_eq_false_iff, decide_eq_false_iff_not, Nat.not_lt, Nat.le_zero] at flags
  obtain ⟨⟨resend, clean⟩, _⟩ := flags
  obtain ⟨negotiation, known, since⟩ :=
    Display.resent_after sound.stacked resent follows resend
  exact ⟨negotiation, known,
    Display.continues_of_clean stackedAfter countedAfter since proposes clean⟩

/-- A sideband layer is forced to the client, which accepts that and puts in another buffer. -/
def overrideRun : List Action :=
  [.createLayer ⟨1⟩, .call (.device ⟨1⟩) (.edit ⟨1⟩ (.composition .sideband)),
    .ask (.device ⟨1⟩) .validate, .call (.device ⟨1⟩) .acceptChanges,
    .call (.device ⟨1⟩) (.edit ⟨1⟩ (.buffer (some ⟨7⟩) .noop))]

theorem unflagged_run_override :
    ∃ proposal, ((onScript [(0, .framebuffer)]).run .scripted overrideRun).device.display.beginValidate
        = .asking proposal
      ∧ ∃ negotiation, ((onScript [(0, .framebuffer)]).memory .scripted overrideRun).negotiation
          = some negotiation
        ∧ ((onScript [(0, .framebuffer)]).run .scripted overrideRun).device.display.Continues
          ((onScript [(0, .framebuffer)]).memory .scripted overrideRun) proposal
          negotiation.proposal :=
  ⟨_, rfl, unflagged_run (opened_onScript _) overrideRun rfl rfl⟩

/-- The layer's slot asks for something else than before, and the backend is not told. -/
theorem unflagged_override :
    ∃ proposal negotiation,
      ((onScript [(0, .framebuffer)]).run .scripted overrideRun).device.display.beginValidate
        = .asking proposal
      ∧ ((onScript [(0, .framebuffer)]).memory .scripted overrideRun).negotiation
        = some negotiation
      ∧ proposal.frame.geometryChanged = false
      ∧ proposal.frame.slots.map Slot.request
        ≠ negotiation.proposal.frame.slots.map Slot.request :=
  ⟨_, _, rfl, rfl, rfl, by decide⟩

end System

end Scanout
