import Scanout.Proofs.Display.Commuting
import Scanout.Proofs.Display.Decisions
import Scanout.Proofs.Display.Resend

/-!
# Compositions that are withheld

A layer that only the client can draw goes on to have a pending composition. Clients ask for others,
and overrides are accepted, but no validation touches the layer: `withholds_turn` says what one turn
does to it, and over a stretch of a run the last word counts (`last_gathered`).

Once the layer's colour space is supported again, the display has to be validated anew, whatever
comes between. That validation asks for what is pending by then and commits it (`resumes_of_noted`).
-/

set_option autoImplicit false

namespace Scanout

def LayerEdit.asked? : LayerEdit → Option Composition
  | .composition asked => some asked
  | _ => none

namespace Display

variable {display after : Display} {id : LayerId} {layer : Layer}

def pending? (display : Display) (id : LayerId) : Option Composition :=
  (display.layer? id).map (·.pending)

/-- The override of a layer that a turn accepts. -/
def takeover? (display : Display) (id : LayerId) : Turn → Option Composition
  | .call .acceptChanges =>
    display.validated.bind fun validation => validation.typeChanges.reverse.lookup id
  | _ => none

/-- What a turn makes a layer ask for. -/
def demand? (display : Display) (id : LayerId) : Turn → Option Composition
  | .call (.edit other edit) => if other = id then edit.asked? else none
  | turn => display.takeover? id turn

/-- Only a demand changes what a layer asks for, and only an override what it is committed to. -/
structure Heeds (display : Display) (id : LayerId) (turn : Turn) (after : Display) : Prop where
  pending : after.pending? id = (display.demand? id turn).or (display.pending? id)
  committed : after.committed? id = (display.takeover? id turn).or (display.committed? id)

/-- What a turn does to a layer that only the client can draw. -/
structure Withholds (display : Display) (id : LayerId) (turn : Turn) (after : Display) : Prop
    extends display.Heeds id turn after where
  validation : ∀ prepare, turn = .validate prepare → after.layer? id = display.layer? id

/-! ## Edits -/

theorem pending_revised (display : Display) (layer : Layer) (edit : LayerEdit) :
    (display.revised layer edit).pending = edit.asked?.getD layer.pending := by
  cases edit with
  | composition asked =>
      simp only [revised, LayerEdit.applied, Layer.setComposition, Layer.pending,
        Latched.setPending_eq]
      rfl
  | planeAlpha alpha =>
      simp only [revised, LayerEdit.applied]
      split <;> rfl
  | cursor x y =>
      simp only [revised]
      split <;> rfl
  | _ => rfl

theorem committed_revised (display : Display) (layer : Layer) (edit : LayerEdit) :
    (display.revised layer edit).committed = layer.committed := by
  cases edit with
  | composition asked =>
      simp only [revised, LayerEdit.applied, Layer.setComposition, Layer.committed,
        Latched.setPending_eq]
  | planeAlpha alpha =>
      simp only [revised, LayerEdit.applied]
      split <;> rfl
  | cursor x y =>
      simp only [revised]
      split <;> rfl
  | _ => rfl

/-- An edit lets its own layer ask for another composition, and commits none. -/
theorem demands_edit (stacked : display.Stacked) (found : display.layer? id = some layer)
    (other : LayerId) (edit : LayerEdit) :
    ∃ changed, (display.edit other edit).2.layer? id = some changed
      ∧ changed.pending = (if other = id then edit.asked? else none).getD layer.pending
      ∧ changed.committed = layer.committed := by
  have changed := layer?_edit stacked other id edit
  rw [found, Option.map_some] at changed
  refine ⟨_, changed, ?_⟩
  by_cases own : other = id
  · rw [if_pos own, if_pos own.symm]
    exact ⟨display.pending_revised layer edit, display.committed_revised layer edit⟩
  · rw [if_neg own, if_neg (Ne.symm own)]
    exact ⟨rfl, rfl⟩

/-! ## One turn -/

theorem Heeds.kept {turn : Turn}
    (same : (after.layer? id).map (·.composition) = (display.layer? id).map (·.composition))
    (undemanded : display.demand? id turn = none) (untaken : display.takeover? id turn = none) :
    display.Heeds id turn after where
  pending := by
    have pendings := congrArg (Option.map Latched.pending) same
    rw [Option.map_map, Option.map_map] at pendings
    rw [undemanded]
    exact pendings
  committed := by
    have committeds := congrArg (Option.map Latched.committed) same
    rw [Option.map_map, Option.map_map] at committeds
    rw [untaken]
    exact committeds

theorem heeds_accepted (found : display.layer? id = some layer) :
    display.Heeds id (.call .acceptChanges) display.acceptChanges.2 := by
  have demanded : display.demand? id (.call .acceptChanges)
      = display.takeover? id (.call .acceptChanges) := rfl
  unfold acceptChanges
  cases validated : display.validated with
  | none =>
      have untaken : display.takeover? id (.call .acceptChanges) = none := by
        rw [takeover?, validated, Option.bind_none]
      exact .kept rfl (demanded.trans untaken) untaken
  | some validation =>
      have taken : display.takeover? id (.call .acceptChanges)
          = validation.typeChanges.reverse.lookup id := by
        rw [takeover?, validated, Option.bind_some]
      have lookup : (display.accepted validation).layer? id
          = some (((validation.typeChanges.reverse.lookup id).map layer.settled).getD layer) := by
        change (validation.typeChanges.foldl acceptChange display).layer? id = _
        rw [layer?_foldl_acceptChange, found]
        rfl
      constructor
      · change ((display.accepted validation).layer? id).map _ = _
        rw [demanded, taken, lookup, pending?, found]
        cases validation.typeChanges.reverse.lookup id <;> rfl
      · change ((display.accepted validation).layer? id).map _ = _
        rw [taken, lookup, committed?, found]
        cases validation.typeChanges.reverse.lookup id <;> rfl

/-- No validation touches a layer that only the client can draw. -/
theorem layer?_validateWith (found : display.layer? id = some layer)
    (unsupported : layer.isUnsupported = true)
    (prepare : Frame → Except BackendError (List Decision)) :
    (display.validateWith prepare).2.layer? id = display.layer? id := by
  rw [validateWith_eq]
  cases display.negotiated? prepare with
  | none => rfl
  | some negotiation =>
      have latched : layer.latched = layer := if_pos unsupported
      change (display.latchLayers negotiation.proposal).layer? id = _
      rw [layer?_latchLayers, found, Option.map_some, latched, ite_self]

theorem heeds_present (found : display.layer? id = some layer)
    (commit : Frame → Except BackendError CommitFences) :
    display.Heeds id (.present commit) (display.presentWith commit).2 := by
  refine .kept ?_ rfl rfl
  unfold presentWith
  cases display.beginPresent with
  | finished result notices => rfl
  | asking frame =>
      cases answer : commit frame with
      | error cause => simp only [answer, finishPresent, failed]
      | ok fences =>
          simp only [answer, finishPresent]
          split
          · have amends := amends_foldl_pushReleaseFence (display.releaseShares fences) display
            obtain ⟨amended, still, restyled⟩ := amends.layers found
            have there : (display.deliver fences).layer? id = some amended := still
            rw [there, found]
            exact congrArg some restyled.composition
          · rfl

theorem heeds_turn (stacked : display.Stacked) (found : display.layer? id = some layer)
    (unsupported : layer.isUnsupported = true) {turn : Turn}
    (still : id ∈ (display.turn turn).2.ids) : display.Heeds id turn (display.turn turn).2 := by
  cases turn with
  | idle => exact .kept rfl rfl rfl
  | addLayer other =>
      refine .kept ?_ rfl rfl
      simp only [Display.turn, layer?_addLayer, found, Option.some_or]
  | removeLayer other =>
      refine .kept ?_ rfl rfl
      simp only [Display.turn] at still ⊢
      cases there : display.layer? other with
      | none => simp only [removeLayer, there]
      | some removed =>
          obtain ⟨amended, remains⟩ := mem_ids_iff.mp still
          rw [layer?_removeLayer there] at remains ⊢
          by_cases here : id = other
          · rw [if_pos here] at remains
            cases remains
          · rw [if_neg here]
  | call call =>
      cases call with
      | edit other edit =>
          obtain ⟨changed, there, pending, committed⟩ := demands_edit stacked found other edit
          have after : (display.turn (.call (.edit other edit))).2.layer? id = some changed := there
          constructor
          · rw [pending?, pending?, after, found, demand?, Option.map_some, pending]
            cases (if other = id then edit.asked? else none) <;> rfl
          · rw [committed?, committed?, after, found, Option.map_some, committed]
            rfl
      | acceptChanges => exact heeds_accepted found
      | colorMode mode =>
          refine .kept ?_ rfl rfl
          simp only [Display.turn, Display.call, setColorMode]
          split <;> rfl
      | clientTarget buffer acquire dataspace damage => exact .kept rfl rfl rfl
      | outputBuffer buffer release => exact .kept rfl rfl rfl
  | validate prepare =>
      refine .kept ?_ rfl rfl
      exact congrArg _ (layer?_validateWith found unsupported prepare)
  | present commit => exact heeds_present found commit
  | switchConfig other answer =>
      refine .kept ?_ rfl rfl
      cases answer <;> rfl
  | switchPower mode answer =>
      refine .kept ?_ rfl rfl
      cases answer <;> rfl

theorem withholds_turn (stacked : display.Stacked) (found : display.layer? id = some layer)
    (unsupported : layer.isUnsupported = true) {turn : Turn}
    (still : id ∈ (display.turn turn).2.ids) :
    display.Withholds id turn (display.turn turn).2 where
  toHeeds := heeds_turn stacked found unsupported still
  validation := by
    rintro prepare rfl
    exact layer?_validateWith found unsupported prepare

/-! ## Once the colour space is supported again -/

/-- The next validation asks for what the layer has pending, flagged, and commits it. -/
structure Resumes (display : Display) (id : LayerId) (layer : Layer) : Prop where
  asks : ∃ (proposal : Proposal) (index : Nat) (slot : Slot),
    display.beginValidate = .asking proposal ∧ proposal.frame.geometryChanged = true
      ∧ display.layersInOrder[index]? = some id ∧ proposal.frame.slots[index]? = some slot
      ∧ slot.request = layer.pending.request
  commits : ∀ prepare summary, (display.validateWith prepare).1 = .ok summary →
    (display.validateWith prepare).2.pending? id = some layer.pending
      ∧ (display.validateWith prepare).2.committed? id = some layer.pending

theorem validated_restored (stacked : display.Stacked) (found : display.layer? id = some layer)
    (unsupported : layer.isUnsupported = true) :
    (display.edit id (.dataspace .unknown)).2.validated = none
      ∧ (display.edit id (.dataspace .unknown)).2.needsFullResend = true := by
  have effective : (LayerEdit.dataspace .unknown).isEffectiveOn layer = true := by
    simpa [LayerEdit.isEffectiveOn, Layer.isUnsupported, Dataspace.isSupported] using unsupported
  have reshapes : display.isReshaping id (.dataspace .unknown) = true := by
    rw [isReshaping, found]
    exact effective
  constructor
  · rw [validated_edit stacked, isMutation_of_some found, effective, if_pos rfl]
  · rw [needsFullResend_edit stacked, reshapes, Bool.or_true]

theorem unvalidated_of_noted (noted : display.Noted) (resend : display.needsFullResend = true) :
    display.validated = none := by
  cases validated : display.validated with
  | none => rfl
  | some validation =>
      have quiet := noted.validated (by rw [validated]; rfl)
      rw [resend] at quiet
      cases quiet

theorem resumes_of_noted (stacked : display.Stacked) (noted : display.Noted)
    (resend : display.needsFullResend = true) (active : display.activeConfig?.isSome)
    (found : display.layer? id = some layer) (supported : layer.isUnsupported = false) :
    display.Resumes id layer := by
  obtain ⟨config, active⟩ := Option.isSome_iff_exists.mp active
  obtain ⟨proposal, proposed⟩ := propose_of_active active
  have proposes := proposes_of_propose proposed
  have begun := beginValidate_of_proposed (unvalidated_of_noted noted resend) proposed
  have inOrder := (mem_layersInOrder_iff stacked).mpr ⟨layer, found⟩
  constructor
  · obtain ⟨index, place⟩ := List.mem_iff_getElem?.mp inOrder
    obtain ⟨other, there, here⟩ := stack_getElem? stacked place
    rw [found] at here
    obtain rfl := Option.some.inj here
    have slotted : proposal.layers[index]? = some (layer.id, layer.slot) := by
      rw [proposes.layers, List.getElem?_map, there]
      rfl
    refine ⟨proposal, index, layer.slot, begun, ?_, place, Proposal.frame_slot slotted, ?_⟩
    · rw [geometryChanged_eq stacked proposes, resend]
      rfl
    · have asked : layer.slot.request = layer.requested := rfl
      rw [asked, Layer.requested_eq, supported]
      rfl
  · intro prepare summary validates
    have inside : id ∈ proposal.layers.map (·.1) := by
      rw [proposes.ids stacked]
      exact inOrder
    have latched : layer.latched = layer.settled layer.pending := by
      rw [Layer.latched, supported]
      rfl
    simp only [validateWith, begun] at validates ⊢
    cases answer : prepare proposal.frame with
    | error cause =>
        rw [answer] at validates
        cases validates
    | ok decisions =>
        rw [answer] at validates
        by_cases complete : decisions.length = proposal.slotCount
        · rw [(display.finishValidate_complete complete).2]
          have settled : (display.decided proposal decisions).layer? id
              = some (layer.settled layer.pending) := by
            change (display.latchLayers proposal).layer? id = _
            rw [layer?_latchLayers, found, Option.map_some, if_pos inside, latched]
          rw [pending?, committed?, settled]
          exact ⟨rfl, rfl⟩
        · rw [(display.finishValidate_incomplete complete).1] at validates
          cases validates

end Display

/-! ## Runs -/

namespace System

variable {σ : Type} {backend : Backend σ} {system : System σ}

/-- What the turns of a run bring forth, first to last. -/
def gathered (backend : Backend σ) (system : System σ)
    (what : Display → Turn → Option Composition) : List Action → List Composition
  | [] => []
  | action :: rest =>
    (what system.device.display (system.turn backend action)).toList
      ++ gathered backend (system.step backend action) what rest

theorem gathered_concat (system : System σ) (what : Display → Turn → Option Composition)
    (actions : List Action) (action : Action) :
    system.gathered backend what (actions ++ [action])
      = system.gathered backend what actions
        ++ (what (system.run backend actions).device.display
          ((system.run backend actions).turn backend action)).toList := by
  induction actions generalizing system with
  | nil => exact List.append_nil _
  | cons first rest ih =>
      simp only [List.cons_append, gathered, ih, List.append_assoc]
      rfl

/-- Where every turn has its say on a value, the last word counts. -/
theorem last_gathered (value : Display → Option Composition)
    {what : Display → Turn → Option Composition} {actions stretch : List Action}
    (each : ∀ part action, part ++ [action] <+: stretch →
      value (system.run backend (actions ++ part ++ [action])).device.display
        = (what (system.run backend (actions ++ part)).device.display
            ((system.run backend (actions ++ part)).turn backend action)).or
          (value (system.run backend (actions ++ part)).device.display)) :
    value (system.run backend (actions ++ stretch)).device.display
      = ((system.run backend actions).gathered backend what stretch).getLast?.or
        (value (system.run backend actions).device.display) := by
  induction stretch using List.reverseRecOn with
  | nil =>
      rw [List.append_nil]
      rfl
  | append_singleton stretch action ih =>
      have before := ih fun part next inside =>
        each part next (inside.trans (List.prefix_append stretch [action]))
      have last := each stretch action (List.prefix_refl _)
      rw [← List.append_assoc, last, before, gathered_concat, List.getLast?_append,
        ← run_append, ← Option.or_assoc]
      congr 2
      cases what _ _ <;> rfl

theorem withholds_run (opened : system.Opened backend) {actions stretch part : List Action}
    {action : Action} {id : LayerId} (stays : system.StaysUnsupported backend actions stretch id)
    (inside : part ++ [action] <+: stretch) :
    (system.run backend (actions ++ part)).device.display.Withholds id
      ((system.run backend (actions ++ part)).turn backend action)
      (system.run backend (actions ++ part ++ [action])).device.display := by
  obtain ⟨layer, found, unsupported⟩ := stays part ((List.prefix_append part [action]).trans inside)
  obtain ⟨amended, still, -⟩ := stays _ inside
  have stacked := (sound_run (sound_of_opened opened) backend (actions ++ part)).stacked
  rw [← List.append_assoc] at still
  rw [run_concat_display] at still ⊢
  exact Display.withholds_turn stacked found unsupported (Display.mem_ids_iff.mpr ⟨amended, still⟩)

/-- As long as no validation succeeds, what a display has noted to resend stays to be resent. -/
theorem needsFullResend_run (opened : system.Opened backend) {actions later : List Action}
    (resend : (system.run backend actions).device.display.needsFullResend = true)
    (unvalidated : Impact.validation ∉ (system.run backend actions).impacts backend later) :
    (system.run backend (actions ++ later)).device.display.needsFullResend = true := by
  have sound := sound_run (sound_of_opened opened) backend actions
  rw [run_append, run_display, Display.needsFullResend_after sound.stacked
    (noted_run opened actions) (follows_turns sound backend later) [.reshaping] resend,
    ← impacts_eq, Impact.due_iff]
  left
  rintro (_ | ⟨_, member⟩)
  exact unvalidated member

/-- What becomes of the compositions of a layer over a stretch of a run, and afterwards. -/
structure Withheld (backend : Backend σ) (system : System σ) (actions stretch : List Action)
    (id : LayerId) : Prop where
  each : ∀ part action, part ++ [action] <+: stretch →
    (system.run backend (actions ++ part)).device.display.Withholds id
      ((system.run backend (actions ++ part)).turn backend action)
      (system.run backend (actions ++ part ++ [action])).device.display
  pending : (system.run backend (actions ++ stretch)).device.display.pending? id
    = ((system.run backend actions).gathered backend (·.demand? id) stretch).getLast?.or
      ((system.run backend actions).device.display.pending? id)
  committed : (system.run backend (actions ++ stretch)).device.display.committed? id
    = ((system.run backend actions).gathered backend (·.takeover? id) stretch).getLast?.or
      ((system.run backend actions).device.display.committed? id)
  /-- The colour space is set back, and no validation has succeeded since. -/
  restored : ∀ restoring, (system.run backend (actions ++ stretch)).turn backend restoring
      = .call (.edit id (.dataspace .unknown)) →
    (system.run backend (actions ++ stretch ++ [restoring])).device.display.state = .modified
      ∧ ∀ later layer, Impact.validation
          ∉ (system.run backend (actions ++ stretch ++ [restoring])).impacts backend later →
        (system.run backend (actions ++ stretch ++ [restoring] ++ later)).device.display.layer? id
          = some layer →
        layer.dataspace = .unknown →
        (system.run backend
          (actions ++ stretch ++ [restoring] ++ later)).device.display.Resumes id layer

/-- **While only the client can draw a layer, no validation touches what it asks for and what it is
committed to.** It asks for what an edit or an accepted override has last told it to, and is
committed to the override accepted last. Once its colour space is supported again, the next
validation asks for what is pending by then, flagged, and commits that. -/
theorem withheld_run (opened : system.Opened backend) {actions stretch : List Action} {id : LayerId}
    (stays : system.StaysUnsupported backend actions stretch id) :
    system.Withheld backend actions stretch id := by
  have sound := sound_of_opened opened
  have each : ∀ part action, part ++ [action] <+: stretch → _ :=
    fun part action inside => withholds_run opened stays inside
  refine ⟨each,
    last_gathered (·.pending? id) fun part action inside => (each part action inside).pending,
    last_gathered (·.committed? id) fun part action inside => (each part action inside).committed,
    ?_⟩
  intro restoring restores
  obtain ⟨layer, found, unsupported⟩ := stays stretch (List.prefix_refl stretch)
  have stacked := (sound_run sound backend (actions ++ stretch)).stacked
  have display : (system.run backend (actions ++ stretch ++ [restoring])).device.display
      = ((system.run backend (actions ++ stretch)).device.display.edit id
        (.dataspace .unknown)).2 := by
    rw [run_concat_display, restores]
    rfl
  obtain ⟨modified, resend⟩ := Display.validated_restored stacked found unsupported
  rw [← display] at modified resend
  refine ⟨by rw [Display.state, modified], ?_⟩
  intro later layer unvalidated found unknown
  have resendStill := needsFullResend_run opened resend unvalidated
  have supported : layer.isUnsupported = false := by
    rw [Layer.isUnsupported, unknown]
    rfl
  exact Display.resumes_of_noted (sound_run sound backend _).stacked (noted_run opened _)
    resendStill (active_run opened _) found supported

/-- A layer on the hardware gets a colour space that only the client can draw, and the override is
accepted. -/
def forcedOnce : List Action :=
  [.createLayer ⟨1⟩, .call (.device ⟨1⟩) (.edit ⟨1⟩ (.composition .device)),
    .ask (.device ⟨1⟩) .validate, .call (.device ⟨1⟩) .acceptChanges,
    .call (.device ⟨1⟩) (.edit ⟨1⟩ (.dataspace ⟨7⟩)), .ask (.device ⟨1⟩) .validate,
    .call (.device ⟨1⟩) .acceptChanges]

/-- It is shown, asks for a stream and is validated again. -/
def streamWanted : List Action :=
  [.call .display (.clientTarget (some ⟨9⟩) .noop .unknown []), .ask (.device ⟨1⟩) .present,
    .call .display (.edit ⟨1⟩ (.composition .sideband)), .ask (.device ⟨1⟩) .validate,
    .call (.device ⟨1⟩) .acceptChanges]

def supportedAgain : Action := .call (.device ⟨1⟩) (.edit ⟨1⟩ (.dataspace .unknown))

theorem withheld_run_stream :
    (onScript []).Opened .scripted
      ∧ (onScript []).StaysUnsupported .scripted forcedOnce streamWanted ⟨1⟩
      ∧ (onScript []).Withheld .scripted forcedOnce streamWanted ⟨1⟩
      ∧ ((onScript []).run .scripted forcedOnce).device.display.pending? ⟨1⟩ = some .client
      ∧ ((onScript []).run .scripted (forcedOnce ++ streamWanted)).device.display.pending? ⟨1⟩
        = some .sideband
      ∧ ((onScript []).run .scripted (forcedOnce ++ streamWanted)).device.display.committed? ⟨1⟩
        = some .client
      ∧ ∃ layer, ((onScript []).run .scripted
          (forcedOnce ++ streamWanted ++ [supportedAgain] ++ [])).device.display.Resumes ⟨1⟩ layer
        ∧ layer.pending = .sideband := by
  have each : ∀ part ∈ streamWanted.inits, (((onScript []).run .scripted
      (forcedOnce ++ part)).device.display.layer? ⟨1⟩).map (·.isUnsupported) = some true := by
    decide +kernel
  have stays : (onScript []).StaysUnsupported .scripted forcedOnce streamWanted ⟨1⟩ := by
    intro part inside
    have unsupported := each part ((List.mem_inits part streamWanted).mpr inside)
    exact Option.map_eq_some_iff.mp unsupported
  have withheld := withheld_run (opened_onScript []) stays
  obtain ⟨-, resumes⟩ := withheld.restored supportedAgain rfl
  exact ⟨opened_onScript [], stays, withheld, rfl, rfl, rfl, _, resumes [] _ nofun rfl rfl, rfl⟩

end System

end Scanout
