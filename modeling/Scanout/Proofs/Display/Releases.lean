import Scanout.Proofs.Display.Overrides

/-!
# Release fences over a whole run

A presentation that succeeds returns one release fence for each slot of its frame, and the fences go
to layers by the number of their slots, in a list kept since the validation. `Presentation.Returns`
says which fence is a layer's: the one with the number of the slot that shows the layer.

A layer keeps the last two of its fences. `Display.HoldsFences` compares what is kept with the whole
history of creations and presentations, `System.milestones`: one turn keeps it
(`holdsFences_turn`), and so does a run.
-/

set_option autoImplicit false

namespace Scanout

/-! ## Queues of fences -/

namespace DeferredFences

/-- A queue holds the last two fences of a stream that starts with two fences already satisfied. -/
def Holds (queue : DeferredFences) (fences : List Fence) : Prop :=
  [queue.deferred, queue.latest] = ([Fence.noop, .noop] ++ fences).rtake depth

theorem holds_nil : Holds {} [] := rfl

theorem Holds.push {queue : DeferredFences} {fences : List Fence} (holds : queue.Holds fences)
    (fence : Fence) : (queue.push fence).1.Holds (fences ++ [fence]) := by
  -- the older of the two drops out, and the other one takes its place
  have second : [queue.latest] = ([Fence.noop, .noop] ++ fences).rtake 1 := by
    have dropped := congrArg (List.drop 1) holds
    simpa [List.rtake, depth] using dropped
  unfold Holds depth
  rw [← List.append_assoc, List.rtake_concat_succ, ← second]
  rfl

end DeferredFences

/-! ## Creations and presentations -/

/-- A presentation that has succeeded: the display before it, the frame and the fences. -/
structure Presentation where
  display : Display
  frame : Frame
  fences : CommitFences

namespace Presentation

/-- The presentation returns this fence for the slot of the layer. -/
def Returns (presentation : Presentation) (id : LayerId) (fence : Fence) : Prop :=
  ∃ index : Nat, presentation.display.layersInOrder[index]? = some id
    ∧ presentation.fences.release[index]? = some fence

/-- Every layer has one slot, the client target has another one, and every slot has a fence. -/
structure Complete (presentation : Presentation) : Prop where
  distinct : presentation.display.layersInOrder.Nodup
  slots : presentation.frame.slots.length = presentation.display.layersInOrder.length + 1
  shows : ∀ (index : Nat) (id : LayerId),
    presentation.display.layersInOrder[index]? = some id →
    ∃ layer slot proposed decision, presentation.display.layer? id = some layer
      ∧ presentation.frame.slots[index]? = some slot ∧ slot.Shows layer proposed decision
  target : presentation.frame.slots.getLast?.map (·.placement) = some .framebufferTarget
  fences : presentation.fences.release.length = presentation.frame.slots.length

end Presentation

/-- What matters to the fences of layers. -/
inductive Milestone where
  | created (id : LayerId)
  | presented (presentation : Presentation)

namespace Milestone

def presentation? : Milestone → Option Presentation
  | created _ => none
  | presented presentation => some presentation

def isCreationOf (id : LayerId) : Milestone → Bool
  | created other => other == id
  | presented _ => false

/-- All presentations of a history, oldest first. -/
def presentations (history : List Milestone) : List Presentation :=
  history.filterMap presentation?

/-- The presentations since a layer was created, oldest first. -/
def since (id : LayerId) (history : List Milestone) : List Presentation :=
  presentations (history.rtakeWhile fun milestone => !milestone.isCreationOf id)

theorem presentations_concat (history : List Milestone) (milestone : Milestone) :
    presentations (history ++ [milestone])
      = presentations history ++ milestone.presentation?.toList := by
  unfold presentations
  rw [List.filterMap_append]
  cases milestone <;> rfl

theorem since_concat (id : LayerId) (history : List Milestone) (milestone : Milestone) :
    since id (history ++ [milestone])
      = if milestone.isCreationOf id then []
        else since id history ++ milestone.presentation?.toList := by
  unfold since
  rw [List.rtakeWhile_concat]
  cases milestone.isCreationOf id with
  | true => rfl
  | false => exact presentations_concat _ milestone

end Milestone

namespace Display

/-- The presentation that a call brings about, if the call succeeds. -/
def presentation? (display : Display) (commit : Frame → Except BackendError CommitFences) :
    Option Presentation :=
  match display.beginPresent, (display.presentWith commit).1 with
  | .asking frame, .ok _ => (commit frame).toOption.map fun fences => ⟨display, frame, fences⟩
  | _, _ => none

def milestone? (display : Display) : Turn → Option Milestone
  | .addLayer id => some (.created id)
  | .present commit => (display.presentation? commit).map .presented
  | _ => none

/-! ## What is kept of a history -/

/-- A display keeps, for each layer, the last two fences returned for it since it was created. -/
structure HoldsFences (display : Display) (history : List Milestone) : Prop where
  layers : ∀ {id : LayerId} {layer : Layer}, display.layer? id = some layer →
    ∃ fences, List.Forall₂ (fun presentation fence => presentation.Returns id fence)
        (Milestone.since id history) fences
      ∧ layer.releaseFences.Holds fences
  retire : display.retireFence
    = ((Milestone.presentations history).getLast?.map (·.fences.retire)).getD .noop
  count : display.framesPresented = (Milestone.presentations history).length
  complete : ∀ presentation ∈ Milestone.presentations history, presentation.Complete

/-- A client is told what is kept: the latest fence of a layer and, back to front, the deferred
fences of the layers that have one. -/
structure ReportsFences (display : Display) : Prop where
  latest : ∀ {id : LayerId} {layer : Layer}, display.layer? id = some layer →
    display.latestReleaseFence id = .ok layer.releaseFences.latest
  deferred : ∃ layers, display.BackToFront layers
    ∧ display.releaseFences
      = (layers.filter fun layer => !layer.releaseFences.deferred.isNoop).map fun layer =>
          (layer.id, layer.releaseFences.deferred)

/-- A call to present is counted exactly if it succeeds, which takes a fence for each slot, and
otherwise it leaves no trace. -/
structure CountsSuccess (display : Display)
    (commit : Frame → Except BackendError CommitFences) : Prop where
  failed : display.presentation? commit = none →
    ∃ cause, display.presentWith commit = (.error cause, display)
  counted : ∀ presentation, display.presentation? commit = some presentation →
    presentation.display = display ∧ commit presentation.frame = .ok presentation.fences
      ∧ presentation.fences.release.length = presentation.frame.slots.length
      ∧ (display.presentWith commit).1 = .ok presentation.fences.retire

variable {display after : Display}

/-! ## What a client is told -/

theorem releaseFences_eq (stacked : display.Stacked) :
    display.releaseFences
      = (display.stack.filter fun layer => !layer.releaseFences.deferred.isNoop).map fun layer =>
          (layer.id, layer.releaseFences.deferred) := by
  unfold releaseFences
  rw [← stack_ids stacked, List.filterMap_map, ← List.filterMap_eq_map, List.filterMap_filter]
  refine List.filterMap_congr fun layer member => ?_
  simp only [Function.comp_apply, layer?_of_mem_stack member]
  by_cases nothing : layer.releaseFences.deferred.isNoop = true
  · simp [nothing]
  · simp [nothing]

theorem reportsFences_of_stacked (stacked : display.Stacked) : display.ReportsFences where
  latest := by
    intro id layer found
    rw [latestReleaseFence, found]
  deferred := ⟨display.stack, backToFront_stack stacked, releaseFences_eq stacked⟩

/-! ## Turns that leave all fences alone -/

structure KeepsFences (display after : Display) : Prop where
  layers : ∀ {id : LayerId} {amended : Layer}, after.layer? id = some amended →
    ∃ layer, display.layer? id = some layer ∧ amended.releaseFences = layer.releaseFences
  retire : after.retireFence = display.retireFence
  count : after.framesPresented = display.framesPresented

namespace KeepsFences

theorem of_eq (layers : after.layers = display.layers)
    (retire : after.retireFence = display.retireFence)
    (count : after.framesPresented = display.framesPresented) : display.KeepsFences after where
  layers := by
    intro id layer found
    refine ⟨layer, ?_, rfl⟩
    unfold layer? at found ⊢
    rwa [layers] at found
  retire := retire
  count := count

theorem trans {third : Display} (left : display.KeepsFences after)
    (right : after.KeepsFences third) : display.KeepsFences third where
  layers := by
    intro id amended found
    obtain ⟨middle, there, same⟩ := right.layers found
    obtain ⟨layer, before, same'⟩ := left.layers there
    exact ⟨layer, before, same.trans same'⟩
  retire := right.retire.trans left.retire
  count := right.count.trans left.count

/-- Layers may change in their places as long as they keep their fences. -/
theorem of_amends {relation : Layer → Layer → Prop} (amends : Amends relation display after)
    {change : LayerId → Layer → Layer}
    (lookup : ∀ id, after.layer? id = (display.layer? id).map (change id))
    (kept : ∀ id layer, (change id layer).releaseFences = layer.releaseFences) :
    display.KeepsFences after := by
  have layers : ∀ {id : LayerId} {amended : Layer}, after.layer? id = some amended →
      ∃ layer, display.layer? id = some layer
        ∧ amended.releaseFences = layer.releaseFences := by
    intro id amended found
    rw [lookup, Option.map_eq_some_iff] at found
    obtain ⟨layer, there, rfl⟩ := found
    exact ⟨layer, there, kept id layer⟩
  obtain ⟨_, _, confined⟩ := amends.confined
  refine ⟨layers, ?_, ?_⟩
  · rw [confined]
  · rw [confined]

theorem putLayer {id : LayerId} {layer changed : Layer} (found : display.layer? id = some layer)
    (same : changed.id = layer.id) (fences : changed.releaseFences = layer.releaseFences) :
    display.KeepsFences (display.putLayer changed) := by
  have amends : Amends (fun layer amended => amended.releaseFences = layer.releaseFences) display
      (display.putLayer changed) := by
    refine Amends.putLayer ?_ found same fences
    exact fun _ => rfl
  exact ⟨amends.before, rfl, rfl⟩

end KeepsFences

theorem keepsFences_edited {id : LayerId} (edited : display.Edited id after) :
    display.KeepsFences after := by
  cases edited with
  | kept => exact .of_eq rfl rfl rfl
  | restyled found same restyled fences => exact .putLayer found same fences
  | @recomposed layer composition found =>
      have same : (layer.setComposition composition).1.id = layer.id := rfl
      exact (KeepsFences.putLayer found same rfl).trans (.of_eq rfl rfl rfl)
  | @refilled layer content found =>
      have same : ({ layer with content := content } : Layer).id = layer.id := rfl
      exact (KeepsFences.putLayer found same rfl).trans (.of_eq rfl rfl rfl)
  | reshaped found same z composition fences =>
      exact (KeepsFences.putLayer found same fences).trans (.of_eq rfl rfl rfl)
  | @moved layer z found =>
      have same : ({ layer with z := z } : Layer).id = layer.id := rfl
      exact (KeepsFences.putLayer found same rfl).trans (.of_eq rfl rfl rfl)

theorem keepsFences_accepted (validation : Validation) :
    display.KeepsFences (display.accepted validation) := by
  have taken : display.KeepsFences (validation.typeChanges.foldl acceptChange display) := by
    refine .of_amends (display.amends_foldl_acceptChange validation.typeChanges)
      (layer?_foldl_acceptChange validation.typeChanges display) ?_
    intro id layer
    cases validation.typeChanges.reverse.lookup id <;> rfl
  exact taken.trans (.of_eq rfl rfl rfl)

theorem keepsFences_decided (proposal : Proposal) (decisions : List Decision) :
    display.KeepsFences (display.decided proposal decisions) := by
  have latched : display.KeepsFences (display.latchLayers proposal) := by
    refine .of_amends (display.amends_latchLayers proposal)
      (display.layer?_latchLayers proposal) ?_
    intro id layer
    split
    · unfold Layer.latched
      split <;> rfl
    · rfl
  exact latched.trans (.of_eq rfl rfl rfl)

/-- Only a creation or a presentation has an effect on fences. -/
theorem keepsFences_turned {turn : Turn} (turned : display.Turned turn after)
    (noCreation : ∀ id, turn ≠ .addLayer id) (noPresentation : ∀ commit, turn ≠ .present commit) :
    display.KeepsFences after := by
  cases turned with
  | added => exact absurd rfl (noCreation _)
  | presented => exact absurd rfl (noPresentation _)
  | removed found =>
      refine ⟨?_, by rw [removeLayer_eq found]; rfl, by rw [removeLayer_eq found]; rfl⟩
      intro id amended there
      rw [layer?_removeLayer found] at there
      split at there
      · cases there
      · exact ⟨amended, there, rfl⟩
  | edited edited => exact keepsFences_edited edited
  | accepted validated => exact keepsFences_accepted _
  | negotiated modified proposed agreed complete => exact keepsFences_decided _ _
  | _ => exact .of_eq rfl rfl rfl

/-! ## Presentations -/

theorem beginPresent_finished {result : Except Error Fence} {notices : List Notice}
    (finished : display.beginPresent = .finished result notices) :
    ∃ cause, result = .error cause := by
  unfold beginPresent at finished
  split at finished
  · exact ⟨_, (Begun.finished.inj finished).1.symm⟩
  · split at finished
    · exact ⟨_, (Begun.finished.inj finished).1.symm⟩
    · split at finished
      · exact ⟨_, (Begun.finished.inj finished).1.symm⟩
      · cases finished

/-- A presentation that fails changes nothing. One that succeeds hands out a fence for each slot. -/
theorem presentation?_cases (display : Display)
    (commit : Frame → Except BackendError CommitFences) :
    (display.presentation? commit = none
        ∧ ∃ cause, display.presentWith commit = (.error cause, display))
      ∨ ∃ frame fences, display.beginPresent = .asking frame ∧ commit frame = .ok fences
        ∧ fences.release.length = frame.slots.length
        ∧ display.presentation? commit = some ⟨display, frame, fences⟩
        ∧ display.presentWith commit = (.ok fences.retire, display.deliver fences) := by
  cases begun : display.beginPresent with
  | finished result notices =>
      obtain ⟨cause, rfl⟩ := beginPresent_finished begun
      simp [presentation?, presentWith, begun]
  | asking frame =>
      cases answer : commit frame with
      | error cause => simp [presentation?, presentWith, begun, answer, finishPresent, failed]
      | ok fences =>
          by_cases complete : fences.release.length = frame.slots.length
          · refine Or.inr ⟨frame, fences, rfl, answer, complete, ?_, ?_⟩
            · simp [presentation?, presentWith, begun, answer, finishPresent, complete,
                Except.toOption]
            · simp [presentWith, begun, answer, finishPresent, complete]
          · simp [presentation?, presentWith, begun, answer, finishPresent, complete]

theorem countsSuccess (display : Display) (commit : Frame → Except BackendError CommitFences) :
    display.CountsSuccess commit := by
  rcases display.presentation?_cases commit with
    ⟨missed, failed⟩ | ⟨frame, fences, _, answer, enough, counted, succeeded⟩
  · refine ⟨fun _ => failed, ?_⟩
    intro presentation counted
    rw [missed] at counted
    cases counted
  · refine ⟨?_, ?_⟩
    · intro missed
      rw [counted] at missed
      cases missed
    · intro presentation same
      rw [counted] at same
      obtain rfl := Option.some.inj same
      exact ⟨rfl, answer, enough, congrArg Prod.fst succeeded⟩

theorem complete_of_asking {memory : Memory} {frame : Frame} {fences : CommitFences}
    (stacked : display.Stacked) (remembered : display.Remembered memory)
    (asking : display.beginPresent = .asking frame)
    (complete : fences.release.length = frame.slots.length) :
    Presentation.Complete ⟨display, frame, fences⟩ := by
  obtain ⟨validation, validated, _, _, rfl⟩ := beginPresent_eq_asking asking
  obtain ⟨negotiation, _, agreed⟩ := remembered.agreed validation validated
  refine ⟨layersInOrder_nodup stacked, ?_, ?_, ?_, complete⟩
  · change _ = display.layersInOrder.length + 1
    rw [agreed.length_commitFrame stacked, ← stack_ids stacked, List.length_map]
  · intro index id listed
    change display.layersInOrder[index]? = some id at listed
    obtain ⟨layer, there, found⟩ := stack_getElem? stacked listed
    obtain ⟨slot, proposed, decision, committed, _, _, shows⟩ := agreed.shows stacked there
    exact ⟨layer, slot, proposed, decision, found, committed, shows⟩
  · obtain ⟨config, _, target⟩ := agreed.target
    simp only [commitFrame, List.getLast?_concat, Option.map_some, commitTarget, target]
    rfl

theorem releaseShares_eq {memory : Memory} {frame : Frame} (fences : CommitFences)
    (remembered : display.Remembered memory) (asking : display.beginPresent = .asking frame) :
    display.releaseShares fences = display.layersInOrder.zip fences.release := by
  obtain ⟨validation, validated, _, _, _⟩ := beginPresent_eq_asking asking
  obtain ⟨negotiation, _, agreed⟩ := remembered.agreed validation validated
  rw [releaseShares, validated, ← agreed.slotIds]

/-- Every layer gets the fence that was returned for its slot. -/
theorem layer?_deliver {frame : Frame} {fences : CommitFences} (stacked : display.Stacked)
    (complete : Presentation.Complete ⟨display, frame, fences⟩)
    (shares : display.releaseShares fences = display.layersInOrder.zip fences.release)
    {id : LayerId} {amended : Layer} (found : (display.deliver fences).layer? id = some amended) :
    ∃ layer fence, display.layer? id = some layer
      ∧ Presentation.Returns ⟨display, frame, fences⟩ id fence
      ∧ amended = layer.pushReleaseFence fence := by
  -- one fence more than there are layers came back: every layer has its own, and the last one
  -- belongs to the client target
  have enough : display.layersInOrder.length ≤ fences.release.length := by
    have slots := complete.slots
    have release := complete.fences
    dsimp only at slots release
    omega
  have distinct : ((display.releaseShares fences).map (·.1)).Nodup := by
    rw [shares, List.map_fst_zip enough]
    exact layersInOrder_nodup stacked
  change ((display.releaseShares fences).foldl pushReleaseFence display).layer? id = some amended
    at found
  rw [layer?_foldl_pushReleaseFence distinct, Option.map_eq_some_iff] at found
  obtain ⟨layer, there, rfl⟩ := found
  have listed := (mem_layersInOrder_iff stacked).mpr ⟨layer, there⟩
  obtain ⟨index, placed⟩ := List.mem_iff_getElem?.mp listed
  have inside := (List.getElem?_eq_some_iff.mp placed).1
  have returned : fences.release[index]? = some fences.release[index] :=
    List.getElem?_eq_getElem (by omega)
  have share : (id, fences.release[index]) ∈ display.releaseShares fences := by
    rw [shares]
    exact List.mem_of_getElem? (List.getElem?_zip_eq_some.mpr ⟨placed, returned⟩)
  refine ⟨layer, fences.release[index], there, ⟨index, placed, returned⟩, ?_⟩
  rw [lookup_of_mem distinct share]
  rfl

/-! ## One turn -/

namespace HoldsFences

variable {history : List Milestone}

theorem keep (holds : display.HoldsFences history) (kept : display.KeepsFences after) :
    after.HoldsFences history where
  layers := by
    intro id amended found
    obtain ⟨layer, there, same⟩ := kept.layers found
    rw [same]
    exact holds.layers there
  retire := kept.retire.trans holds.retire
  count := kept.count.trans holds.count
  complete := holds.complete

theorem create (holds : display.HoldsFences history) {id : LayerId} (new : id ∉ display.ids) :
    (display.addLayer id).HoldsFences (history ++ [.created id]) := by
  have same : Milestone.presentations (history ++ [.created id])
      = Milestone.presentations history := by
    rw [Milestone.presentations_concat]
    exact List.append_nil _
  refine ⟨?_, by rw [same]; exact holds.retire, by rw [same]; exact holds.count,
    same ▸ holds.complete⟩
  intro other layer found
  rw [layer?_addLayer] at found
  rw [Milestone.since_concat]
  by_cases here : other = id
  · subst here
    rw [layer?_eq_none_iff.mpr new, if_pos rfl] at found
    obtain rfl := Option.some.inj found
    refine ⟨[], ?_, DeferredFences.holds_nil⟩
    simp [Milestone.isCreationOf]
  · rw [if_neg here, Option.or_none] at found
    have older : (Milestone.created id).isCreationOf other = false := by
      simpa [Milestone.isCreationOf] using Ne.symm here
    rw [older]
    simpa [Milestone.presentation?] using holds.layers found

theorem present {memory : Memory} {frame : Frame} {fences : CommitFences}
    (holds : display.HoldsFences history) (stacked : display.Stacked)
    (remembered : display.Remembered memory) (asking : display.beginPresent = .asking frame)
    (enough : fences.release.length = frame.slots.length) :
    (display.deliver fences).HoldsFences (history ++ [.presented ⟨display, frame, fences⟩]) := by
  have complete := complete_of_asking stacked remembered asking enough
  have one : Milestone.presentations (history ++ [.presented ⟨display, frame, fences⟩])
      = Milestone.presentations history ++ [⟨display, frame, fences⟩] :=
    Milestone.presentations_concat history _
  refine ⟨?_, ?_, ?_, ?_⟩
  · intro id amended found
    obtain ⟨layer, fence, there, returns, rfl⟩ :=
      layer?_deliver stacked complete (releaseShares_eq fences remembered asking) found
    obtain ⟨earlier, returned, held⟩ := holds.layers there
    refine ⟨earlier ++ [fence], ?_, held.push fence⟩
    rw [Milestone.since_concat]
    exact List.rel_append returned (.cons returns .nil)
  · rw [one, List.getLast?_concat]
    rfl
  · rw [one, List.length_append, ← holds.count]
    rfl
  · intro presentation listed
    rw [one] at listed
    rcases List.mem_append.mp listed with before | now
    · exact holds.complete presentation before
    · rw [List.mem_singleton.mp now]
      exact complete

end HoldsFences

theorem holdsFences_turn {memory : Memory} {history : List Milestone} {turn : Turn}
    (stacked : display.Stacked) (remembered : display.Remembered memory)
    (fresh : turn.FreshOn display) (holds : display.HoldsFences history) :
    (display.turn turn).2.HoldsFences (history ++ (display.milestone? turn).toList) := by
  have turned := turned_turn stacked.held turn
  cases turn with
  | addLayer id =>
      exact holds.create (not_mem_ids_of_fresh fresh)
  | present commit =>
      rcases display.presentation?_cases commit with
        ⟨missed, cause, failed⟩ | ⟨frame, fences, asking, _, enough, counted, succeeded⟩
      · simpa [Display.turn, milestone?, missed, failed] using holds
      · simpa [Display.turn, milestone?, counted, succeeded]
          using holds.present stacked remembered asking enough
  | _ =>
      have kept := keepsFences_turned turned (fun _ => Turn.noConfusion) (fun _ => Turn.noConfusion)
      simpa [milestone?] using holds.keep kept

end Display

/-! ## Runs -/

namespace System

variable {σ : Type} {backend : Backend σ} {system : System σ}

/-- The creations and the successful presentations of a run, oldest first. -/
def milestones (backend : Backend σ) (system : System σ) : List Action → List Milestone
  | [] => []
  | action :: rest =>
    (system.device.display.milestone? (system.turn backend action)).toList
      ++ milestones backend (system.step backend action) rest

theorem milestones_concat (system : System σ) (actions : List Action) (action : Action) :
    system.milestones backend (actions ++ [action])
      = system.milestones backend actions
        ++ ((system.run backend actions).device.display.milestone?
          ((system.run backend actions).turn backend action)).toList := by
  induction actions generalizing system with
  | nil => simp [milestones, run]
  | cons first rest ih => simp [milestones, run, ih]

theorem holdsFences_run (opened : system.Opened backend) (actions : List Action) :
    (system.run backend actions).device.display.HoldsFences
      (system.milestones backend actions) := by
  -- a history grows at its end, so the induction takes the last action off
  induction actions using List.reverseRecOn with
  | nil =>
      obtain ⟨id, name, required, configs, same⟩ := opened_display opened
      rw [run, same]
      refine ⟨?_, rfl, rfl, ?_⟩
      · intro layer held found
        cases found
      · intro presentation listed
        cases listed
  | append_singleton earlier action ih =>
      obtain ⟨stacked, remembered⟩ := remembered_run opened earlier
      have fresh := fresh_turn (sound_run (sound_of_opened opened) backend earlier) backend action
      rw [run_concat_display, milestones_concat]
      exact Display.holdsFences_turn stacked remembered fresh ih

/-- After every run, each layer has the last two of the fences that successful presentations have
returned for its slot since it was created, the display has the last retire fence and the number of
those presentations, and this is what clients are told. -/
theorem releases_run (opened : system.Opened backend) (actions : List Action) :
    (system.run backend actions).device.display.HoldsFences (system.milestones backend actions)
      ∧ (system.run backend actions).device.display.ReportsFences
      ∧ ∀ commit, (system.run backend actions).device.display.CountsSuccess commit :=
  ⟨holdsFences_run opened actions,
    Display.reportsFences_of_stacked (remembered_run opened actions).1,
    (system.run backend actions).device.display.countsSuccess⟩

/-- A frame of two layers. Then the first layer comes to the front and a third one is created; a
frame is refused until it is validated, and then shown twice. -/
def framesRun : List Action :=
  [.createLayer ⟨1⟩, .createLayer ⟨1⟩, .call .display (.clientTarget (some ⟨9⟩) .noop .unknown []),
    .ask (.device ⟨1⟩) .validate, .call .display .acceptChanges, .ask (.device ⟨1⟩) .present,
    .call (.device ⟨1⟩) (.edit ⟨1⟩ (.z 5)), .createLayer ⟨1⟩, .ask (.device ⟨1⟩) .present,
    .ask (.device ⟨1⟩) .validate, .call .display .acceptChanges, .ask (.device ⟨1⟩) .present,
    .ask .display .present]

theorem releases_run_frames :
    let start := onScript []
    let display := (start.run .scripted framesRun).device.display
    start.Opened .scripted ∧ display.HoldsFences (start.milestones .scripted framesRun)
      ∧ display.ReportsFences ∧ display.framesPresented = 3
      ∧ display.releaseFences = [(⟨2⟩, .shared 5), (⟨3⟩, .shared 6), (⟨1⟩, .shared 7)] := by
  intro start display
  have opened : start.Opened .scripted := opened_onScript []
  have count : display.framesPresented = 3 := by decide +kernel
  have deferred : display.releaseFences
      = [(⟨2⟩, .shared 5), (⟨3⟩, .shared 6), (⟨1⟩, .shared 7)] := by decide +kernel
  obtain ⟨holds, reports, _⟩ := releases_run opened framesRun
  exact ⟨opened, holds, reports, count, deferred⟩

end System

end Scanout
