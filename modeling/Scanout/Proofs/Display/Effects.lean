import Scanout.Proofs.Display.Dirty
import Scanout.Proofs.Display.Proposals
import Scanout.Proofs.Display.Validated

/-!
# The effects that the count of dirty layers is made of

The count of dirty layers is never taken anew: it is the sum of the effects that changes of layers
report, and an effect may take away from it. `Display.effects` lists what one turn reports, in the
order in which it is applied. `adjusts_turn` says that the count after a turn is the count before
with these effects, and that a layer that becomes clean was counted before; so the subtraction,
which stops at zero, never has to (`dirtyLayers_run`).

Validating commits what is pending, except for layers that the client has to draw. These are the
only dirty layers of a validated display (`Settled`).
-/

set_option autoImplicit false

namespace Scanout

namespace Display

/-! ## Effects of a turn -/

/-- The effects of a change that is made for one item after the other. -/
def effectsAlong {ι : Type} (change : Display → ι → Display)
    (effects : Display → ι → List DirtyDelta) (display : Display) : List ι → List DirtyDelta
  | [] => []
  | item :: rest =>
    effects display item ++ effectsAlong change effects (change display item) rest

def askEffects (display : Display) (id : LayerId) (composition : Composition) :
    List DirtyDelta :=
  match display.layer? id with
  | none => []
  | some layer =>
    if layer.pending = composition then [] else [(layer.setComposition composition).2]

def latchEffects (display : Display) (id : LayerId) : List DirtyDelta :=
  match display.layer? id with
  | none => []
  | some layer => if layer.isUnsupported then [] else [layer.latchComposition.2]

/-- An override that is accepted has two effects: it is asked for, and it is committed. -/
def acceptEffects (display : Display) (change : LayerId × Composition) : List DirtyDelta :=
  match display.layer? change.1 with
  | none => []
  | some layer =>
    [(layer.setComposition change.2).2, (layer.setComposition change.2).1.latchComposition.2]

def removeEffects (display : Display) (id : LayerId) : List DirtyDelta :=
  match display.layer? id with
  | none => []
  | some layer => if layer.isDirty then [.becameClean] else []

/-- What a turn reports to the count of dirty layers, in the order in which it is applied. -/
def effects (display : Display) : Turn → List DirtyDelta
  | .removeLayer id => display.removeEffects id
  | .call (.edit id (.composition composition)) => display.askEffects id composition
  | .call .acceptChanges =>
    match display.validated with
    | none => []
    | some validation => effectsAlong acceptChange acceptEffects display validation.typeChanges
  | .validate prepare =>
    match display.negotiated? prepare with
    | none => []
    | some negotiation =>
      effectsAlong (fun display entry => display.latchLayer entry.1)
        (fun display entry => display.latchEffects entry.1) display negotiation.proposal.layers
  | _ => []

def effectsThrough (display : Display) : List Turn → List DirtyDelta
  | [] => []
  | turn :: rest => display.effects turn ++ (display.turn turn).2.effectsThrough rest

/-! ## The count follows -/

/-- The count afterwards is the count before with these effects, each of which it can take. -/
structure Adjusts (display : Display) (effects : List DirtyDelta) (after : Display) : Prop where
  count : after.dirtyLayers = DirtyDelta.applyAll effects display.dirtyLayers
  fit : DirtyDelta.Fit display.dirtyLayers effects

namespace Adjusts

variable {display after : Display}

theorem nothing (same : after.dirtyLayers = display.dirtyLayers) : display.Adjusts [] after :=
  ⟨same, trivial⟩

theorem trans {third : Display} {first second : List DirtyDelta}
    (left : display.Adjusts first after) (right : after.Adjusts second third) :
    display.Adjusts (first ++ second) third where
  count := by rw [right.count, left.count, DirtyDelta.applyAll_append]
  fit := DirtyDelta.fit_append.mpr ⟨left.fit, left.count ▸ right.fit⟩

/-- Only the count matters. -/
theorem of_eq {other : Display} {effects : List DirtyDelta}
    (adjusts : display.Adjusts effects after) (same : other.dirtyLayers = after.dirtyLayers) :
    display.Adjusts effects other :=
  ⟨same.trans adjusts.count, adjusts.fit⟩

end Adjusts

theorem adjusts_foldl {ι : Type} {change : Display → ι → Display}
    {effects : Display → ι → List DirtyDelta} {kept : Display → Prop}
    (keeps : ∀ {display} item, kept display → kept (change display item))
    (each : ∀ {display} item, kept display →
      display.Adjusts (effects display item) (change display item))
    (items : List ι) {display : Display} (start : kept display) :
    display.Adjusts (effectsAlong change effects display items) (items.foldl change display) := by
  induction items generalizing display with
  | nil => exact .nothing rfl
  | cons item rest ih => exact (each item start).trans (ih (keeps item start))

/-- A count that is right, of layers with numbers of their own. -/
structure Countable (display : Display) : Prop where
  counted : display.Counted
  distinct : display.ids.Nodup

variable {display : Display}

theorem countable_latchLayer (countable : display.Countable) (id : LayerId) :
    (display.latchLayer id).Countable where
  counted := countable.counted.latchLayer countable.distinct id
  distinct := (display.amends_latchLayer id).ids ▸ countable.distinct

theorem countable_acceptChange (countable : display.Countable)
    (change : LayerId × Composition) : (display.acceptChange change).Countable where
  counted := countable.counted.acceptChange countable.distinct change
  distinct := (display.amends_acceptChange change).ids ▸ countable.distinct

theorem adjusts_latchLayer (counted : display.Counted) (id : LayerId) :
    display.Adjusts (display.latchEffects id) (display.latchLayer id) := by
  unfold latchEffects latchLayer
  cases found : display.layer? id with
  | none => exact .nothing rfl
  | some layer =>
      dsimp only
      split
      · exact .nothing rfl
      · exact ⟨rfl, layer.composition.fit_latch (counted.isDirty_le found)⟩

theorem adjusts_acceptChange (counted : display.Counted) (change : LayerId × Composition) :
    display.Adjusts (display.acceptEffects change) (display.acceptChange change) := by
  unfold acceptEffects acceptChange
  cases found : display.layer? change.1 with
  | none => exact .nothing rfl
  | some layer =>
      exact ⟨rfl, layer.composition.fit_latch_setPending change.2 (counted.isDirty_le found)⟩

theorem adjusts_setComposition (counted : display.Counted) (id : LayerId)
    (composition : Composition) :
    display.Adjusts (display.askEffects id composition)
      (display.setComposition id composition).2 := by
  unfold askEffects setComposition
  cases found : display.layer? id with
  | none => exact .nothing rfl
  | some layer =>
      dsimp only
      split
      · exact .nothing rfl
      · exact ⟨rfl, layer.composition.fit_setPending composition (counted.isDirty_le found)⟩

theorem adjusts_removeLayer (counted : display.Counted) (id : LayerId) :
    display.Adjusts (display.removeEffects id) (display.removeLayer id).2 := by
  unfold removeEffects
  cases found : display.layer? id with
  | none =>
      refine .nothing ?_
      simp only [removeLayer, found]
  | some layer =>
      have below := counted.isDirty_le found
      simp only [removeLayer_eq found]
      cases dirty : layer.isDirty with
      | false => exact .nothing rfl
      | true =>
          rw [dirty] at below
          exact ⟨rfl, fun _ => below, trivial⟩

theorem dirtyLayers_setGeometry (display : Display) (id : LayerId)
    (update : LayerGeometry → LayerGeometry) :
    (display.setGeometry id update).2.dirtyLayers = display.dirtyLayers := by
  unfold setGeometry
  split
  · rfl
  · dsimp only
    split <;> rfl

/-- Edits of anything but a composition leave the count alone. -/
theorem adjusts_edit (counted : display.Counted) (id : LayerId) (edit : LayerEdit) :
    display.Adjusts (display.effects (.call (.edit id edit))) (display.edit id edit).2 := by
  cases edit with
  | composition composition => exact adjusts_setComposition counted id composition
  | z z =>
      refine .nothing ?_
      simp only [edit, editDone, setZ]
      split
      · rfl
      · split
        · rfl
        · split <;> rfl
  | buffer buffer acquire =>
      refine .nothing ?_
      simp only [edit, setBuffer]
      split <;> rfl
  | surfaceDamage rects =>
      refine .nothing ?_
      simp only [edit, editDone, setSurfaceDamage]
      split <;> rfl
  | dataspace dataspace =>
      refine .nothing ?_
      simp only [edit, editDone, setDataspace]
      split
      · rfl
      · split <;> rfl
  | planeAlpha alpha =>
      refine .nothing ?_
      simp only [edit, editDone, setPlaneAlpha]
      split
      · exact display.dirtyLayers_setGeometry id _
      · rfl
  | cursor x y =>
      refine .nothing ?_
      simp only [edit, editDone, setCursorPosition]
      split
      · rfl
      · split
        · rfl
        · split <;> rfl
  | displayFrame rect => exact .nothing (display.dirtyLayers_setGeometry id _)
  | sourceCrop rect => exact .nothing (display.dirtyLayers_setGeometry id _)
  | blend mode => exact .nothing (display.dirtyLayers_setGeometry id _)
  | transform transform => exact .nothing (display.dirtyLayers_setGeometry id _)
  | color color => exact .nothing (display.dirtyLayers_setGeometry id _)

theorem adjusts_acceptChanges (countable : display.Countable) :
    display.Adjusts (display.effects (.call .acceptChanges)) display.acceptChanges.2 := by
  simp only [effects, acceptChanges]
  cases display.validated with
  | none => exact .nothing rfl
  | some validation =>
      have folded := adjusts_foldl (fun change kept => countable_acceptChange kept change)
        (fun change kept => adjusts_acceptChange kept.counted change) validation.typeChanges
        countable
      exact folded.of_eq rfl

theorem adjusts_validate (countable : display.Countable)
    (prepare : Frame → Except BackendError (List Decision)) :
    display.Adjusts (display.effects (.validate prepare))
      (display.validateWith prepare).2 := by
  simp only [effects, validateWith_eq]
  cases display.negotiated? prepare with
  | none => exact .nothing rfl
  | some negotiation =>
      have folded := adjusts_foldl
        (fun (entry : LayerId × Slot) kept => countable_latchLayer kept entry.1)
        (fun entry kept => adjusts_latchLayer kept.counted entry.1) negotiation.proposal.layers
        countable
      exact folded.of_eq rfl

theorem dirtyLayers_foldl_pushReleaseFence (shares : List (LayerId × Fence))
    (display : Display) :
    (shares.foldl pushReleaseFence display).dirtyLayers = display.dirtyLayers := by
  induction shares generalizing display with
  | nil => rfl
  | cons share rest ih =>
      rw [List.foldl_cons, ih]
      unfold pushReleaseFence
      split <;> rfl

theorem dirtyLayers_presentWith (display : Display)
    (commit : Frame → Except BackendError CommitFences) :
    (display.presentWith commit).2.dirtyLayers = display.dirtyLayers := by
  unfold presentWith
  cases display.beginPresent with
  | finished result notices => rfl
  | asking frame =>
      cases answer : commit frame with
      | error cause => simp only [answer, finishPresent, failed]
      | ok fences =>
          simp only [answer, finishPresent]
          split
          · exact dirtyLayers_foldl_pushReleaseFence _ display
          · rfl

/-- The count after a turn is the count before with the turn's effects. -/
theorem adjusts_turn (countable : display.Countable) (turn : Turn) :
    display.Adjusts (display.effects turn) (display.turn turn).2 := by
  have counted := countable.counted
  cases turn with
  | idle => exact .nothing rfl
  | addLayer id => exact .nothing rfl
  | removeLayer id => exact adjusts_removeLayer counted id
  | call call =>
      cases call with
      | edit id edit => exact adjusts_edit counted id edit
      | clientTarget buffer acquire dataspace damage => exact .nothing rfl
      | outputBuffer buffer release => exact .nothing rfl
      | acceptChanges => exact adjusts_acceptChanges countable
      | colorMode mode =>
          refine .nothing ?_
          simp only [Display.turn, Display.call, setColorMode]
          split <;> rfl
  | validate prepare => exact adjusts_validate countable prepare
  | present commit => exact .nothing (display.dirtyLayers_presentWith commit)
  | switchConfig id answer => exact .nothing (by cases answer <;> rfl)
  | switchPower mode answer => exact .nothing (by cases answer <;> rfl)

theorem adjusts_after (stacked : display.Stacked) (counted : display.Counted)
    {turns : List Turn} (follows : display.Follows turns) :
    display.Adjusts (display.effectsThrough turns) (display.after turns) := by
  induction turns generalizing display with
  | nil => exact .nothing rfl
  | cons turn rest ih =>
      obtain ⟨fresh, follows⟩ := follows
      have turned := turned_turn stacked.held turn
      have later := ih (stacked_turned stacked fresh turned)
        (counted_turned stacked counted turned) follows
      exact (adjusts_turn ⟨counted, stacked.distinct⟩ turn).trans later

/-! ## Dirty layers of a validated display -/

/-- The client has to draw all dirty layers. -/
def Settled (display : Display) : Prop :=
  ∀ id layer, display.layer? id = some layer → layer.isDirty = true → layer.isUnsupported = true

theorem isDirty_settled (layer : Layer) (composition : Composition) :
    (layer.settled composition).isDirty = false :=
  Latched.isDirty_ofValue composition

/-- All layers are in a proposal, so all that the backend may show are committed. -/
theorem settled_decided (stacked : display.Stacked) {proposal : Proposal}
    {decisions : List Decision} (proposed : display.propose = .ok proposal) :
    (display.decided proposal decisions).Settled := by
  intro id layer found dirty
  have lookup : (display.latchLayers proposal).layer? id = some layer := found
  rw [layer?_latchLayers, Option.map_eq_some_iff] at lookup
  obtain ⟨before, there, rfl⟩ := lookup
  have inside : id ∈ proposal.layers.map (·.1) := by
    rw [(proposes_of_propose proposed).ids stacked]
    exact (mem_layersInOrder_iff stacked).mpr ⟨before, there⟩
  rw [if_pos inside] at dirty ⊢
  unfold Layer.latched at dirty ⊢
  split at dirty
  · rename_i unsupported
    rwa [if_pos unsupported]
  · rw [isDirty_settled] at dirty
    cases dirty

/-- A layer that an override was accepted for is clean, and the others are as before. -/
theorem settled_accepted (settled : display.Settled) (validation : Validation) :
    (display.accepted validation).Settled := by
  intro id layer found dirty
  have lookup : (validation.typeChanges.foldl acceptChange display).layer? id = some layer := found
  rw [layer?_foldl_acceptChange, Option.map_eq_some_iff] at lookup
  obtain ⟨before, there, rfl⟩ := lookup
  cases override : validation.typeChanges.reverse.lookup id with
  | none =>
      rw [override] at dirty
      exact settled id before there dirty
  | some composition =>
      rw [override] at dirty
      exact absurd dirty (by simp [isDirty_settled])

theorem settled_restyled {after : Display} (restyles : display.Restyles after)
    (settled : display.Settled) : after.Settled := by
  intro id amended found dirty
  obtain ⟨layer, there, restyled⟩ := restyles.before found
  have before : layer.isDirty = true := by
    rw [← dirty]
    exact congrArg Latched.isDirty restyled.composition.symm
  rw [← restyled.alike.unsupported]
  exact settled id layer there before

theorem settled_lasting : Lasting fun display _ => display.Settled where
  decided := fun stacked proposed _ => settled_decided stacked proposed
  accepted := fun settled => settled_accepted settled _
  restyled := settled_restyled

/-- What the count of dirty layers has to do with the layers, and with the effects so far. -/
structure CountsDirty (display : Display) (effects : List DirtyDelta) : Prop where
  count : display.dirtyLayers
    = display.layers.countP fun layer => layer.pending != layer.committed
  unsupported : display.state ≠ .modified → ∀ layer ∈ display.layers,
    layer.pending ≠ layer.committed → layer.isUnsupported = true
  sum : display.dirtyLayers = DirtyDelta.applyAll effects 0
  /-- No effect has ever taken away from a count of zero. -/
  fit : DirtyDelta.Fit 0 effects

end Display

namespace System

variable {σ : Type}

/-- What a run reports to the count of dirty layers. -/
def effects (backend : Backend σ) (system : System σ) (actions : List Action) :
    List DirtyDelta :=
  system.device.display.effectsThrough (system.turns backend actions)

/-- In every run of an opened device the count of dirty layers is right, and no subtraction from it
ever had to stop at zero. -/
theorem dirtyLayers_run {backend : Backend σ} {system : System σ}
    (opened : system.Opened backend) (actions : List Action) :
    (system.run backend actions).device.display.CountsDirty
      (system.effects backend actions) := by
  have sound := sound_of_opened opened
  have follows := follows_turns sound backend actions
  obtain ⟨id, name, required, configs, same⟩ := opened_display opened
  have zero : system.device.display.dirtyLayers = 0 := by rw [same]; rfl
  have adjusts := Display.adjusts_after sound.stacked (counted_of_opened opened) follows
  have counted := counted_run opened actions
  rw [run_display] at counted ⊢
  refine ⟨counted, ?_, zero ▸ adjusts.count, zero ▸ adjusts.fit⟩
  rw [← run_display]
  intro validated layer there differs
  have stacked := (sound_run sound backend actions).stacked
  cases record : (system.run backend actions).device.display.validated with
  | none => exact absurd (by simp only [Display.state, record]) validated
  | some validation =>
      have settled := whenever_run Display.settled_lasting opened actions validation record
      exact settled layer.id layer (Display.layer?_of_mem stacked.distinct there)
        (bne_iff_ne.mpr differs)

/-- Two layers ask for the hardware; one of them has a colour space that only the client can draw,
the other is destroyed while it is dirty again. -/
def unsupportedRun : List Action :=
  [.createLayer ⟨1⟩, .createLayer ⟨1⟩,
    .call (.device ⟨1⟩) (.edit ⟨1⟩ (.composition .device)),
    .call (.device ⟨1⟩) (.edit ⟨2⟩ (.composition .cursor)),
    .call (.device ⟨1⟩) (.edit ⟨1⟩ (.dataspace ⟨7⟩)), .ask (.device ⟨1⟩) .validate,
    .call (.device ⟨1⟩) (.edit ⟨2⟩ (.composition .client)), .destroyLayer ⟨1⟩ ⟨2⟩,
    .ask (.device ⟨1⟩) .validate]

theorem dirtyLayers_run_unsupported :
    (onScript []).Opened .scripted
      ∧ ((onScript []).run .scripted unsupportedRun).device.display.CountsDirty
        ((onScript []).effects .scripted unsupportedRun)
      ∧ ((onScript []).run .scripted unsupportedRun).device.display.state ≠ .modified
      ∧ ((onScript []).run .scripted unsupportedRun).device.display.dirtyLayers = 1
      ∧ (onScript []).effects .scripted unsupportedRun
        = [.becameDirty, .becameDirty, .becameClean, .becameDirty, .becameClean] :=
  ⟨opened_onScript [], dirtyLayers_run (opened_onScript []) unsupportedRun, by decide, rfl, rfl⟩

end System

end Scanout
