import Scanout.Proofs.Device.Opened

/-!
# Backends that keep to something

A run of a device takes its backend from state to state by the backend's own calls. So what each of
these calls maintains holds of the backend throughout the run (`step_maintains`).

A scripted backend maintains its script, all that it forces on slots and buffers, and unless it is
told to it does not fail to prepare (`plays_maintained`). In such a state it places the slots of
every frame as the script says (`guides_of_plays`).
-/

set_option autoImplicit false

namespace Scanout

namespace Backend

variable {σ : Type}

/-- No call takes the backend out of the states with this property. -/
structure Maintains (backend : Backend σ) (property : σ → Prop) : Prop where
  prepare : ∀ frame state, property state → property (backend.prepare frame state).2
  commit : ∀ frame state, property state → property (backend.commit frame state).2
  setActiveConfig : ∀ index state, property state → property (backend.setActiveConfig index state).2
  setPowerMode : ∀ mode state, property state → property (backend.setPowerMode mode state).2

end Backend

namespace System

variable {σ : Type} {backend : Backend σ} {property : σ → Prop}

theorem complete_maintains (maintains : backend.Maintains property) {system : System σ}
    (holds : property system.backend) (access : Access) (call : BackendCall)
    (question : Question) : property (system.complete backend access call question).backend := by
  have answered : (system.complete backend access call question).backend
      = (system.device.display.complete backend question system.backend).2 := by
    cases access <;> rfl
  rw [answered]
  cases question with
  | prepare proposal => exact maintains.prepare _ _ holds
  | commit frame => exact maintains.commit _ _ holds
  | activeConfig id index => exact maintains.setActiveConfig _ _ holds
  | powerMode mode => exact maintains.setPowerMode _ _ holds

theorem step_maintains (maintains : backend.Maintains property) {system : System σ}
    (holds : property system.backend) (action : Action) :
    property (system.step backend action).backend := by
  cases action with
  | ask access call =>
      simp only [step, ask]
      split
      · exact holds
      · exact complete_maintains maintains holds access call _
      · exact complete_maintains maintains holds access call _
      · exact holds
      · exact holds
  | answer =>
      simp only [step]
      split
      · exact holds
      · exact complete_maintains maintains holds _ _ _
  | call access call => cases access <;> exact holds
  | _ => exact holds

end System

/-! ## The scripted backend -/

namespace Script

/-- These decisions place the slots of a frame as the script does. -/
structure Places (script : Script) (slots : List Slot) (decisions : List Decision) : Prop where
  length : decisions.length = slots.length
  placed : ∀ index slot, slots[index]? = some slot →
    (decisions[index]?).map (·.placement) = some (script.decide index slot).placement

/-- A backend that answers like `prepare` follows the script and never fails. -/
def Guides (script : Script) (prepare : Frame → Except BackendError (List Decision)) : Prop :=
  ∀ frame, ∃ decisions, prepare frame = .ok decisions ∧ script.Places frame.slots decisions

end Script

/-- What the stage does to slots is what the script says, and it does not fail to prepare. -/
structure Stage.Plays (script : Script) (stage : Stage) : Prop where
  slots : stage.script.forcedSlots = script.forcedSlots
  buffers : stage.script.forcedBuffers = script.forcedBuffers
  willing : stage.script.failPrepare = false

namespace Stage

variable {script : Script} {stage : Stage}

theorem plays_issueFence (plays : stage.Plays script) : stage.issueFence.2.Plays script := by
  unfold issueFence
  dsimp only
  split
  · exact ⟨plays.slots, plays.buffers, plays.willing⟩
  · exact ⟨plays.slots, plays.buffers, plays.willing⟩

theorem plays_issueFences (plays : stage.Plays script) (count : Nat) :
    (issueFences count stage).2.Plays script := by
  induction count generalizing stage with
  | zero => exact plays
  | succ count ih => exact ih (plays_issueFence plays)

/-- The stage prepares a frame, which it notes. -/
theorem prepare_of_plays (plays : stage.Plays script) (frame : Frame) :
    ∃ seen : Script, { stage with script := seen }.Plays script
      ∧ stage.prepare frame
        = (.ok (seen.decideFrom 0 frame.slots), { stage with script := seen }) := by
  have calm : ¬stage.script.failPrepare = true := by
    rw [plays.willing]
    exact Bool.false_ne_true
  refine ⟨{ stage.script with
    prepareCount := stage.script.prepareCount + 1
    lastPrepared := some frame }, ?_, if_neg calm⟩
  exact ⟨plays.slots, plays.buffers, plays.willing⟩

theorem plays_maintained (script : Script) : Backend.scripted.Maintains (Plays script) where
  prepare := by
    intro frame stage plays
    obtain ⟨seen, noted, prepares⟩ := prepare_of_plays plays frame
    simp only [Backend.scripted, prepares]
    exact noted
  commit := by
    intro frame stage plays
    simp only [Backend.scripted, commit]
    split
    · exact ⟨plays.slots, plays.buffers, plays.willing⟩
    · refine plays_issueFences (plays_issueFence ?_) _
      exact ⟨plays.slots, plays.buffers, plays.willing⟩
  setActiveConfig := by
    intro index stage plays
    simp only [Backend.scripted, setActiveConfig]
    split
    · exact ⟨plays.slots, plays.buffers, plays.willing⟩
    · exact plays
  setPowerMode := fun mode stage plays => ⟨plays.slots, plays.buffers, plays.willing⟩

theorem getElem?_decideFrom (script : Script) (first index : Nat) (slots : List Slot) :
    (script.decideFrom first slots)[index]?
      = (slots[index]?).map (script.decide (first + index)) := by
  induction slots generalizing first index with
  | nil => rfl
  | cons slot rest ih =>
      cases index with
      | zero => rfl
      | succ index =>
          rw [Script.decideFrom, List.getElem?_cons_succ, List.getElem?_cons_succ, ih,
            Nat.add_right_comm, Nat.add_assoc]

/-- A stage that plays a script follows it. -/
theorem guides_of_plays (plays : stage.Plays script) :
    script.Guides fun frame => (Backend.scripted.prepare frame stage).1 := by
  intro frame
  obtain ⟨seen, noted, prepares⟩ := prepare_of_plays plays frame
  refine ⟨seen.decideFrom 0 frame.slots, ?_, seen.length_decideFrom 0 frame.slots, ?_⟩
  · simp only [Backend.scripted, prepares]
  · intro index slot there
    rw [getElem?_decideFrom, there, Nat.zero_add]
    simp only [Option.map_some, Script.decide, Script.forced?]
    rw [noted.slots, noted.buffers]

end Stage

/-- The backend follows the script if the turn has it prepare a frame. -/
def Turn.GuidedBy (script : Script) : Turn → Prop
  | .validate prepare => script.Guides prepare
  | _ => True

namespace System

variable {script : Script} {stage : System Stage}

theorem guided_turn (plays : stage.backend.Plays script) (action : Action) :
    (stage.turn .scripted action).GuidedBy script := by
  cases action with
  | createLayer id =>
      simp only [turn]
      split <;> trivial
  | destroyLayer id layer =>
      simp only [turn]
      split <;> trivial
  | call access call =>
      simp only [turn]
      split <;> trivial
  | ask access call =>
      cases call with
      | validate =>
          simp only [turn]
          split
          · exact Stage.guides_of_plays plays
          · trivial
      | present =>
          simp only [turn]
          split <;> trivial
      | _ => trivial
  | answer =>
      simp only [turn]
      split
      · trivial
      · rename_i switch _ _
        cases switch <;> trivial
  | _ => trivial

end System

end Scanout
