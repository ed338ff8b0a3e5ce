import Scanout.Proofs.Backend.Outstanding
import Scanout.Proofs.Backend.Scripted

/-!
# Plain scripts

A plain script is one that nobody has told to fail, to force a slot by its number, to fall short or
to signal on its own. It prepares every frame (`prepare_of_plain`) and commits every frame
(`commit_of_plain`), and all that changes is what it notes and the signals that it keeps. Once these
are given, no fence is pending if none was before (`quiet_completed`).
-/

set_option autoImplicit false

namespace Scanout

namespace Script

/-- The script neither fails nor forces slots by their numbers, and fences wait for a signal. -/
structure Plain (script : Script) : Prop where
  slots : script.forcedSlots = []
  cleared : script.clearedSlots = []
  prepares : script.failPrepare = false
  commits : script.failCommit = false
  complete : script.shortRelease = false
  waits : script.autoSignal = false

/-- The script with a note of a frame that it has prepared. -/
def preparing (script : Script) (frame : Frame) : Script :=
  { script with prepareCount := script.prepareCount + 1, lastPrepared := some frame }

/-- The script with a note of a frame that it has committed. -/
def committing (script : Script) (frame : Frame) : Script :=
  { script with commitCount := script.commitCount + 1, lastCommitted := some frame }

variable {script : Script}

theorem Plain.preparing (plain : script.Plain) (frame : Frame) : (script.preparing frame).Plain :=
  ⟨plain.slots, plain.cleared, plain.prepares, plain.commits, plain.complete, plain.waits⟩

theorem places_decideFrom (script : Script) (slots : List Slot) :
    script.Places slots (script.decideFrom 0 slots) where
  length := script.length_decideFrom 0 slots
  placed := by
    intro index slot there
    rw [Stage.getElem?_decideFrom, there, Nat.zero_add]
    rfl

theorem clearClientTarget_of_mem (cleared : script.clearedSlots = []) {first : Nat}
    {slots : List Slot} {decision : Decision} (member : decision ∈ script.decideFrom first slots) :
    decision.clearClientTarget = false := by
  induction slots generalizing first with
  | nil => cases member
  | cons slot rest ih =>
      rcases List.mem_cons.mp member with rfl | later
      · simp only [decide, cleared, List.contains_nil]
      · exact ih later

end Script

namespace Stage

variable {stage next : Stage}

theorem prepare_of_plain (plain : stage.script.Plain) (frame : Frame) :
    stage.prepare frame = (.ok ((stage.script.preparing frame).decideFrom 0 frame.slots),
      { stage with script := stage.script.preparing frame }) :=
  if_neg (Bool.eq_false_iff.mp plain.prepares)

theorem script_issueFence (stage : Stage) :
    ∃ signals, stage.issueFence.2.script = { stage.script with signals := signals } := by
  unfold issueFence
  dsimp only
  split
  · exact ⟨stage.script.signals, rfl⟩
  · exact ⟨_, rfl⟩

theorem script_issueFences (count : Nat) (stage : Stage) :
    ∃ signals, (issueFences count stage).2.script = { stage.script with signals := signals } := by
  induction count generalizing stage with
  | zero => exact ⟨stage.script.signals, rfl⟩
  | succ count ih =>
      obtain ⟨first, issued⟩ := stage.script_issueFence
      obtain ⟨signals, rest⟩ := ih stage.issueFence.2
      exact ⟨signals, rest.trans (by rw [issued])⟩

/-- A plain script commits every frame: it notes the frame and hands out fences. -/
theorem commit_of_plain (plain : stage.script.Plain) (frame : Frame) :
    ∃ fences next, stage.commit frame = (.ok fences, next)
      ∧ fences.release.length = frame.slots.length
      ∧ fences.retire = .shared stage.fences.size
      ∧ stage.Hands (frame.slots.length + 1) next
      ∧ ∃ signals, next.script = { stage.script.committing frame with signals := signals } := by
  have owed : stage.owed frame = frame.slots.length := by
    simp only [Stage.owed, plain.complete, Bool.false_eq_true, if_false, Nat.sub_zero]
  have committed : stage.commit frame = _ := if_neg (Bool.eq_false_iff.mp plain.commits)
  rcases stage.commit_cases frame with
    ⟨cause, script, -, -, failed⟩ | ⟨fences, next, issued, -, list, hands⟩
  · cases failed.symm.trans committed
  · rw [owed] at list hands
    simp only [nextFences, List.range'_succ, List.map_cons, List.cons.injEq] at list
    refine ⟨fences, next, issued, ?_, list.1, hands, ?_⟩
    · rw [list.2, List.length_map, List.length_range']
    · obtain ⟨first, retired⟩ :=
        script_issueFence { stage with script := stage.script.committing frame }
      obtain ⟨signals, released⟩ := script_issueFences
        (releaseCount (stage.script.committing frame) frame)
        (issueFence { stage with script := stage.script.committing frame }).2
      have last : next.script = _ := congrArg (·.2.script) (issued.symm.trans committed)
      exact ⟨signals, last.trans (released.trans (by rw [retired]))⟩

/-- No signal is held back, and every fence is signaled. -/
structure Quiet (stage : Stage) : Prop where
  signals : stage.script.signals = []
  signaled : ∀ primitive, primitive < stage.fences.size →
    stage.fences.statusOf primitive = .signaled

theorem quiet_completed {count : Nat} (quiet : stage.Quiet) (plain : stage.script.Plain)
    (hands : stage.Hands count next) : (next.completeAll .signaled).2.Quiet where
  signals := rfl
  signaled := by
    intro primitive inside
    have issued : primitive < next.fences.size := by
      rwa [completeAll, FenceTable.size_foldl_finish] at inside
    have signals := hands.signals
    rw [quiet.signals, plain.waits] at signals
    simp only [completeAll]
    rw [FenceTable.statusOf_foldl_finish, signals]
    by_cases new : stage.fences.size ≤ primitive
    · have pending := hands.issued primitive new issued
      rw [plain.waits] at pending
      rw [if_pos]
      refine ⟨List.mem_range'_1.mpr ⟨new, hands.size ▸ issued⟩, pending⟩
    · have old := Nat.lt_of_not_le new
      rw [hands.kept primitive old, quiet.signaled primitive old, if_neg]
      exact nofun

end Stage

end Scanout
