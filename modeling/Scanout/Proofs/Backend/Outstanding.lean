import Scanout.Backend.Rehearsal
import Scanout.Proofs.Fence.Table

/-!
# The fences that a scripted backend hands out

Every fence of a commit is new. Its signal is given at once or stays with the script, and what stays
there is completed with all the others, so what becomes of a fence is a matter of what was commanded
when it was handed out and of the first completion after that (`fences_run`).

A command does one of two things: it hands out some fences and completes none (`Hands`), or it
completes what is kept and hands out none. `effect` says which, and all else follows from it along
a run.
-/

set_option autoImplicit false

namespace Scanout

namespace StageCommand

def autoSwitch? : StageCommand → Option Bool
  | .script (.autoSignal on) => some on
  | _ => none

def shortSwitch? : StageCommand → Option Bool
  | .script (.shortRelease on) => some on
  | _ => none

/-- How a command completes the fences whose signals the script keeps. -/
def completion? : StageCommand → Option FenceStatus
  | .script .signalAll => some .signaled
  | .script .abandonAll => some .abandoned
  | _ => none

/-- After these commands, fences are signaled as soon as they are handed out. -/
def signalAtOnce (commands : List StageCommand) : Bool :=
  (commands.filterMap autoSwitch?).getLast?.getD false

/-- After these commands, a commit answers one release fence too few. -/
def fallShort (commands : List StageCommand) : Bool :=
  (commands.filterMap shortSwitch?).getLast?.getD false

end StageCommand

/-- The fences that an answer hands out. -/
def StageAnswer.fenceList : StageAnswer → List Fence
  | .fences given => given.retire :: given.release
  | _ => []

namespace Stage

/-- A scripted backend that is new. There may be fences of others. -/
def new (configs : List ConfigShape) (fences : FenceTable) : Stage where
  script := { configs := configs }
  fences := fences

def after (stage : Stage) : List StageCommand → Stage
  | [] => stage
  | command :: rest => (stage.run command).2.after rest

/-- The fences that commands hand out, in order. -/
def handedOut (stage : Stage) : List StageCommand → List Fence
  | [] => []
  | command :: rest => (stage.run command).1.fenceList ++ (stage.run command).2.handedOut rest

/-- Those of them whose signals the script keeps at first. -/
def keptBack (stage : Stage) : List StageCommand → List Fence
  | [] => []
  | command :: rest =>
    (if stage.script.autoSignal then [] else (stage.run command).1.fenceList)
      ++ (stage.run command).2.keptBack rest

/-- What holds of the fences of a new scripted backend after these commands. -/
structure Handles (start : Stage) (commands : List StageCommand) : Prop where
  distinct : (start.handedOut commands).Nodup
  issued : ∀ fence ∈ start.handedOut commands,
    ∃ primitive, fence = .shared primitive ∧ start.fences.size ≤ primitive
  pending : ∀ primitive, .shared primitive ∈ start.handedOut commands →
    ((start.after commands).fences.statusOf primitive = .pending
      ↔ primitive ∈ (start.after commands).script.signals)
  fates : ∀ earlier command later, commands = earlier ++ command :: later →
    ∀ fence ∈ ((start.after earlier).run command).1.fenceList,
      (start.after commands).fences.status fence
        = if StageCommand.signalAtOnce earlier then .signaled
          else (later.findSome? StageCommand.completion?).getD .pending
  settled : ∀ fence ∈ start.handedOut commands,
    (start.after commands).fences.status fence ≠ .pending → ∀ later,
      (start.after (commands ++ later)).fences.status fence
        = (start.after commands).fences.status fence
  /-- What is outstanding was handed out since the last completion, and not signaled at once. -/
  outstanding : ∀ earlier since, commands = earlier ++ since →
    (∀ command ∈ since, command.completion? = none) →
    earlier = [] ∨ (earlier.getLast?.bind StageCommand.completion?).isSome →
    (start.after commands).script.signals.length
      = ((start.after earlier).keptBack since).length
  /-- A completion tells how many fences it completes. -/
  completes : ∀ command status, command.completion? = some status →
    ((start.after commands).run command).1
        = .script (.count ((start.handedOut commands).countP fun fence =>
          (start.after commands).fences.status fence = .pending))
      ∧ ∀ fence ∈ start.handedOut commands,
        ((start.after commands).run command).2.fences.status fence
          = if (start.after commands).fences.status fence = .pending then status
            else (start.after commands).fences.status fence
  /-- A commit that fails issues nothing, any other one issues a retire fence and a release fence
  for each slot, or one less if it falls short. -/
  commits : ∀ frame,
    (∃ cause, ((start.after commands).run (.commit frame)).1 = .failed cause
        ∧ ((start.after commands).run (.commit frame)).2.fences = (start.after commands).fences)
      ∨ ∃ fences, ((start.after commands).run (.commit frame)).1 = .fences fences
        ∧ fences.release.length
          = frame.slots.length - if StageCommand.fallShort commands then 1 else 0

/-! ## One command -/

variable {stage next : Stage}

/-- Whether fences are signaled at once, and whether commits fall short. -/
def modes (stage : Stage) : Bool × Bool := (stage.script.autoSignal, stage.script.shortRelease)

theorem autoSignal_eq (same : next.modes = stage.modes) :
    next.script.autoSignal = stage.script.autoSignal := congrArg Prod.fst same

/-- The stage hands out this number of fences, and nothing else happens to fences. -/
structure Hands (stage : Stage) (count : Nat) (next : Stage) : Prop where
  develops : stage.fences.Develops next.fences
  size : next.fences.size = stage.fences.size + count
  signals : next.script.signals = stage.script.signals
    ++ if stage.script.autoSignal then [] else List.range' stage.fences.size count
  issued : ∀ primitive, stage.fences.size ≤ primitive → primitive < next.fences.size →
    next.fences.statusOf primitive
      = if stage.script.autoSignal then .signaled else .pending
  kept : ∀ primitive, primitive < stage.fences.size →
    next.fences.statusOf primitive = stage.fences.statusOf primitive

/-- The next fences of a table. -/
def nextFences (table : FenceTable) (count : Nat) : List Fence :=
  (List.range' table.size count).map Fence.shared

theorem length_nextFences (table : FenceTable) (count : Nat) :
    (nextFences table count).length = count := by
  simp only [nextFences, List.length_map, List.length_range']

namespace Hands

theorem none (fences : next.fences = stage.fences)
    (signals : next.script.signals = stage.script.signals) : stage.Hands 0 next where
  develops := fences ▸ .same
  size := congrArg FenceTable.size fences
  signals := by simp [signals]
  issued primitive new inside := by
    rw [fences] at inside
    exact absurd inside (Nat.not_lt.mpr new)
  kept primitive _ := by rw [fences]

theorem trans {final : Stage} {first second : Nat} (hands : stage.Hands first next)
    (same : next.modes = stage.modes) (more : next.Hands second final) :
    stage.Hands (first + second) final where
  develops := hands.develops.trans more.develops
  size := by rw [more.size, hands.size, Nat.add_assoc]
  signals := by
    rw [more.signals, hands.signals, autoSignal_eq same, hands.size, List.append_assoc]
    cases stage.script.autoSignal with
    | true => rfl
    | false => simp only [Bool.false_eq_true, if_false, List.range'_append_1]
  issued primitive new inside := by
    by_cases earlier : primitive < next.fences.size
    · rw [more.kept primitive earlier, hands.issued primitive new earlier]
    · rw [more.issued primitive (Nat.le_of_not_lt earlier) inside, autoSignal_eq same]
  kept primitive old := by
    have inside : primitive < next.fences.size := Nat.lt_of_lt_of_le old hands.develops.size_le
    rw [more.kept primitive inside, hands.kept primitive old]

end Hands

theorem hands_issueFence (stage : Stage) :
    stage.issueFence.1 = .shared stage.fences.size
      ∧ stage.issueFence.2.modes = stage.modes
      ∧ stage.Hands 1 stage.issueFence.2 := by
  have only : ∀ {primitive}, stage.fences.size ≤ primitive →
      primitive < stage.fences.size + 1 → primitive = stage.fences.size :=
    fun new inside => Nat.le_antisymm (Nat.le_of_lt_succ inside) new
  cases auto : stage.script.autoSignal with
  | true =>
      simp only [issueFence, auto, if_true]
      refine ⟨rfl, rfl, ⟨.finish (.issue .same) _ _, ?_, ?_, ?_, ?_⟩⟩
      · exact (FenceTable.size_finish _ _ _).trans (FenceTable.size_issue _)
      · simp [auto]
      · intro primitive new inside
        rw [FenceTable.signal, FenceTable.size_finish, FenceTable.size_issue] at inside
        rw [only new inside, auto, if_pos rfl, FenceTable.signal, FenceTable.statusOf_finish]
        exact if_pos ⟨rfl, by rw [FenceTable.statusOf_issue, if_pos rfl]⟩
      · intro primitive old
        have apart := Nat.ne_of_lt old
        refine (FenceTable.statusOf_finish_ne apart .signaled).trans ?_
        rw [FenceTable.statusOf_issue, if_neg apart]
  | false =>
      simp only [issueFence, auto, Bool.false_eq_true, if_false]
      have same : (false, stage.script.shortRelease) = stage.modes := by simp only [modes, auto]
      refine ⟨rfl, same, ⟨.issue .same, FenceTable.size_issue _, ?_, ?_, ?_⟩⟩
      · simp [auto]
      · intro primitive new inside
        rw [FenceTable.size_issue] at inside
        rw [only new inside, FenceTable.statusOf_issue, if_pos rfl, auto]
        rfl
      · intro primitive old
        rw [FenceTable.statusOf_issue, if_neg (Nat.ne_of_lt old)]

theorem hands_issueFences (count : Nat) (stage : Stage) :
    (issueFences count stage).1 = nextFences stage.fences count
      ∧ (issueFences count stage).2.modes = stage.modes
      ∧ stage.Hands count (issueFences count stage).2 := by
  induction count generalizing stage with
  | zero => exact ⟨rfl, rfl, .none rfl rfl⟩
  | succ count ih =>
      obtain ⟨fence, same, first⟩ := hands_issueFence stage
      obtain ⟨fences, sameRest, rest⟩ := ih stage.issueFence.2
      have all := first.trans same rest
      rw [Nat.add_comm] at all
      refine ⟨?_, sameRest.trans same, all⟩
      simp only [issueFences, fence, fences, nextFences, first.size, List.range'_succ,
        List.map_cons]

/-- The number of release fences that a commit answers. -/
def owed (stage : Stage) (frame : Frame) : Nat :=
  frame.slots.length - if stage.script.shortRelease then 1 else 0

theorem releaseCount_eq (script : Script) (frame : Frame) :
    releaseCount script frame = frame.slots.length - if script.shortRelease then 1 else 0 := by
  unfold releaseCount
  split <;> rfl

/-- A commit that does not fail notes the frame, and its fences are issued after that. -/
theorem commit_of_ok (frame : Frame) (ok : ¬stage.script.failCommit = true) :
    ∃ seen : Script, seen.signals = stage.script.signals
      ∧ modes { stage with script := seen } = stage.modes
      ∧ stage.commit frame
        = let retire := issueFence { stage with script := seen }
          let release := issueFences (releaseCount seen frame) retire.2
          (.ok ⟨retire.1, release.1⟩, release.2) :=
  ⟨{ stage.script with
      commitCount := stage.script.commitCount + 1
      lastCommitted := some frame }, rfl, rfl, if_neg ok⟩

/-- A commit fails and leaves the fences alone, or hands out a retire fence and as many release
fences as it owes. -/
theorem commit_cases (frame : Frame) (stage : Stage) :
    (∃ cause script, script.signals = stage.script.signals
        ∧ modes { stage with script := script } = stage.modes
        ∧ stage.commit frame = (.error cause, { stage with script := script }))
      ∨ ∃ fences next, stage.commit frame = (.ok fences, next)
        ∧ next.modes = stage.modes
        ∧ fences.retire :: fences.release = nextFences stage.fences (stage.owed frame + 1)
        ∧ stage.Hands (stage.owed frame + 1) next := by
  by_cases failing : stage.script.failCommit = true
  · exact .inl ⟨.deviceLost, { stage.script with
      commitCount := stage.script.commitCount + 1
      lastCommitted := some frame
      failCommit := false }, rfl, rfl, if_pos failing⟩
  · obtain ⟨seen, signals, modes, committed⟩ := stage.commit_of_ok frame failing
    have auto : seen.autoSignal = stage.script.autoSignal := autoSignal_eq modes
    have short : seen.shortRelease = stage.script.shortRelease := congrArg Prod.snd modes
    have count : releaseCount seen frame = stage.owed frame := by
      rw [releaseCount_eq, short, owed]
    obtain ⟨retire, same, first⟩ := hands_issueFence { stage with script := seen }
    obtain ⟨release, sameRest, rest⟩ :=
      hands_issueFences (releaseCount seen frame) (issueFence { stage with script := seen }).2
    have all := first.trans same rest
    rw [count, Nat.add_comm] at all
    rw [count] at committed release sameRest
    refine .inr ⟨_, _, committed, (sameRest.trans same).trans modes, ?_, ?_⟩
    · simp only [retire, release, nextFences, first.size, List.range'_succ, List.map_cons]
    · exact ⟨all.develops, all.size, by rw [all.signals, signals, auto],
        by rw [← auto]; exact all.issued, all.kept⟩

theorem prepare_eq (frame : Frame) (stage : Stage) :
    ∃ result script, script.signals = stage.script.signals
      ∧ modes { stage with script := script } = stage.modes
      ∧ stage.prepare frame = (result, { stage with script := script }) := by
  by_cases failing : stage.script.failPrepare = true
  · exact ⟨.error (.rejected "scripted prepare failure"), { stage.script with
      prepareCount := stage.script.prepareCount + 1
      lastPrepared := some frame
      failPrepare := false }, rfl, rfl, if_pos failing⟩
  · exact ⟨.ok _, { stage.script with
      prepareCount := stage.script.prepareCount + 1
      lastPrepared := some frame }, rfl, rfl, if_neg failing⟩

theorem setActiveConfig_eq (index : Nat) (stage : Stage) :
    ∃ result script, script.signals = stage.script.signals
      ∧ modes { stage with script := script } = stage.modes
      ∧ stage.setActiveConfig index = (result, { stage with script := script }) := by
  by_cases inside : index < stage.script.configs.length
  · exact ⟨.ok (), { stage.script with activeIndex := some index }, rfl, rfl, if_pos inside⟩
  · exact ⟨.error (.rejected ("no config " ++ toString index)), stage.script, rfl, rfl,
      if_neg inside⟩

/-- What a command can do to fences. -/
inductive Effect (stage : Stage) (command : StageCommand) : Prop where
  | hands (count : Nat) (leaves : command.completion? = none)
      (fences : (stage.run command).1.fenceList = nextFences stage.fences count)
      (hands : stage.Hands count (stage.run command).2)
  | completes (status : FenceStatus) (how : command.completion? = some status)
      (run : stage.run command = (.script (.count (stage.completeAll status).1),
        (stage.completeAll status).2))

/-- A command that changes the script but neither its signals nor any fence. -/
theorem Effect.quiet {command : StageCommand} (script : Script)
    (leaves : command.completion? = none) (answer : (stage.run command).1.fenceList = [])
    (same : (stage.run command).2 = { stage with script := script })
    (signals : script.signals = stage.script.signals) : stage.Effect command := by
  refine .hands 0 leaves answer ?_
  rw [same]
  exact .none rfl signals

theorem effect (stage : Stage) (command : StageCommand) : stage.Effect command := by
  cases command with
  | listConfigs => exact .quiet _ rfl rfl rfl rfl
  | prepare frame =>
      obtain ⟨result, script, signals, -, prepared⟩ := stage.prepare_eq frame
      refine .quiet script rfl ?_ ?_ signals
      · simp only [run, prepared]
        cases result <;> rfl
      · simp only [run, prepared]
  | commit frame =>
      rcases stage.commit_cases frame with
        ⟨cause, script, signals, -, failed⟩ | ⟨fences, next, issued, -, list, hands⟩
      · refine .quiet script rfl ?_ ?_ signals
        · simp only [run, failed, answerOf]
          rfl
        · simp only [run, failed]
      · refine .hands (stage.owed frame + 1) rfl ?_ ?_
        · simp only [run, issued, answerOf]
          exact list
        · simp only [run, issued]
          exact hands
  | setActiveConfig index =>
      obtain ⟨result, script, signals, -, switched⟩ := stage.setActiveConfig_eq index
      refine .quiet script rfl ?_ ?_ signals
      · simp only [run, switched]
        cases result <;> rfl
      · simp only [run, switched]
  | setPowerMode mode => exact .quiet _ rfl rfl rfl rfl
  | script command =>
      cases command with
      | signalAll => exact .completes .signaled rfl rfl
      | abandonAll => exact .completes .abandoned rfl rfl
      | _ => exact .quiet _ rfl rfl rfl rfl

/-- The modes change with their switches only. -/
theorem modes_run (stage : Stage) (command : StageCommand) :
    (stage.run command).2.modes
      = (command.autoSwitch?.getD stage.script.autoSignal,
        command.shortSwitch?.getD stage.script.shortRelease) := by
  cases command with
  | listConfigs => rfl
  | prepare frame =>
      obtain ⟨result, script, -, same, prepared⟩ := stage.prepare_eq frame
      simp only [run, prepared]
      exact same
  | commit frame =>
      rcases stage.commit_cases frame with ⟨_, _, _, same, failed⟩ | ⟨_, _, issued, same, _⟩
      · simp only [run, failed]
        exact same
      · simp only [run, issued]
        exact same
  | setActiveConfig index =>
      obtain ⟨result, script, -, same, switched⟩ := stage.setActiveConfig_eq index
      simp only [run, switched]
      exact same
  | setPowerMode mode => rfl
  | script command => cases command <;> rfl

theorem completion_ne_pending {command : StageCommand} {status : FenceStatus}
    (how : command.completion? = some status) : status ≠ .pending := by
  rintro rfl
  unfold StageCommand.completion? at how
  split at how <;> cases how

theorem statusOf_completeAll (status : FenceStatus) (stage : Stage) (primitive : Nat) :
    (stage.completeAll status).2.fences.statusOf primitive
      = if primitive ∈ stage.script.signals ∧ stage.fences.statusOf primitive = .pending then status
        else stage.fences.statusOf primitive :=
  FenceTable.statusOf_foldl_finish _ _ _ _

theorem develops_run (stage : Stage) (command : StageCommand) :
    stage.fences.Develops (stage.run command).2.fences := by
  cases stage.effect command with
  | hands count leaves fences hands => exact hands.develops
  | completes status how run =>
      rw [run]
      exact .finishAll .same _ _

/-! ## Many commands -/

theorem after_append (stage : Stage) (commands later : List StageCommand) :
    stage.after (commands ++ later) = (stage.after commands).after later := by
  induction commands generalizing stage with
  | nil => rfl
  | cons command rest ih => exact ih _

theorem develops_after (stage : Stage) (commands : List StageCommand) :
    stage.fences.Develops (stage.after commands).fences := by
  induction commands generalizing stage with
  | nil => exact .same
  | cons command rest ih => exact (stage.develops_run command).trans (ih _)

/-- A mode is in the end as the last of its switches set it. -/
theorem mode_after (field : Stage → Bool) {switch? : StageCommand → Option Bool}
    (single : ∀ (stage : Stage) command,
      field (stage.run command).2 = (switch? command).getD (field stage))
    (stage : Stage) (commands : List StageCommand) :
    field (stage.after commands)
      = (commands.filterMap switch?).getLast?.getD (field stage) := by
  induction commands generalizing stage with
  | nil => rfl
  | cons command rest ih =>
      rw [after, ih, single]
      cases told : switch? command with
      | none => rw [List.filterMap_cons_none told, Option.getD_none]
      | some on =>
          rw [List.filterMap_cons_some told, List.getLast?_cons, Option.getD_some,
            Option.getD_some]

theorem autoSignal_after (stage : Stage) (commands : List StageCommand) :
    (stage.after commands).script.autoSignal
      = (commands.filterMap StageCommand.autoSwitch?).getLast?.getD stage.script.autoSignal :=
  mode_after (·.script.autoSignal)
    (fun stage command => congrArg Prod.fst (stage.modes_run command)) stage commands

theorem shortRelease_after (stage : Stage) (commands : List StageCommand) :
    (stage.after commands).script.shortRelease
      = (commands.filterMap StageCommand.shortSwitch?).getLast?.getD stage.script.shortRelease :=
  mode_after (·.script.shortRelease)
    (fun stage command => congrArg Prod.snd (stage.modes_run command)) stage commands

/-- What commands hand out are the next fences of the table, one after the other. -/
theorem handedOut_eq (stage : Stage) (commands : List StageCommand) :
    ∃ count, stage.handedOut commands = nextFences stage.fences count
      ∧ (stage.after commands).fences.size = stage.fences.size + count := by
  induction commands generalizing stage with
  | nil => exact ⟨0, rfl, rfl⟩
  | cons command rest ih =>
      obtain ⟨later, fencesLater, sizeLater⟩ := ih (stage.run command).2
      cases stage.effect command with
      | hands count leaves fences hands =>
          refine ⟨count + later, ?_, ?_⟩
          · rw [handedOut, fences, fencesLater, nextFences, nextFences, nextFences, hands.size,
              ← List.map_append, List.range'_append_1]
          · rw [after, sizeLater, hands.size, Nat.add_assoc]
      | completes status how run =>
          have same : (stage.run command).2.fences.size = stage.fences.size := by
            rw [run]
            exact FenceTable.size_foldl_finish _ _ _
          refine ⟨later, ?_, ?_⟩
          · rw [handedOut, fencesLater, nextFences, nextFences, same, run]
            rfl
          · rw [after, sizeLater, same]

/-- The script keeps the signals of the fences that are pending, among those from `base` on. -/
structure Keeps (base : Nat) (stage : Stage) : Prop where
  distinct : stage.script.signals.Nodup
  outstanding : ∀ primitive, primitive ∈ stage.script.signals
    ↔ base ≤ primitive ∧ stage.fences.statusOf primitive = .pending

namespace Keeps

variable {base : Nat} {command : StageCommand}

theorem lt_size (keeps : stage.Keeps base) {primitive : Nat}
    (kept : primitive ∈ stage.script.signals) : primitive < stage.fences.size :=
  FenceTable.lt_size_of_pending ((keeps.outstanding primitive).mp kept).2

theorem hands {count : Nat} (keeps : stage.Keeps base) (old : base ≤ stage.fences.size)
    (hands : stage.Hands count next) : next.Keeps base := by
  have added : ∀ primitive, primitive ∈ next.script.signals
      ↔ primitive ∈ stage.script.signals
        ∨ ¬stage.script.autoSignal ∧ stage.fences.size ≤ primitive
          ∧ primitive < next.fences.size := by
    intro primitive
    rw [hands.signals, List.mem_append, hands.size]
    cases stage.script.autoSignal <;> simp [List.mem_range'_1]
  refine ⟨?_, fun primitive => ?_⟩
  · rw [hands.signals]
    refine List.Nodup.append keeps.distinct ?_ fun primitive kept issued => ?_
    · split
      · exact List.nodup_nil
      · exact List.nodup_range'
    · have inside := keeps.lt_size kept
      split at issued
      · cases issued
      · exact Nat.not_lt.mpr (List.mem_range'_1.mp issued).1 inside
  · rw [added]
    by_cases known : primitive < stage.fences.size
    · rw [hands.kept primitive known, ← keeps.outstanding primitive]
      exact ⟨fun kept => kept.resolve_right fun new => Nat.not_lt.mpr new.2.1 known, .inl⟩
    · have new := Nat.le_of_not_lt known
      have unknown : primitive ∉ stage.script.signals := fun kept => known (keeps.lt_size kept)
      by_cases issued : primitive < next.fences.size
      · rw [hands.issued primitive new issued]
        cases auto : stage.script.autoSignal <;> simp [unknown, new, issued, old.trans new]
      · refine ⟨fun kept => ?_, fun pending => ?_⟩
        · exact absurd (kept.resolve_left unknown).2.2 issued
        · exact absurd (FenceTable.lt_size_of_pending pending.2) issued

theorem completes {status : FenceStatus} (keeps : stage.Keeps base)
    (complete : status ≠ .pending) : (stage.completeAll status).2.Keeps base where
  distinct := List.nodup_nil
  outstanding primitive := by
    rw [statusOf_completeAll]
    refine ⟨nofun, fun ⟨since, pending⟩ => ?_⟩
    split at pending
    · exact absurd pending complete
    · next unfinished =>
        exact absurd ⟨(keeps.outstanding primitive).mpr ⟨since, pending⟩, pending⟩ unfinished

theorem run (keeps : stage.Keeps base) (old : base ≤ stage.fences.size) :
    (stage.run command).2.Keeps base := by
  cases stage.effect command with
  | hands count leaves fences hands => exact keeps.hands old hands
  | completes status how run =>
      rw [run]
      exact keeps.completes (completion_ne_pending how)

theorem after (keeps : stage.Keeps base) (old : base ≤ stage.fences.size)
    (commands : List StageCommand) : (stage.after commands).Keeps base := by
  induction commands generalizing stage with
  | nil => exact keeps
  | cons command rest ih =>
      exact ih (keeps.run old) (old.trans (stage.develops_run command).size_le)

/-- A fence whose signal is kept stays pending up to the first completion, which decides. -/
theorem status_after (keeps : stage.Keeps base) (old : base ≤ stage.fences.size) {primitive : Nat}
    (kept : primitive ∈ stage.script.signals) (later : List StageCommand) :
    (stage.after later).fences.statusOf primitive
      = (later.findSome? StageCommand.completion?).getD .pending := by
  induction later generalizing stage with
  | nil => exact ((keeps.outstanding primitive).mp kept).2
  | cons command rest ih =>
      have known := keeps.lt_size kept
      have pending := ((keeps.outstanding primitive).mp kept).2
      cases stage.effect command with
      | hands count leaves fences hands =>
          rw [List.findSome?_cons, leaves]
          refine ih (keeps.hands old hands) (old.trans hands.develops.size_le) ?_
          rw [hands.signals]
          exact List.mem_append_left _ kept
      | completes status how run =>
          rw [List.findSome?_cons, how]
          have completed : (stage.run command).2.fences.statusOf primitive = status := by
            rw [run, statusOf_completeAll, if_pos ⟨kept, pending⟩]
          have known := Nat.lt_of_lt_of_le known (stage.develops_run command).size_le
          exact ((develops_after _ rest).settled known
            (completed ▸ completion_ne_pending how)).trans completed

/-- A completion completes what is pending. -/
theorem status_completes (keeps : stage.Keeps base) (status : FenceStatus) {primitive : Nat}
    (since : base ≤ primitive) :
    (stage.completeAll status).2.fences.statusOf primitive
      = if stage.fences.statusOf primitive = .pending then status
        else stage.fences.statusOf primitive := by
  rw [statusOf_completeAll]
  by_cases pending : stage.fences.statusOf primitive = .pending
  · rw [if_pos pending, if_pos ⟨(keeps.outstanding primitive).mpr ⟨since, pending⟩, pending⟩]
  · rw [if_neg pending, if_neg fun both => pending both.2]

/-- The signals kept are as many as the fences that are pending. -/
theorem length_eq (keeps : stage.Keeps base) {count : Nat} {fences : List Fence}
    (all : fences = (List.range' base count).map Fence.shared)
    (size : stage.fences.size = base + count) :
    stage.script.signals.length
      = fences.countP fun fence => stage.fences.status fence = .pending := by
  have same : stage.script.signals.Perm
      ((List.range' base count).filter fun primitive =>
        stage.fences.statusOf primitive = .pending) := by
    have distinct : (List.range' base count).Nodup := List.nodup_range'
    refine (List.perm_ext_iff_of_nodup keeps.distinct (distinct.filter _)).mpr ?_
    intro primitive
    rw [keeps.outstanding, List.mem_filter, List.mem_range'_1, decide_eq_true_iff]
    refine ⟨fun ⟨since, pending⟩ => ⟨⟨since, ?_⟩, pending⟩, fun ⟨since, pending⟩ =>
      ⟨since.1, pending⟩⟩
    rw [← size]
    exact FenceTable.lt_size_of_pending pending
  rw [same.length_eq, all, List.countP_map, ← List.countP_eq_length_filter]
  rfl

end Keeps

/-- As long as nothing is completed, signals are only added. -/
theorem signals_after (stage : Stage) (commands : List StageCommand)
    (leave : ∀ command ∈ commands, command.completion? = none) :
    (stage.after commands).script.signals.map Fence.shared
      = stage.script.signals.map Fence.shared ++ stage.keptBack commands := by
  induction commands generalizing stage with
  | nil => exact (List.append_nil _).symm
  | cons command rest ih =>
      have none := leave command List.mem_cons_self
      cases stage.effect command with
      | hands count leaves fences hands =>
          rw [after, ih _ fun command among => leave command (List.mem_cons_of_mem _ among),
            keptBack, hands.signals, List.map_append, List.append_assoc, fences]
          cases stage.script.autoSignal <;> rfl
      | completes status how run => cases none.symm.trans how

/-- A completion leaves no signal. -/
theorem signals_of_completes {command : StageCommand} (how : command.completion?.isSome) :
    (stage.run command).2.script.signals = [] := by
  cases stage.effect command with
  | hands count leaves fences hands =>
      rw [leaves] at how
      cases how
  | completes status _ run =>
      rw [run]
      rfl

/-! ## From the start -/

theorem mem_nextFences {table : FenceTable} {count : Nat} {fence : Fence} :
    fence ∈ nextFences table count
      ↔ ∃ primitive, fence = .shared primitive
        ∧ table.size ≤ primitive ∧ primitive < table.size + count := by
  simp only [nextFences, List.mem_map, List.mem_range'_1, eq_comm, and_comm]

theorem nodup_nextFences (table : FenceTable) (count : Nat) : (nextFences table count).Nodup :=
  List.Nodup.map (fun _ _ => Fence.shared.inj) List.nodup_range'

theorem keeps_new (configs : List ConfigShape) (fences : FenceTable) :
    (new configs fences).Keeps fences.size where
  distinct := List.nodup_nil
  outstanding _ := ⟨nofun, fun ⟨since, pending⟩ =>
    absurd (FenceTable.lt_size_of_pending pending) (Nat.not_lt.mpr since)⟩

/-- What becomes of the fences that one command hands out. -/
theorem fate {base : Nat} (keeps : stage.Keeps base) (old : base ≤ stage.fences.size)
    {command : StageCommand} {fence : Fence} (given : fence ∈ (stage.run command).1.fenceList)
    (later : List StageCommand) :
    ((stage.run command).2.after later).fences.status fence
      = if stage.script.autoSignal then .signaled
        else (later.findSome? StageCommand.completion?).getD .pending := by
  cases stage.effect command with
  | hands count leaves fences hands =>
      rw [fences] at given
      obtain ⟨primitive, rfl, new, inside⟩ := mem_nextFences.mp given
      rw [← hands.size] at inside
      have issued := hands.issued primitive new inside
      -- signaled at once, it is settled; else its signal is kept, and waits for a completion
      cases auto : stage.script.autoSignal with
      | true =>
          rw [auto, if_pos rfl] at issued
          exact ((develops_after _ later).settled inside (issued ▸ nofun)).trans issued
      | false =>
          refine (keeps.hands old hands).status_after (old.trans hands.develops.size_le) ?_ later
          rw [hands.signals, auto]
          refine List.mem_append_right _ (List.mem_range'_1.mpr ⟨new, ?_⟩)
          rwa [← hands.size]
  | completes status how run =>
      rw [run] at given
      cases given

theorem run_completes {command : StageCommand} {status : FenceStatus}
    (how : command.completion? = some status) :
    stage.run command
      = (.script (.count stage.script.signals.length), (stage.completeAll status).2) := by
  cases stage.effect command with
  | hands count leaves fences hands => cases leaves.symm.trans how
  | completes other how' run =>
      cases how.symm.trans how'
      exact run

theorem run_commit (frame : Frame) (stage : Stage) :
    (∃ cause, (stage.run (.commit frame)).1 = .failed cause
        ∧ (stage.run (.commit frame)).2.fences = stage.fences)
      ∨ ∃ fences, (stage.run (.commit frame)).1 = .fences fences
        ∧ fences.release.length = stage.owed frame := by
  rcases stage.commit_cases frame with
    ⟨cause, script, -, -, failed⟩ | ⟨fences, next, issued, -, list, -⟩
  · refine .inl ⟨cause, ?_, ?_⟩ <;> simp only [run, failed, answerOf]
  · refine .inr ⟨fences, by simp only [run, issued, answerOf], ?_⟩
    have length := congrArg List.length list
    rw [length_nextFences] at length
    exact Nat.succ_inj.mp length

/-- Nothing is kept at first, nor right after a completion. -/
theorem signals_fresh (configs : List ConfigShape) (fences : FenceTable)
    {commands : List StageCommand}
    (fresh : commands = [] ∨ (commands.getLast?.bind StageCommand.completion?).isSome) :
    ((new configs fences).after commands).script.signals = [] := by
  rcases List.eq_nil_or_concat commands with rfl | ⟨earlier, last, rfl⟩
  · rfl
  · rw [List.concat_eq_append] at fresh ⊢
    rw [List.getLast?_append, List.getLast?_singleton] at fresh
    rw [after_append]
    exact signals_of_completes (fresh.resolve_left (List.append_ne_nil_of_right_ne_nil _ nofun))

/-- The fences of a new scripted backend, after any commands. -/
theorem fences_run (configs : List ConfigShape) (fences : FenceTable)
    (commands : List StageCommand) : (new configs fences).Handles commands := by
  have keeps := (keeps_new configs fences).after le_rfl
  have since (earlier : List StageCommand) :
      fences.size ≤ ((new configs fences).after earlier).fences.size :=
    ((new configs fences).develops_after earlier).size_le
  obtain ⟨count, all, size⟩ := (new configs fences).handedOut_eq commands
  have known {fence : Fence} (given : fence ∈ (new configs fences).handedOut commands) :
      ∃ primitive, fence = .shared primitive ∧ fences.size ≤ primitive
        ∧ primitive < ((new configs fences).after commands).fences.size :=
    size ▸ mem_nextFences.mp (all ▸ given)
  constructor
  case distinct => exact all ▸ nodup_nextFences _ _
  case issued =>
    intro fence given
    obtain ⟨primitive, same, new, -⟩ := known given
    exact ⟨primitive, same, new⟩
  case pending =>
    intro primitive given
    obtain ⟨_, ⟨⟩, new, -⟩ := known given
    rw [(keeps commands).outstanding]
    exact ⟨fun pending => ⟨new, pending⟩, And.right⟩
  case fates =>
    rintro earlier command later rfl fence given
    rw [after_append, after, fate (keeps earlier) (since earlier) given later, autoSignal_after]
    rfl
  case settled =>
    intro fence given complete later
    obtain ⟨primitive, rfl, -, inside⟩ := known given
    rw [after_append]
    exact (develops_after _ later).settled inside complete
  case outstanding =>
    rintro earlier since rfl leave fresh
    have kept := signals_after ((new configs fences).after earlier) since leave
    rw [signals_fresh configs fences fresh] at kept
    rw [after_append, ← List.length_map Fence.shared, kept]
    rfl
  case completes =>
    intro command status how
    rw [run_completes how]
    refine ⟨?_, fun fence given => ?_⟩
    · rw [(keeps commands).length_eq all size]
    · obtain ⟨primitive, rfl, new, -⟩ := known given
      exact (keeps commands).status_completes status new
  case commits =>
    intro frame
    have answer := ((new configs fences).after commands).run_commit frame
    rw [owed, shortRelease_after] at answer
    exact answer

-- the first frame's fence is kept and then abandoned, the second frame's is signaled at once
example : ((new [] {}).after [.commit {}, .script (.autoSignal true), .commit {},
    .script .abandonAll]).fences.statuses = #[.abandoned, .signaled] := rfl

end Stage

end Scanout
