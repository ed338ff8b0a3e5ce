import Scanout.Backend.Scripted

/-!
# Rehearsals

The scripted backend by itself, without a display: every call of a backend and every command to its
script, one after the other.
-/

set_option autoImplicit false

namespace Scanout

inductive StageCommand where
  | listConfigs
  | prepare (frame : Frame)
  | commit (frame : Frame)
  | setActiveConfig (index : Nat)
  | setPowerMode (mode : PowerMode)
  | script (command : ScriptCommand)

inductive StageAnswer where
  | failed (cause : BackendError)
  | count (configs : Nat)
  | decisions (decisions : List Decision)
  | fences (fences : CommitFences)
  | done
  | script (answer : ScriptAnswer)

namespace Stage

def answerOf {α : Type} (tell : α → StageAnswer) : Except BackendError α → StageAnswer
  | .error cause => .failed cause
  | .ok value => tell value

def run (stage : Stage) : StageCommand → StageAnswer × Stage
  | .listConfigs =>
    let (result, after) := stage.displayConfigs
    (answerOf (fun shapes => .count shapes.length) result, after)
  | .prepare frame =>
    let (result, after) := stage.prepare frame
    (answerOf .decisions result, after)
  | .commit frame =>
    let (result, after) := stage.commit frame
    (answerOf .fences result, after)
  | .setActiveConfig index =>
    let (result, after) := stage.setActiveConfig index
    (answerOf (fun _ => .done) result, after)
  | .setPowerMode mode =>
    let (result, after) := stage.setPowerMode mode
    (answerOf (fun _ => .done) result, after)
  | .script command =>
    let (answer, after) := command.run stage
    (.script answer, after)

/-- Runs commands one after the other. Each answer comes with the stage after it. -/
def runAll (stage : Stage) : List StageCommand → List (StageAnswer × Stage)
  | [] => []
  | command :: rest =>
    let (answer, after) := stage.run command
    (answer, after) :: after.runAll rest

end Stage

end Scanout
