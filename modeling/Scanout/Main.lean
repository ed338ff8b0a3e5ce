import Scanout.FrameLoop.Run

/-!
# The program

Reads the file of the settings, runs the frame loop and prints its report.
-/

set_option autoImplicit false

namespace Scanout.FrameLoop

/-- What is found under a path. What cannot be reached counts as missing; what is there but cannot be
read is no file. -/
def findFile (path : String) : IO Settings.Place := do
  match ← (IO.FS.Handle.mk path .read).toBaseIO with
  | .error (.permissionDenied _ _ _) => return .directory
  | .error _ => return .missing
  | .ok handle =>
    match ← handle.readBinToEnd.toBaseIO with
    | .ok bytes => return .file bytes
    | .error _ => return .directory

def settingsPath (arguments : List String) : String :=
  match Request.ofArguments arguments with
  | .ok (.run options) => options.config
  | _ => ""

end Scanout.FrameLoop

open Scanout

def main (arguments : List String) : IO UInt32 := do
  let place ← FrameLoop.findFile (FrameLoop.settingsPath arguments)
  let now ← IO.monoNanosNow
  let ending := FrameLoop.run arguments (fun _ => place) ⟨UInt64.ofNat now⟩
  (← IO.getStderr).putStr ending.diagnostics
  (← IO.getStdout).putStr ending.output
  return ending.status
