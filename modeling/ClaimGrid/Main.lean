import ClaimGrid.Settings.Load
import ClaimGrid.Soak.Report

/-!
# The soak command

`soak [settings] [walkers] [seconds]` runs a soak session on the world of a settings file.

## Main definitions

* `Command.soak`: the session that the arguments ask for.
* `main`: the command.
-/

namespace ClaimGrid.Command

/-- The content of a file, or why there is none. -/
def readContent (path : String) : IO FileContent := do
  try return .bytes (← IO.FS.readBinFile path)
  catch e =>
    match e with
    | .noFileOrDirectory .. => return .missing
    | .inappropriateType .. => return .directory
    | _ => return .failed (toString e)

/-- The settings of the file that the first argument names, or the default ones. -/
def loadSettings : List String → IO (Except SettingsError WorldSettings)
  | [] => return .ok {}
  | path :: _ => return WorldSettings.ofFile path (← readContent path)

/-- The session after rounds until the time is up. -/
partial def roundsUntil (deadline : Nat) (s : Soak) : IO Soak := do
  if deadline ≤ (← IO.monoNanosNow) then return s
  else roundsUntil deadline s.round

/-- Writes why the command failed. -/
def fail (message : String) : IO UInt32 := do
  IO.eprint (Soak.fatal message)
  return 1

/-- Runs the session that the arguments ask for, and writes what it came to. -/
def soak (arguments : List String) : IO UInt32 := do
  match ← loadSettings arguments with
  | .error e => fail e.message
  | .ok settings =>
    let plan := Soak.planOf settings (arguments.drop 1)
    IO.print plan.opening
    match Soak.begin plan with
    | .error e => fail e.message
    | .ok session =>
      let started ← IO.monoNanosNow
      let session ← roundsUntil (started + plan.seconds * 1000000000) session
      let closing := session.finish.closing ((← IO.monoNanosNow) - started)
      IO.print closing.output
      IO.eprint closing.failures
      return closing.code

end ClaimGrid.Command

def main (arguments : List String) : IO UInt32 := ClaimGrid.Command.soak arguments
