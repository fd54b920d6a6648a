import Sensing.Demo.Run

/-!
# The demonstration's command line

Collects the surroundings, lets the devices make rounds until the time is up, and prints.
-/

namespace Sensing.Demo

/-- The environment variables that settings depend on. -/
def settingNames : List String :=
  [Settings.pathVariable, Settings.limitVariable, Settings.capacityVariable,
    Settings.ticksVariable, Settings.frequencyVariable]

/-- Reads the variables, and the file that one of them names. -/
def surroundings : IO Surroundings := do
  let found ← settingNames.filterMapM fun name => do
    return (← IO.getEnv name).map fun value => (name, value.toUTF8.toList)
  let path := (← IO.getEnv Settings.pathVariable).getD ""
  let content ← try
      let bytes ← IO.FS.readBinFile path
      pure (some bytes.toList)
    catch _ => pure none
  return {
    environment? := fun name => (found.find? fun v => v.1 == name).map (·.2)
    file? := fun name => if name == path then content else none }

/-- Prints log lines. -/
def printLog (lines : List LogLine) : IO Unit := lines.forM fun l => IO.eprintln l.text

/-- Prints what there is left to say, and gives the exit code. -/
def conclude (printed : Nat) (ending : Ending) : IO UInt32 := do
  printLog (ending.log.drop printed)
  if let some cause := ending.failure then
    IO.eprintln (Ending.failureText cause)
  return ending.exitCode.toUInt32

end Sensing.Demo

open Sensing in
/-- Runs the demonstration. -/
def main (args : List String) : IO UInt32 := do
  match Demo.launch args (← Demo.surroundings) with
  | .error ending => Demo.conclude 0 ending
  | .ok stage =>
    let opened := Demo.generalLines stage.log
    Demo.printLog opened
    let start ← IO.monoMsNow
    let mut stage := stage
    for _ in [0:stage.options.seconds * stage.options.fps.toNat] do
      if stage.options.seconds * 1000 ≤ (← IO.monoMsNow) - start then break
      stage := stage.nextRound
      IO.sleep (1000 / stage.options.fps)
    let left := stage.options.seconds * 1000 - ((← IO.monoMsNow) - start)
    IO.sleep left.toUInt32
    Demo.conclude opened.length (Demo.finish stage)
