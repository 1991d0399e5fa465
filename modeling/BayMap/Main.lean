import BayMap.CommandLine.Outcome
import BayMap.Files.Snapshot

/-!
# The command line program

Reads a snapshot of the device tree from standard input, and runs the command line on it. The
problems that passes go on after are printed as errors, unless the log is off.
-/

open BayMap

/-- The variables of the environment that the program reads. -/
def knownVariables : List String :=
  ["SASMAP_SYSFS_ROOT", "SASMAP_BSG_ROOT", "SASMAP_DEV_ROOT", "SASMAP_LOG"]

/-- Runs the command line. -/
def main (words : List String) : IO UInt32 := do
  let known ← knownVariables.filterMapM fun name => do
    return (← IO.getEnv name).map fun value => (name, value)
  let environment := fun name => List.lookup name known
  let snapshot ← (← IO.getStdin).readToEnd
  let outcome := CommandLine.runOnFiles (Files.Snapshot.read snapshot) environment words
  let errors ← IO.getStderr
  if environment "SASMAP_LOG" ≠ some "off" then
    for problem in outcome.log do
      errors.putStrLn problem.text
  errors.putStr outcome.complaint
  (← IO.getStdout).putStr outcome.output
  return .ofNat outcome.exitCode
