import BenchCheckout.Command
import BenchCheckout.Shell.Launch

/-!
# The command line

Runs the program on a machine of its own in memory, with the utilities that build scripts use, and
prints what it has to say.
-/

open BenchCheckout

/-- The working directory on the machine in memory. -/
def workDir : Location := ["root"]

/-- What programs find in their environment there. -/
def machineEnv : List (String × String) :=
  [("HOME", "/root"), ("PATH", "/usr/local/bin:/usr/bin:/bin")]

def main (words : List String) : IO UInt32 := do
  let env (name : String) : Option String := (machineEnv.find? (·.1 == name)).map (·.2)
  let host := Host.ofEnvironment workDir env (Shell.launch machineEnv workDir) ""
  let (status, w) := runWords words host (.ofFiles Shell.machine)
  (← IO.getStdout).putStr w.output
  (← IO.getStderr).putStr w.errors
  return status.toUInt32
