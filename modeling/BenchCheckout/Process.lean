import BenchCheckout.Files.Fault
import BenchCheckout.Files.Tree

/-!
# Child processes

A `Job` is a program to start with its arguments and its working directory. What comes of it is a
`Run`: it is not started, or it ends with a status; either way it leaves a file tree and what it
printed.
-/

namespace BenchCheckout

/-- How a process ended. -/
inductive ExitStatus where
  | exited (code : UInt8)
  | killed (signal : Nat)
deriving DecidableEq, Repr

namespace ExitStatus

/-- The names of the signals from 1 on. -/
def signalNames : List String :=
  ["HUP", "INT", "QUIT", "ILL", "TRAP", "ABRT", "BUS", "FPE", "KILL", "USR1", "SEGV", "USR2",
    "PIPE", "ALRM", "TERM", "STKFLT", "CHLD", "CONT", "STOP", "TSTP", "TTIN", "TTOU", "URG", "XCPU",
    "XFSZ", "VTALRM", "PROF", "WINCH", "IO", "PWR", "SYS"]

def signalName? (signal : Nat) : Option String :=
  if signal = 0 then none else signalNames[signal - 1]?

/-- What the signals from 1 on are called in full. -/
def signalTexts : List String :=
  ["Hangup", "Interrupt", "Quit", "Illegal instruction", "Trace/breakpoint trap", "Aborted",
    "Bus error", "Floating point exception", "Killed", "User defined signal 1",
    "Segmentation fault", "User defined signal 2", "Broken pipe", "Alarm clock", "Terminated",
    "Stack fault", "Child exited", "Continued", "Stopped (signal)", "Stopped",
    "Stopped (tty input)", "Stopped (tty output)", "Urgent I/O condition",
    "CPU time limit exceeded", "File size limit exceeded", "Virtual timer expired",
    "Profiling timer expired", "Window changed", "I/O possible", "Power failure",
    "Bad system call"]

def signalText (signal : Nat) : String :=
  match signal with
  | 0 => "Unknown signal 0"
  | n + 1 =>
    match signalTexts[n]? with
    | some text => text
    | none =>
      if 34 ≤ signal then "Real-time signal " ++ (signal - 34).repr
      else "Unknown signal " ++ signal.repr

/-- The number that a shell has for an end. -/
def code : ExitStatus → Nat
  | exited code => code.toNat
  | killed signal => 128 + signal

/-- What a shell says about the end of a process: nothing but for most signals. -/
def notice : ExitStatus → String
  | exited _ => ""
  | killed signal => if signal = 2 ∨ signal = 13 then "" else signalText signal ++ "\n"

def isSuccess (s : ExitStatus) : Bool := s == exited 0

def text : ExitStatus → String
  | exited code => "exit status: " ++ code.toNat.repr
  | killed signal =>
    "signal: " ++ signal.repr ++
      (match signalName? signal with
        | some n => " (SIG" ++ n ++ ")"
        | none => "")

end ExitStatus

/-- A program to start. One whose name has a slash is looked up from `cwd`. -/
structure Job where
  program : String
  args : List String
  /-- As it is written; it is looked up from the starting process's directory. -/
  cwd : String
deriving DecidableEq, Repr

/-- What came of a job. -/
structure Run where
  outcome : Except Fault ExitStatus
  files : FileTree
  output : String
  errors : String

end BenchCheckout
