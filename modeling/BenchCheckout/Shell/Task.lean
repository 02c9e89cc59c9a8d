import BenchCheckout.Shell.Builtin.Table
import BenchCheckout.Shell.Redirect
import BenchCheckout.Utility.Table

/-!
# Tasks and processes

A `Task` is something that a shell has to do. What tasks have in common takes the function that does
a task as an argument, so that it can be said before that function: processes of their own, the end
of a shell with its trap, and programs.
-/

namespace BenchCheckout.Shell

/-- How the lines of a source are run. -/
structure Manners where
  /-- The source is a file, which `return` leaves. -/
  isFile : Bool
  /-- The status of the source is tested by a command around it. -/
  isTested : Bool
  /-- The shell has nothing else to do. -/
  isLast : Bool

inductive Task where
  /-- A command; `isLast`: the shell ends with it. -/
  | command (c : Command) (isTested isLast : Bool)
  /-- The rounds of a loop that are left, and the status of the last one. -/
  | rounds (success : Bool) (condition body : Command) (isTested : Bool) (status : Nat)
  /-- The lines of a source that are left, and the status of the last one. -/
  | lines (source : Source) (manners : Manners) (status : Nat)
  /-- A shell by its name and its arguments. -/
  | shell (name : String) (args : List String)

/-- The function that does a task and tells its status. -/
abbrev Doing := Task → Turn Nat

namespace Turn

/-- The lines of a text. -/
def linesOf (text : String) (manners : Manners) : Turn Task := do
  let s ← get
  return .lines (.ofText text.toList s.aliases s.documents) manners 0

/-! ## The end of a shell -/

/-- What is forgotten when commands have been left by a leap. A status that is kept comes back after
`exit`, and after a trap. -/
def settle (isExit : Bool) : Turn Unit := modify fun s =>
  let status := match s.savedStatus with
    | some n => if isExit || s.skip == .functionAsIs then n else s.status
    | none => s.status
  { s with status, savedStatus := none, skip := .nothing, loopDepth := 0, isTracing := false }

def exited : Turn ExitStatus := do
  let _ ← flush
  return .exited (UInt8.ofNat (← get).status)

variable (run : Doing)

/-- Run the lines of a text that is none of the shell's own files. -/
def runLines (text : String) (manners : Manners) : Turn Nat := do
  let lines ← linesOf text manners
  let readLines := (← get).readLines
  modify ({ · with readLines := 1 :: readLines })
  let status ← run lines
  modify ({ · with readLines })
  pure status

/-- End a shell: the trap for that runs first. -/
def leave : Turn ExitStatus := do
  let s ← get
  set { s with savedStatus := some s.status }
  match s.traps.find? (·.1 == 0) with
  | none => exited
  | some (_, action) => do
    modify fun s => { s with traps := s.traps.filter (·.1 ≠ 0), skip := .nothing }
    match ← caught (runLines run action ⟨false, false, false⟩) with
    | .ok _ => do
      modify ({ · with skip := .functionAsIs })
      settle false
      exited
    | .error (.killed signal) => pure (.killed signal)
    | .error .replaced => exited
    | .error leap => do
      settle (leap = .exit)
      exited

/-- The end of a shell that has done what it had to do, or has left it by a leap. -/
def finish : Except Leap Nat → Turn ExitStatus
  | .ok _ => leave run
  | .error (.killed signal) => pure (.killed signal)
  | .error .replaced => exited
  | .error leap => do
    settle (leap = .exit)
    leave run

/-! ## Processes -/

/-- Note that a process is started: one that was told of is forgotten. -/
def noteStart : Turn Unit := modify fun s =>
  { s with errands := match s.errands.findIdx? (·.isTold) with
      | some i => s.errands.eraseIdx i
      | none => s.errands }

/-- Note that all processes have ended. -/
def noteEnds : Turn Unit := modify fun s =>
  { s with errands := s.errands.map ({ · with isNoted := true }) }

/-- Take the signals that were sent to this process. -/
def takeSignals : Turn Unit := do
  let s ← get
  let (mine, others) := s.machine.signals.partition (·.1 == s.process)
  set { s with machine := { s.machine with signals := others } }
  eachOf (fun (_, signal) => Builtin.receive signal) mine

/-- Run a step as a process of its own, which starts as a copy of this shell. -/
def fork (isBackground : Bool) (t : Turn Nat) : Turn (Nat × ExitStatus) := do
  noteStart
  let process ← newProcess
  let s ← get
  let child : State := { s with
    process, parents := s.process :: s.parents
    readLines := s.readLines.drop (s.readLines.length - 1)
    traps := s.traps.filter (·.2 == "")
    pendingTraps := [], errands := [], displaced := []
    isBackground := s.isBackground || isBackground }
  let whole : Turn ExitStatus := do finish run (← caught t)
  let (r, after) := whole child
  set { s with machine := after.machine }
  let outcome := match r with
    | .ok outcome => outcome
    | .error _ => .killed 9
  takeSignals
  pure (process, outcome)

/-- Wait for a process: its status, and what is to be said about its end. -/
def await (outcome : ExitStatus) : Turn Nat := do
  noteEnds
  printError outcome.notice
  pure outcome.code

/-- What a command prints, without the line feeds at its end. -/
def output (script : Command) : Turn String := do
  if let .nothing := script then pure ""
  else
    let s ← get
    let ((source, sink), machine) := s.machine.openPipe .empty
    set { s with machine }
    let (_, outcome) ← fork run false do
      direct 1 (some sink)
      run (.command script false true)
    let s ← get
    let (bytes, machine) := ((s.machine.read source none).toOption).getD (.empty, s.machine)
    set { s with machine }
    let status ← await outcome
    modify ({ · with outputStatus := status })
    let text := (Octets.ofBytes bytes).toList.filter (· ≠ '\x00')
    pure (String.ofList (text.reverse.dropWhile (· = '\n')).reverse)

/-! ## Programs -/

/-- Bytes that no script starts with. -/
def isStrange (c : Char) : Bool :=
  let n := c.toNat
  n ≤ 8 || (0x10 ≤ n && n ≤ 0x1a) || (0x1c ≤ n && n ≤ 0x1f) || n == 0x7f

/-- A file is not taken for a script: there is a strange byte in its first line. -/
def isBinary (scene : Scene) (path : String) : Bool :=
  match scene.read path with
  | .ok text => (((text.toList.take 128).takeWhile (· ≠ '\n')).any isStrange)
  | .error _ => false

/-- Where the shell itself is. -/
def shellPath : String := "/bin/sh"

/-- The program at a path. A file that is none is a script of the shell. -/
def programAt (scene : Scene) (path name : String) (args : List String) : Except Fault Program :=
  match scene.program path name args with
  | .error .notExecutableFormat =>
    if isBinary scene path then .error .notExecutableFormat
    else scene.program shellPath shellPath (path :: args)
  | r => r

/-- The first program of a name in the directories that can be started, or why there is none. -/
def programIn (scene : Scene) (name : String) (args : List String) :
    List String → Fault → Except Fault Program
  | [], why => .error why
  | dir :: dirs, why =>
    match programAt scene (SearchPath.inside dir name) name args with
    | .ok p => .ok p
    | .error .noEntry | .error .notDirectory => programIn scene name args dirs why
    | .error f => programIn scene name args dirs f

def programNamed (scene : Scene) (dirs name : String) (args : List String) : Except Fault Program :=
  if '/' ∈ name.toList then programAt scene name name args
  else programIn scene name args (SearchPath.dirs dirs) .noEntry

/-- The status of a shell that could not start a program. -/
def startStatus (why : Fault) : Nat :=
  if why ∈ [.noEntry, .notDirectory, .nameTooLong, .tooManyLinks] then 127 else 126

/-- Run a program with the files, the descriptors and the exported variables of this shell. -/
def runProgram (p : Program) : Turn ExitStatus := do
  let s ← get
  match p.utility with
  | some utility =>
    let desk := Utility.run utility ⟨p.name, p.args, s.machine, s.descriptors, s.cwd, 0, none⟩
    set { s with machine := desk.machine }
    pure (.exited (UInt8.ofNat desk.status))
  | none =>
    let ignored := (s.traps.filter (·.2 == "")).map (·.1)
    let fresh :=
      State.fresh s.machine s.descriptors s.cwd s.environment ignored s.mask s.process s.parents
    let (r, after) := run (.shell p.name p.args) fresh
    set { s with machine := after.machine }
    match r with
    | .ok status => pure (.exited (UInt8.ofNat status))
    | .error (.killed signal) => pure (.killed signal)
    | .error _ => pure (.exited 2)

/-- Let a program take the place of the shell. -/
def become {α : Type} (dirs name : String) (args : List String) : Turn α := do
  match programNamed (← get).scene dirs name args with
  | .ok p =>
    match ← runProgram run p with
    | .exited code => do
      setStatus code.toNat
      throw .replaced
    | .killed signal => throw (.killed signal)
  | .error why => do
    setStatus (startStatus why)
    warn (name ++ ": " ++ Builtin.startFault why)
    throw .ended

end Turn

end BenchCheckout.Shell
