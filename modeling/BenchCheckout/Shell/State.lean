import BenchCheckout.Process
import BenchCheckout.Shell.Number
import BenchCheckout.Shell.Script
import BenchCheckout.Machine.Scene

/-!
# The state of a running shell

A `Turn` is a step of a shell: it changes the shell's state, and it may leave the commands around it
by a `Leap`. A loop or a function is left otherwise: the state notes what is to be skipped, and the
commands that follow do nothing.
-/

namespace BenchCheckout.Shell

/-- Why the commands around a step are left. -/
inductive Leap where
  /-- A fault, which ends the shell unless a command stands for it. -/
  | fault
  /-- The end of what the shell was to do. -/
  | ended
  /-- The end that a script asked for. -/
  | exit
  | killed (signal : Nat)
  /-- Another program took the place of the shell, and ended. -/
  | replaced
deriving DecidableEq, Repr

/-- What is passed over until it ends. -/
inductive Skip where
  | nothing
  | loop
  | round
  | function
  /-- As `function`, with the status of the last command. -/
  | functionAsIs
deriving DecidableEq, Repr

structure Variable where
  value : Option String
  exported : Bool
  readOnly : Bool
deriving Repr

/-- A command that is not waited for. It is run at once. -/
structure Errand where
  process : Nat
  outcome : ExitStatus
  /-- The shell has taken note of its end. -/
  isNoted : Bool
  /-- Its outcome has been asked for. -/
  isTold : Bool

/-- A function, and where it starts. -/
structure Function where
  line : Nat
  body : Command

structure State where
  machine : Machine
  descriptors : Descriptors
  cwd : Location
  /-- The working directory as it was asked for. -/
  path : String
  /-- The working directory without links. -/
  realPath : String
  bindings : List (String × Variable)
  /-- The name that the shell was started with, and its arguments. -/
  name : String
  args : List String
  /-- The next argument that `getopts` reads, and how far it has read it. -/
  optionIndex : Nat
  optionOffset : Option Nat
  functions : List (String × Function)
  aliases : List (String × String)
  /-- The programs that were found in the search path, in the order in which that was. -/
  hashed : List String
  documents : Array Word
  /-- The letters of the options that are on. -/
  options : List Char
  status : Nat
  /-- The status that comes back when a trap ends. -/
  savedStatus : Option Nat
  /-- The status of the last command whose output was put in a word. -/
  outputStatus : Nat
  skip : Skip
  skipCount : Nat
  loopDepth : Nat
  /-- The line on which the function being run starts, if there is one. -/
  functionLine : Nat
  line : Nat
  errorLine : Nat
  /-- The lines up to which the sources that are open have been read, the innermost one first. -/
  readLines : List Nat
  /-- The built-in command that is being run. -/
  command : Option String
  /-- For each command being run, the variables that are its own, as they were before. -/
  hidden : List (List (String × Option Variable))
  /-- For each command being run, the descriptors that it redirected, as they were before. -/
  displaced : List (List (Nat × Option Nat))
  traps : List (Nat × String)
  pendingTraps : List Nat
  /-- The process of the script, and the one that runs now. -/
  mainProcess : Nat
  process : Nat
  parents : List Nat
  parentProcess : Nat
  lastBackground : Option Nat
  errands : List Errand
  /-- Nobody waits for this process. -/
  isBackground : Bool
  isSubshell : Bool
  /-- A trace is being written. -/
  isTracing : Bool
  /-- What a built-in command has printed so far. -/
  printed : String
  /-- The permissions that new files do not get. -/
  mask : Nat

abbrev Turn (α : Type) := ExceptT Leap (StateM State) α

namespace State

def scene (s : State) : Scene := ⟨s.machine.files, s.cwd⟩

def has (s : State) (option : Char) : Bool := option ∈ s.options

/-! ## Variables -/

def named? (s : State) (name : String) : Option Variable :=
  (s.bindings.find? (·.1 == name)).map (·.2)

def setVariable (s : State) (name : String) (v : Option Variable) : State :=
  let others := s.bindings.filter (·.1 != name)
  { s with bindings := match v with
      | some v => (name, v) :: others
      | none => others }

def value? (s : State) (name : String) : Option String :=
  if name = "LINENO" then some s.line.repr else (s.named? name).bind (·.value)

/-- Variables that are there even if they have no value. -/
def lastingNames : List String := ["IFS", "MAIL", "MAILPATH", "OPTIND", "PATH", "PS1", "PS2", "PS4"]

/-- The variables that a program gets. -/
def environment (s : State) : List (String × String) :=
  s.bindings.filterMap fun (n, v) => if v.exported then v.value.map (n, ·) else none

/-- The characters that separate fields. -/
def separators (s : State) : List Char := ((s.value? "IFS").getD " \t\n").toList

/-! ## Printing -/

/-- Write to a descriptor, and tell whether that was possible. -/
def write (s : State) (fd : Nat) (text : String) : Bool × State :=
  match s.descriptors.get? fd with
  | none => (text.isEmpty, s)
  | some index =>
    match s.machine.write index (Octets.toBytes text) with
    | .ok machine => (true, { s with machine })
    | .error _ => (text.isEmpty, s)

/-! ## Starting -/

def defaultPath : String := "/usr/local/sbin:/usr/local/bin:/usr/sbin:/usr/bin:/sbin:/bin"

/-- The variables of a shell that has not got any from its environment. -/
def firstVariables : List (String × Variable) :=
  [("PATH", ⟨some defaultPath, false, false⟩), ("PS1", ⟨some "# ", false, false⟩),
    ("PS2", ⟨some "> ", false, false⟩), ("PS4", ⟨some "+ ", false, false⟩)]

/-- A shell that has not read anything yet. -/
def fresh (machine : Machine) (descriptors : Descriptors) (cwd : Location)
    (environment : List (String × String)) (ignored : List Nat) (mask process : Nat)
    (parents : List Nat) : State :=
  let start : State :=
    { machine, descriptors, cwd
      path := Octets.ofText cwd.text
      realPath := Octets.ofText cwd.text
      bindings := firstVariables
      name := "sh"
      args := []
      optionIndex := 1
      optionOffset := none
      functions := []
      aliases := []
      hashed := []
      documents := #[]
      options := []
      status := 0
      savedStatus := none
      outputStatus := 0
      skip := .nothing
      skipCount := 0
      loopDepth := 0
      functionLine := 0
      line := 0
      errorLine := 0
      readLines := [1]
      command := none
      hidden := []
      displaced := []
      traps := ignored.map (·, "")
      pendingTraps := []
      mainProcess := process
      process := process
      parents := parents
      parentProcess := parents.headD 1
      lastBackground := none
      errands := []
      isBackground := false
      isSubshell := false
      isTracing := false
      printed := ""
      mask := mask }
  let named := environment.filter fun (n, _) => isName n.toList
  let s := named.reverse.foldl
    (fun s (n, v) => s.setVariable n (some ⟨some v, true, false⟩)) start
  let s := s.setVariable "IFS" (some ⟨some " \t\n", false, false⟩)
  let s := s.setVariable "OPTIND" (some ⟨some "1", false, false⟩)
  let s := s.setVariable "PPID" (some ⟨some s.parentProcess.repr, false, false⟩)
  let path := match s.value? "PWD" with
    | some p =>
      if p.startsWith "/" ∧ (s.scene.locate p).toOption = some cwd then p else s.realPath
    | none => s.realPath
  { s with path }.setVariable "PWD" (some ⟨some path, true, false⟩)

end State

namespace Turn

def setStatus (status : Nat) : Turn Unit := modify ({ · with status })

/-- Print to the output of a built-in command. -/
def print (text : String) : Turn Unit := modify fun s => { s with printed := s.printed ++ text }

/-- Print to the errors at once. -/
def printError (text : String) : Turn Unit := modify fun s => (s.write 2 text).2

/-- What is printed so far goes to the output; whether that was possible. -/
def flush : Turn Bool := do
  let s ← get
  if s.printed.isEmpty then pure true
  else
    let (isWritten, s) := { s with printed := "" }.write 1 s.printed
    set s
    pure isWritten

/-- A complaint of the shell. -/
def warn (text : String) : Turn Unit := do
  let s ← get
  let command := match s.command with
    | some c => c ++ ": "
    | none => ""
  printError (s.name ++ ": " ++ s.errorLine.repr ++ ": " ++ command ++ text ++ "\n")

/-- A complaint, and a leap that ends the command or the shell. -/
def fault {α : Type} (text : String) : Turn α := do
  setStatus 2
  warn text
  let _ ← flush
  throw .fault

/-- The outcome of a step, which does not leave the commands around it. -/
def caught {α : Type} (t : Turn α) : Turn (Except Leap α) := fun s =>
  let (r, s) := t s
  (.ok r, s)

/-- Go on with the outcome of a step. -/
def resume {α : Type} : Except Leap α → Turn α
  | .ok a => pure a
  | .error leap => throw leap

/-- Each of the items in turn. -/
def eachOf {α : Type} (step : α → Turn Unit) : List α → Turn Unit
  | [] => pure ()
  | a :: as => do
    step a
    eachOf step as

/-! ## Variables -/

/-- What has to follow a change of a variable. -/
def noteChange (name : String) (value : Option String) : Turn Unit :=
  if name = "PATH" then modify ({ · with hashed := [] })
  else if name = "OPTIND" then
    modify fun s =>
      let n := ((Number.read false (value.getD "").toList).value).toNat
      { s with optionIndex := if n = 0 then 1 else n, optionOffset := none }
  else pure ()

/-- Give a variable a value, or take it away. It gets the marks that are asked for, and keeps those
that it has. -/
def assignMarked (name : String) (value : Option String) (exported readOnly : Bool) :
    Turn Unit := do
  let s ← get
  let old := s.named? name
  if (old.map (·.readOnly)).getD false then fault (name ++ ": is read only")
  else
    let isNew := exported || s.has 'a'
    match value with
    | none =>
      if isNew ∨ readOnly ∨ name ∈ State.lastingNames then
        set (s.setVariable name (some ⟨none, isNew, readOnly⟩))
      else set (s.setVariable name none)
    | some v =>
      let wasExported := (old.map (·.exported)).getD false
      set (s.setVariable name (some ⟨some v, isNew || wasExported, readOnly⟩))
    noteChange name value

def assign (name value : String) : Turn Unit := assignMarked name (some value) false false

/-- Give a value to a variable whose name may be none. -/
def assignNamed (name : String) (value : Option String) (exported readOnly : Bool) : Turn Unit :=
  if isName name.toList then assignMarked name value exported readOnly
  else fault (name ++ ": bad variable name")

/-- Note what a variable was, so that it comes back when the function ends. -/
def hide (name : String) : Turn Unit := modify fun s =>
  match s.hidden with
  | frame :: frames => { s with hidden := ((name, s.named? name) :: frame) :: frames }
  | [] => s

/-- The variables as they were before a command. -/
def restoreFrame (frame : List (String × Option Variable)) : Turn Unit :=
  eachOf (fun (name, old) => do
    if name = "-" then
      modify ({ · with options := ((old.bind (·.value)).getD "").toList })
    else
      modify (·.setVariable name old)
      noteChange name (old.bind (·.value))) frame

/-- A step that may have a frame of hidden variables of its own. They stay hidden if the step is
left by a leap; a step around it brings them back then. -/
def withFrame {α : Type} (isOwn : Bool) (t : Turn α) : Turn α := do
  let depth := (← get).hidden.length
  if isOwn then modify fun s => { s with hidden := [] :: s.hidden }
  let a ← t
  let s ← get
  let extra := s.hidden.length - depth
  set { s with hidden := s.hidden.drop extra }
  eachOf restoreFrame (s.hidden.take extra)
  pure a

/-! ## Descriptors -/

/-- The descriptors as they were before a command. -/
def restoreDescriptors (saved : List (Nat × Option Nat)) : Turn Unit := modify fun s =>
  { s with descriptors := saved.foldl (fun ds (fd, old) => ds.set fd old) s.descriptors }

/-- A step that redirects some descriptors, and a step behind it. The descriptors come back unless
one of the steps is left by a leap, or the second one says that they stay. -/
def withDescriptors {α : Type} (fds : List Nat) (t : Turn (α × Bool)) : Turn α := do
  let s ← get
  let depth := s.displaced.length
  set { s with displaced := (fds.eraseDups.map fun fd => (fd, s.descriptors.get? fd)) :: s.displaced }
  let (a, stay) ← t
  let s ← get
  let extra := s.displaced.length - depth
  set { s with displaced := s.displaced.drop extra }
  eachOf restoreDescriptors ((s.displaced.take extra).take (if stay then extra - 1 else extra))
  pure a

/-! ## Processes -/

/-- The process that the machine counts next. -/
def newProcess : Turn Nat := do
  let s ← get
  let n := s.machine.nextProcess
  set { s with machine := { s.machine with nextProcess := n + 1 } }
  pure n

end Turn

end BenchCheckout.Shell
