import BenchCheckout.Machine.Scene
import BenchCheckout.Utility.Options
import BenchCheckout.Utility.Quoting

/-!
# What a utility works on

A `Desk` has the machine that a utility runs on, its descriptors and working directory, the words it
was given, and its exit status so far. A utility is a `Step`: it changes the desk.
-/

namespace BenchCheckout.Utility

structure Desk where
  /-- The utility's name, for its complaints. -/
  name : String
  args : List String
  machine : Machine
  descriptors : Descriptors
  cwd : Location
  status : Nat
  /-- Why something could not be printed. -/
  outputFault : Option Fault

abbrev Step (α : Type) := StateM Desk α

namespace Step

def scene : Step Scene := do
  let d ← get
  pure ⟨d.machine.files, d.cwd⟩

/-- What is at a path, and where. -/
def stat (follows : Bool) (path : String) : Step (Except Fault (Location × Entry)) := do
  let s ← scene
  pure (if follows then s.find path else s.findEntry path)

def files : Step FileTree := do return (← get).machine.files

def setFiles (files : FileTree) : Step Unit :=
  modify fun d => { d with machine := d.machine.setFiles files }

def setStatus (status : Nat) : Step Unit := modify ({ · with status })

/-- Write to a descriptor, and tell what stood in the way. -/
def write (fd : Nat) (text : String) : Step (Option Fault) := do
  let d ← get
  if text.isEmpty then pure none
  else match d.descriptors.get? fd with
    | none => pure (some .badDescriptor)
    | some index =>
      match d.machine.write index (Octets.toBytes text) with
      | .ok machine => do
        set { d with machine }
        pure none
      | .error fault => pure (some fault)

def say (text : String) : Step Unit := do
  if let some fault ← write 1 text then
    modify ({ · with outputFault := some fault })

def printError (text : String) : Step Unit := do
  let _ ← write 2 text

/-- A complaint, and a status that tells of it. -/
def complainWith (status : Nat) (text : String) : Step Unit := do
  printError ((← get).name ++ ": " ++ text ++ "\n")
  setStatus status

def complain (text : String) : Step Unit := complainWith 1 text

/-- A complaint about the way a utility was called. -/
def complainUsage (status : Nat) (text : String) : Step Unit := do
  complainWith status text
  printError ("Try '" ++ (← get).name ++ " --help' for more information.\n")

/-- A complaint about something and why it failed. -/
def complainOf (about : String) (fault : Fault) : Step Unit :=
  complain (about ++ ": " ++ fault.summary)

/-- A change of the files, or a complaint about its fault. Whether it succeeded. -/
def change (result : Except Fault FileTree) (about : String) : Step Bool := do
  match result with
  | .ok files => do
    setFiles files
    pure true
  | .error fault => do
    complainOf about fault
    pure false

/-- One step for each item, in order. -/
def forEach {α : Type} (step : α → Step Unit) : List α → Step Unit
  | [] => pure ()
  | a :: as => do
    step a
    forEach step as

/-! ## Reading -/

/-- All that can still be read from a descriptor. -/
def readDescriptor (fd : Nat) : Step (Except Fault String) := do
  let d ← get
  match d.descriptors.get? fd with
  | none => pure (.error .badDescriptor)
  | some index =>
    match d.machine.read index none with
    | .ok (bytes, machine) => do
      set { d with machine }
      pure (.ok (Octets.ofBytes bytes))
    | .error fault => pure (.error fault)

/-- Ask for a yes, which is a line that starts with the letter. -/
def askWith (question : String) : Step Bool := do
  printError question
  let d ← get
  match (d.descriptors.get? 0).bind fun i => ((d.machine.read i none).toOption).map (i, ·) with
  | none => pure false
  | some (index, bytes, machine) => do
    let text := (Octets.ofBytes bytes).toList
    let line := text.takeWhile (· ≠ '\n')
    let rest := Octets.toBytes (String.ofList (text.drop (line.length + 1)))
    set { d with machine := machine.giveBack index rest }
    pure (line.head? == some 'y' || line.head? == some 'Y')

/-- Ask for a yes in the name of the utility. -/
def ask (question : String) : Step Bool := do askWith ((← get).name ++ ": " ++ question ++ "? ")

/-- Open a file for this desk alone. -/
def openFile (path : String) (mode : OpenMode) : Step (Except Fault Nat) := do
  let d ← get
  match d.machine.openPath d.descriptors d.cwd path mode with
  | .ok (index, machine) => do
    set { d with machine }
    pure (.ok index)
  | .error fault => pure (.error fault)

def readOpening (index : Nat) : Step (Except Fault String) := do
  let d ← get
  match d.machine.read index none with
  | .ok (bytes, machine) => do
    set { d with machine }
    pure (.ok (Octets.ofBytes bytes))
  | .error fault => pure (.error fault)

/-- The content of a file. -/
def readFile (path : String) : Step (Except Fault String) := do
  match ← openFile path .forReading with
  | .ok index => readOpening index
  | .error fault => pure (.error fault)

/-- The content of a file, or what can be read where a dash stands for it. -/
def readWord (path : String) : Step (Except Fault String) :=
  if path = "-" then readDescriptor 0 else readFile path

/-! ## Options -/

/-- The options that every utility has. -/
def commonRules : List OptionRule := [.flag "help" [] ["help"], .flag "version" [] ["version"]]

/-- What a utility does with the options it was given, if they are options of it. -/
def withOptions (rules : List OptionRule) (status : Nat) (act : Options → Step Unit) :
    Step Unit := do
  let o := Options.read (rules ++ commonRules) false (← get).args
  match o.flaw with
  | some flaw => complainUsage status flaw
  | none => if o.has "help" || o.has "version" then pure () else act o

end Step

/-- Run a utility to its end. -/
def Desk.run (utility : Step Unit) (d : Desk) : Desk :=
  let step : Step Unit := do
    utility
    if let some fault := (← get).outputFault then
      Step.complainWith (max 1 (← get).status) ("write error: " ++ fault.summary)
  (step.run d).2

/-- The words before the last one, and the last one. -/
def splitLast : List String → Option (List String × String)
  | [] => none
  | [w] => some ([], w)
  | w :: ws => (splitLast ws).map fun (front, last) => (w :: front, last)

end BenchCheckout.Utility
