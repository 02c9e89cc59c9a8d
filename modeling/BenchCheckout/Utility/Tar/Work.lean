import BenchCheckout.Utility.Names
import BenchCheckout.Utility.Tar.Request

/-!
# The work on an archive

`Work` is what the archiver does once it knows what is asked for. It goes on after most complaints,
and ends at once at a fatal one. `Trip` is what it has to remember on its way through an archive.
-/

namespace BenchCheckout.Utility.Tar

/-- A link that leads out of the directory that things are extracted into. It is made at the end; an
empty file is in its place till then. -/
structure Delayed where
  target : String
  isSymbolic : Bool
  /-- The number of the file in its place. -/
  number : Nat
  cwd : Location
  name : String

/-- Where names are listed. -/
inductive Channel where
  | output
  | errors
  | opening (index : Nat)
deriving DecidableEq, Repr

structure Trip where
  /-- The directory that the work started in. -/
  home : Location
  channel : Channel
  /-- What was removed from the front of names, or of targets of hard links. -/
  removed : List (Bool × String)
  delayed : List Delayed
  /-- The operands that were found, by their position. -/
  found : List Nat
  /-- The width of the owner, the group and the size of members that were listed. -/
  width : Nat
  saidContiguous : Bool

namespace Trip

def start (home : Location) (channel : Channel) : Trip where
  home := home
  channel := channel
  removed := []
  delayed := []
  found := []
  width := 18
  saidContiguous := false

end Trip

/-- How the work ends early. -/
inductive Ending where
  /-- Nothing more can be done, which is said at last. -/
  | fatal
  /-- All has been said. -/
  | silent
deriving DecidableEq, Repr

abbrev Work (α : Type) := ExceptT Ending (StateT Trip Step) α

namespace Work

open Step

/-! ## Messages -/

/-- A name in a list. -/
def escaped (name : String) : String :=
  String.ofList (name.toList.flatMap fun c =>
    if c = '\\' then ['\\', '\\'] else (Quoting.escape? c).getD [c])

/-- A name in front of a colon. -/
def shown (name : String) : String :=
  String.ofList ((escaped name).toList.flatMap fun c => if c = ':' then ['\\', ':'] else [c])

def warn (text : String) : Work Unit := do
  let d ← (get : Step Desk)
  printError (d.name ++ ": " ++ text ++ "\n")

def complain (text : String) : Work Unit := complainWith 2 text

/-- Something cannot be done with a file. -/
def cannot (name what : String) (fault : Fault) : Work Unit :=
  complain (shown name ++ ": Cannot " ++ what ++ ": " ++ fault.summary)

/-- Complain, and end. -/
def fatal {α : Type} (text : String) : Work α := do
  complain text
  throw .fatal

/-- A process that was started for the archive, or by one that was. -/
inductive Helper where
  | child
  | grandchild
deriving DecidableEq, Repr

def Helper.name : Helper → String
  | child => "child"
  | grandchild => "grandchild"

/-- What a helper complains about before it ends. -/
def helperFailed (helper : Helper) (texts : List String) : Work Unit := do
  let d ← (get : Step Desk)
  let front := d.name ++ " (" ++ helper.name ++ "): "
  let lines := texts ++ ["Error is not recoverable: exiting now"]
  printError (String.join (lines.map fun text => front ++ text ++ "\n"))

/-- The process that was started for the archive ended with a status. -/
def childEnded {α : Type} (status : Nat) : Work α :=
  fatal ("Child returned status " ++ status.repr)

/-- A line in the list of names. -/
def list (line : String) : Work Unit := do
  match (← get).channel with
  | .output => say (line ++ "\n")
  | .errors => printError (line ++ "\n")
  | .opening index =>
    let d ← (get : Step Desk)
    match d.machine.write index (Octets.toBytes (line ++ "\n")) with
    | .ok machine => set (σ := Desk) { d with machine }
    | .error _ => pure ()

/-! ## Directories -/

/-- Go to a directory by several steps from the directory of the start. -/
def goTo (steps : List String) : Work Unit := do
  let home := (← get).home
  (modify fun d => { d with cwd := home } : Step Unit)
  go steps
where
  go : List String → Work Unit
    | [] => pure ()
    | path :: paths => do
      match ← (stat true path : Step _) with
      | .ok (l, .directory) => do
        (modify fun d => { d with cwd := l } : Step Unit)
        go paths
      | .ok _ => do
        cannot path "open" .notDirectory
        throw .fatal
      | .error fault => do
        cannot path "open" fault
        throw .fatal

/-- One piece of work for each item, in order. -/
def forEach {α : Type} (work : α → Work Unit) : List α → Work Unit
  | [] => pure ()
  | a :: as => do
    work a
    forEach work as

end Work

end BenchCheckout.Utility.Tar
