import BenchCheckout.Shell.Expand

/-!
# Redirections

The words of a command's redirections are expanded first, all of them; then the files are opened one
after the other. What goes wrong with the words ends the shell, and what goes wrong with the files
only the command.
-/

namespace BenchCheckout.Shell

/-- What a redirection leads to, with its words expanded. -/
inductive Target where
  | file (kind : OpenKind) (path : String)
  | copyOf (source : Nat)
  | closed
  | document (number : Nat)
deriving DecidableEq, Repr

namespace Redirect

def descriptor : Redirect → Nat
  | .to fd _ => fd

/-- The target that a text behind `<&` or `>&` means. -/
def copyTarget? (text : String) : Option Target :=
  match text.toList with
  | ['-'] => some .closed
  | [c] => if c.isDigit then some (.copyOf (c.toNat - '0'.toNat)) else none
  | _ => none

end Redirect

namespace Turn

/-- A complaint about a file that a redirection cannot have. -/
def cannot {α : Type} (act path absence : String) (why : Fault) : Turn α :=
  let isAbsence := why == .noEntry || why == .notDirectory
  fault ("cannot " ++ act ++ " " ++ path ++ ": " ++ if isAbsence then absence else why.summary)

def cannotOpen {α : Type} (path : String) (why : Fault) : Turn α :=
  cannot "open" path "No such file" why

def cannotCreate {α : Type} (path : String) (why : Fault) : Turn α :=
  cannot "create" path "Directory nonexistent" why

/-- Open a file. -/
def openFile (path : String) (mode : OpenMode) : Turn Nat := do
  let s ← get
  match s.machine.openPath s.descriptors s.cwd path mode with
  | .ok (index, machine) => do
    set { s with machine }
    pure index
  | .error why => if mode.creates then cannotCreate path why else cannotOpen path why

/-- Open a file for output that may not be a regular file which is there already. -/
def openUnlessFile (path : String) : Turn Nat := do
  let s ← get
  if (Machine.descriptorPath? path).isSome then openFile path .forWriting
  else if s.scene.isFile path then cannotCreate path .alreadyExists
  else if s.scene.exists? path then openFile path .forWriting
  else openFile path { OpenMode.forWriting with isNew := true }

def openKind (kind : OpenKind) (path : String) : Turn Nat := do
  match kind with
  | .input => openFile path .forReading
  | .output => if (← get).has 'C' then openUnlessFile path else openFile path .forWriting
  | .overwrite => openFile path .forWriting
  | .append => openFile path .forAppending
  | .both => openFile path .forBoth

/-- Let a descriptor lead to an opening, or close it. -/
def direct (fd : Nat) (opening : Option Nat) : Turn Unit :=
  modify fun s => { s with descriptors := s.descriptors.set fd opening }

/-- A pipe with a text in it. -/
def openText (text : String) : Turn Nat := do
  let s ← get
  let ((index, _), machine) := s.machine.openPipe (Octets.toBytes text)
  set { s with machine }
  pure index

variable (output : Command → Turn String)

/-- The target of a redirection. -/
def targetOf : Redirect → Turn (Nat × Target)
  | .to fd (.file kind path) => do return (fd, .file kind (← textOf output .whole path))
  | .to fd (.copyOf source) => pure (fd, .copyOf source)
  | .to fd (.copyNamed source) => do
    match Redirect.copyTarget? (← textOf output .whole source) with
    | some target => pure (fd, target)
    | none => do
      modify fun s => { s with errorLine := s.readLines.headD 1 }
      fault "Syntax error: Bad fd number"
  | .to fd .closed => pure (fd, .closed)
  | .to fd (.document number) => pure (fd, .document number)

def targetsOf : List Redirect → Turn (List (Nat × Target))
  | [] => pure []
  | r :: rs => do
    let t ← targetOf output r
    return t :: (← targetsOf rs)

/-- Let a descriptor lead to a target. If it is `kept` for later, it is already closed when a target
that is none is met, so that nobody hears of it where the descriptor is the one for complaints. -/
def redirect (kept : Bool) (fd : Nat) : Target → Turn Unit
  | .file kind path => do direct fd (some (← openKind kind path))
  | .copyOf source => do
    if source ≠ fd then
      match (← get).descriptors.get? source with
      | some index => direct fd (some index)
      | none =>
        if kept && fd == 2 then throw .fault else fault (source.repr ++ ": Bad file descriptor")
  | .closed => direct fd none
  | .document number => do
    let text ← textOf output .document ((← get).documents.getD number [])
    direct fd (some (← openText text))

def redirectAll (kept : Bool) (targets : List (Nat × Target)) : Turn Unit :=
  eachOf (fun (fd, t) => redirect output kept fd t) targets

/-- Make redirections that are taken back later; the status tells whether that was possible. -/
def tryRedirect (targets : List (Nat × Target)) : Turn Nat := do
  match ← caught (redirectAll output true targets) with
  | .ok () => pure 0
  | .error .fault => pure 2
  | .error leap => throw leap

end Turn

end BenchCheckout.Shell
