import BenchCheckout.Utility.Desk
import BenchCheckout.Utility.Names

/-!
# Removing files

`rm` removes names of files, and directories with all that lies in them.
-/

namespace BenchCheckout.Utility.Remove

open Step

structure Manner where
  force : Bool
  recursive : Bool
  emptyDirs : Bool
  verbose : Bool
  asks : Bool
  keepsRoot : Bool

/-- The path cannot be followed to its end. -/
def isMissing (fault : Fault) : Bool := fault == .noEntry || fault == .notDirectory

def cannot (m : Manner) (path : String) (fault : Fault) : Step Unit := do
  if !(m.force && isMissing fault) then
    complainOf ("cannot remove " ++ Quoting.always path) fault

def kindOf : Entry → String
  | .file bytes _ _ => if bytes.isEmpty then "regular empty file" else "regular file"
  | .link _ => "symbolic link"
  | .directory => "directory"

/-- Make a change, and tell of it. -/
def settle (m : Manner) (what path : String) (result : Except Fault FileTree) : Step Unit := do
  match result with
  | .ok files => do
    setFiles files
    if m.verbose then say (what ++ " " ++ Quoting.always path ++ "\n")
  | .error fault => cannot m path fault

/-- Remove what is at a path. So many directories may be left to go into. -/
def remove (m : Manner) : Nat → String → Step Unit
  | 0, _ => pure ()
  | depth + 1, path => do
    let d ← get
    match ← stat false path with
    | .error fault => cannot m path fault
    | .ok (l, .directory) => do
      let s ← scene
      let names := (s.files.names l).map Octets.ofText
      let goesIn ←
        if m.asks && !names.isEmpty then
          ask ("descend into directory " ++ Quoting.always path)
        else pure true
      if goesIn then
        if m.asks || m.verbose then
          let front := if Names.endsInSlash path then path else path ++ "/"
          forEach (fun n => remove m depth (front ++ n)) names
        else setFiles (s.files.clear l)
        let files := (← get).machine.files
        let isEmpty := (files.names l).isEmpty
        let goesOn ←
          if m.asks && (isEmpty || names.isEmpty) then
            ask ("remove directory " ++ Quoting.always path)
          else pure isEmpty
        if goesOn then
          settle m "removed directory" path (files.removeDir d.cwd (Octets.toText path))
    | .ok (_, e) => do
      let goesOn ←
        if m.asks then ask ("remove " ++ kindOf e ++ " " ++ Quoting.always path) else pure true
      if goesOn then
        settle m "removed" path (d.machine.files.removeFile d.cwd (Octets.toText path))

/-- A path without all but one of the slashes at its end. -/
def trimmed (path : String) : String :=
  if Names.endsInSlash path ∧ Names.withoutSlashes path ≠ "/" then Names.withoutSlashes path ++ "/"
  else path

/-- Remove an operand, if it may be removed. -/
def removeOne (m : Manner) (path : String) : Step Unit := do
  let path := trimmed path
  match ← stat false path with
  | .ok (l, .directory) => do
    let isEmpty := ((← files).names l).isEmpty
    if !m.recursive && !(m.emptyDirs && isEmpty) then
      complainOf ("cannot remove " ++ Quoting.always path)
        (if m.emptyDirs then .notEmpty else .isDirectory)
    else if Names.isDots (Names.base path) then
      complain ("refusing to remove '.' or '..' directory: skipping " ++ Quoting.always path)
    else if m.keepsRoot ∧ l = [] then
      complain ("it is dangerous to operate recursively on " ++ Quoting.always path ++
        (if path = "/" then "" else " (same as '/')"))
      complain "use --no-preserve-root to override this failsafe"
    else remove m 4096 path
  | _ => remove m 4096 path

def rules : List OptionRule :=
  [.flag "force" ['f'] ["force"], .flag "ask" ['i'] [], .flag "askOnce" ['I'] [],
    .attached "asking" [] ["interactive"], .flag "oneSystem" [] ["one-file-system"],
    .flag "noRoot" [] ["no-preserve-root"], .attached "root" [] ["preserve-root"],
    .flag "recursive" ['r', 'R'] ["recursive"], .flag "dirs" ['d'] ["dir"],
    .flag "verbose" ['v'] ["verbose"]]

/-- How often is to be asked: never, once or always, by the last option that says so. -/
def asking (o : Options) : String :=
  match o.given.reverse.find? fun (key, _) => key ∈ ["force", "ask", "askOnce", "asking"] with
  | some ("ask", _) => "always"
  | some ("askOnce", _) => "once"
  | some ("asking", some w) =>
    if w ∈ ["never", "no", "none"] then "never" else if w = "once" then "once" else "always"
  | some ("asking", none) => "always"
  | _ => "never"

def utility : Step Unit :=
  withOptions rules 1 fun o => do
    let m : Manner :=
      { force := o.last? ["force", "ask", "askOnce"] == some "force"
        recursive := o.has "recursive"
        emptyDirs := o.has "dirs"
        verbose := o.has "verbose"
        asks := asking o == "always"
        keepsRoot := !o.has "noRoot" }
    let n := o.words.length
    if n = 0 then
      if !m.force then complainUsage 1 "missing operand"
    else
      let goesOn ←
        if asking o = "once" ∧ (m.recursive ∨ 3 < n) then
          ask ("remove " ++ n.repr ++ (if n = 1 then " argument" else " arguments") ++
            (if m.recursive then " recursively" else ""))
        else pure true
      if goesOn then forEach (removeOne m) o.words

end BenchCheckout.Utility.Remove
