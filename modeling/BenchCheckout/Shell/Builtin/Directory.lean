import BenchCheckout.Path
import BenchCheckout.Shell.Builtin.Basic

/-!
# The working directory

`cd` and `pwd`. The shell keeps its directory as it was asked for, with the dots worked out in the
text, and as it is without links.
-/

namespace BenchCheckout.Shell.Builtin

open Turn

/-- The names of a path after those of a start, with the dots worked out. -/
def logicalNames (start : List String) (path : String) : List String :=
  (Path.pieces path).foldl (fun names p =>
    if Path.isIdle p then names else if p = ".." then names.dropLast else names ++ [p]) start

/-- A path as seen from another one, with the dots worked out in the text alone. Two slashes at the
start are kept. -/
def logicalPath (from_ path : String) : String :=
  let whole := if Path.startsAtRoot path then path else from_
  let root := Path.rootMark whole
  let start := if Path.startsAtRoot path then [] else logicalNames [] from_
  root ++ String.intercalate "/" (logicalNames start path)

/-- Whether links are kept in paths, by the last option. -/
def keepsLinks (found : List (Char × String)) : Bool :=
  match found.getLast? with
  | some (c, _) => c != 'P'
  | none => true

/-- Go to a directory, if there is one. -/
def enter (keeps : Bool) (wanted : String) : Turn Bool := do
  let s ← get
  let path := if keeps then logicalPath s.path wanted else wanted
  match s.scene.find path with
  | .ok (l, .directory) =>
    let realPath := Octets.ofText l.text
    let newPath := if keeps then path else realPath
    assignMarked "OLDPWD" (some s.path) true false
    modify ({ · with cwd := l, path := newPath, realPath })
    assignMarked "PWD" (some newPath) true false
    pure true
  | _ => pure false

/-- A path that is not looked for in the search path of directories. -/
def isAnchored (path : String) : Bool :=
  match Path.pieces path with
  | p :: _ => Path.startsAtRoot path || p == "." || p == ".."
  | [] => false

/-- The first directory of the search path that has the wanted one, and whether it was looked for
elsewhere than here. -/
def foundIn (s : State) (wanted : String) : List String → Option (String × Bool)
  | [] => none
  | dir :: dirs =>
    let path := if dir = "" then wanted else dir ++ "/" ++ wanted
    if s.scene.isDirectory path then some (path, dir ≠ "") else foundIn s wanted dirs

def changeDir (args : List String) : Turn Nat := do
  let (found, words) ← options ['L', 'P'] [] args
  let s ← get
  let (wanted, tells) := match words with
    | [] => ((s.value? "HOME").getD "", false)
    | "-" :: _ => ((s.value? "OLDPWD").getD "", true)
    | w :: _ => (w, false)
  let name := if wanted = "" then "." else wanted
  let dirs := match s.value? "CDPATH" with
    | some p => if isAnchored wanted then [] else (Path.cut ':' p.toList).map String.ofList
    | none => []
  let (path, tells) := match foundIn s name dirs with
    | some (path, isElsewhere) => (path, tells || isElsewhere)
    | none => (name, tells)
  if ← enter (keepsLinks found) path then
    if tells then print ((← get).path ++ "\n")
    pure 0
  else fault ("can't cd to " ++ name)

def workingDir (args : List String) : Turn Nat := do
  let (found, _) ← options ['L', 'P'] [] args
  let s ← get
  print ((if keepsLinks found then s.path else s.realPath) ++ "\n")
  pure 0

end BenchCheckout.Shell.Builtin
