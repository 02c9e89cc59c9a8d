import BenchCheckout.Files.Resolve

/-!
# Reading and changing files

The questions (`isFile`, `isDirectory`, `readText`, `list`, …) and the changes of a file tree, each
as a function of the tree, the working directory and the paths. A change that is refused leaves the
tree as it was, except for the two that take many steps: `createDirs` and `removeTree`.

`Call` names the changes as values, so that a run can be asked which of them it made.
-/

namespace BenchCheckout

namespace FileTree

/-! ## Questions -/

/-- Something exists at `path`. A path that cannot be looked up does not exist. -/
def exists? (t : FileTree) (cwd : Location) (path : String) : Bool :=
  (t.find cwd path).toBool

def isFile (t : FileTree) (cwd : Location) (path : String) : Bool :=
  match t.find cwd path with
  | .ok (_, e) => e.isFile
  | .error _ => false

def isDirectory (t : FileTree) (cwd : Location) (path : String) : Bool :=
  match t.find cwd path with
  | .ok (_, e) => e.isDirectory
  | .error _ => false

def read (t : FileTree) (cwd : Location) (path : String) : Except Fault ByteArray := do
  match ← t.find cwd path with
  | (_, .file bytes _ _) => .ok bytes
  | _ => .error .isDirectory

def readText (t : FileTree) (cwd : Location) (path : String) : Except Fault String := do
  match String.fromUTF8? (← t.read cwd path) with
  | some s => .ok s
  | none => .error .notUtf8

/-- The names in the directory `path`. -/
def list (t : FileTree) (cwd : Location) (path : String) : Except Fault (List String) := do
  match ← t.find cwd path with
  | (l, .directory) => .ok (t.names l)
  | _ => .error .notDirectory

/-- `path` made absolute. An empty path cannot be, and a relative one only while the working
directory exists. -/
def absolute (t : FileTree) (cwd : Location) (path : String) : Except Fault String := do
  let full ← Path.absolute cwd.text path
  if t.hasStart cwd path then .ok full else .error .noEntry

/-! ## One entry -/

/-- The tree with `e` at `l`; the root stays. -/
def putAt (t : FileTree) (l : Location) (e : Entry) : FileTree :=
  match l.getLast? with
  | some n => t.put l.dropLast n e
  | none => t

def createDir (t : FileTree) (cwd : Location) (path : String) : Except Fault FileTree := do
  let s ← t.spot cwd path
  if ¬ IsName s.last then .error .alreadyExists
  else match ← t.lookUp s with
    | some _ => .error .alreadyExists
    | none => .ok (t.put s.dir s.last .directory)

def createLink (t : FileTree) (cwd : Location) (target path : String) : Except Fault FileTree := do
  if target = "" then .error .noEntry
  let s ← t.spot cwd path
  if ¬ IsName s.last then .error .alreadyExists
  else match ← t.lookUp s with
    | some _ => .error .alreadyExists
    | none => if s.slash then .error .noEntry else .ok (t.put s.dir s.last (.link target))

/-- Where a write to `path` would go. Links at the end of the path are followed; so many of them may
come one after the other. -/
def landingWithin (t : FileTree) : Nat → Location → String → Except Fault Location
  | links, cwd, path => do
    let s ← t.spot cwd path
    if ¬ IsName s.last ∨ s.slash then .error .isDirectory
    else match ← t.lookUp s with
      | some (.link target) => match links with
        | 0 => .error .tooManyLinks
        | n + 1 => t.landingWithin n s.dir target
      | some .directory => .error .isDirectory
      | some (.file ..) | none => .ok s.location

/-- The location that a write to `path` fills. All links on the way count together. -/
def landing (t : FileTree) (cwd : Location) (path : String) : Except Fault Location := do
  let l ← t.landingWithin linkLimit cwd path
  match t.resolve cwd path with
  | .error .tooManyLinks => .error .tooManyLinks
  | _ => .ok l

/-- The tree with a file's content at `l`. A file there keeps its other names, which have the new
content too. -/
def fill (t : FileTree) (l : Location) (bytes : ByteArray) (executable : Bool) : FileTree :=
  match (t.get? l).bind (·.number?) with
  | some number => t.refill number bytes executable
  | none => t.putAt l (.file bytes executable none)

/-- There is a file at the location, and it is executable. -/
def isExecutableAt (t : FileTree) (l : Location) : Bool :=
  match t.get? l with
  | some (.file _ executable _) => executable
  | _ => false

/-- Replace the content of a file, or make a new one. -/
def write (t : FileTree) (cwd : Location) (path : String) (bytes : ByteArray) :
    Except Fault FileTree := do
  let l ← t.landing cwd path
  .ok (t.fill l bytes (t.isExecutableAt l))

/-- Two locations are names of one file. -/
def isSameFile (t : FileTree) (a b : Location) : Bool :=
  a == b ||
    match (t.get? a).bind (·.number?), (t.get? b).bind (·.number?) with
    | some m, some n => m == n
    | _, _ => false

/-- Copy a file's content and whether it is executable. The destination is emptied before the source
is read, so a file that is copied onto itself ends empty. -/
def copy (t : FileTree) (cwd : Location) (source dest : String) : Except Fault FileTree := do
  match ← t.find cwd source with
  | (a, .file bytes executable _) =>
    let b ← t.landing cwd dest
    .ok (t.fill b (if t.isSameFile a b then .empty else bytes) executable)
  | _ => .error .notRegularFile

def removeFile (t : FileTree) (cwd : Location) (path : String) : Except Fault FileTree := do
  let s ← t.spot cwd path
  if ¬ IsName s.last then .error .isDirectory
  else match ← t.lookUp s with
    | none => .error .noEntry
    | some .directory => .error .isDirectory
    | some _ => if s.slash then .error .notDirectory else .ok (t.prune s.location)

/-- Remove an empty directory. -/
def removeDir (t : FileTree) (cwd : Location) (path : String) : Except Fault FileTree := do
  let s ← t.spot cwd path
  if s.last = "." then .error .invalidArgument
  else if s.last = ".." then .error .notEmpty
  else if ¬ IsName s.last then .error .busy
  else match ← t.lookUp s with
    | none => .error .noEntry
    | some .directory =>
      if (t.names s.location).isEmpty then .ok (t.prune s.location) else .error .notEmpty
    | some _ => .error .notDirectory

/-! ## Moving -/

/-- What stands in the way of an entry that takes the place of another. -/
def replaceFault (t : FileTree) (e : Entry) (l : Location) : Option Entry → Option Fault
  | none => none
  | some .directory =>
    if e.isDirectory then if (t.names l).isEmpty then none else some .notEmpty
    else some .isDirectory
  | some _ => if e.isDirectory then some .notDirectory else none

/-- Move an entry, with all that lies below it. An empty directory gives way to a directory, and
what is no directory to what is no directory. Nothing moves between two names of one file. -/
def rename (t : FileTree) (cwd : Location) (source dest : String) : Except Fault FileTree := do
  let a ← t.spot cwd source
  let b ← t.spot cwd dest
  if ¬ IsName a.last ∨ ¬ IsName b.last then .error .busy
  else
    let some e ← t.lookUp a | .error .noEntry
    let old ← t.lookUp b
    if e.isDirectory = false ∧ (a.slash ∨ b.slash) then .error .notDirectory
    else if a.location <+: b.dir then .error .invalidArgument
    else if b.location <+: a.dir then .error .notEmpty
    else if t.isSameFile a.location b.location then .ok t
    else match t.replaceFault e b.location old with
      | some fault => .error fault
      | none =>
        let rest := t.prune a.location
        .ok (if e.isDirectory then rest.mount b.dir b.last (t.below a.location)
          else rest.put b.dir b.last e)

/-! ## Many steps -/

/-- A path and the paths of the directories above it, as they are written. -/
def ancestors (path : String) : List String :=
  go (Path.pieces path).length path
where
  go : Nat → String → List String
    | 0, p => [p]
    | n + 1, p => p :: match Path.parent? p with
      | some q => go n q
      | none => []

/-- Create the first of the directories; those above it are created where they are missing. -/
def createDirsAlong (cwd : Location) : List String → FileTree → Except Fault Unit × FileTree
  | [], t => (.error .wholeTree, t)
  | path :: above, t =>
    if path = "" then (.ok (), t)
    else
      let settle (u : FileTree) (fault : Fault) : Except Fault Unit × FileTree :=
        if u.isDirectory cwd path then (.ok (), u) else (.error fault, u)
      match t.createDir cwd path with
      | .ok u => (.ok (), u)
      | .error .noEntry =>
        match createDirsAlong cwd above t with
        | (.error fault, u) => (.error fault, u)
        | (.ok (), u) =>
          match u.createDir cwd path with
          | .ok v => (.ok (), v)
          | .error fault => settle u fault
      | .error fault => settle t fault

/-- Create a directory and the missing ones above it. One that exists already is fine. -/
def createDirs (t : FileTree) (cwd : Location) (path : String) : Except Fault Unit × FileTree :=
  createDirsAlong cwd (ancestors path) t

/-- Remove a directory with all that lies below it, or a link without what it leads to. -/
def removeTree (t : FileTree) (cwd : Location) (path : String) : Except Fault Unit × FileTree :=
  match t.findLink cwd path with
  | .error fault => (.error fault, t)
  | .ok (.file ..) => (.error .notDirectory, t)
  | .ok (.link _) =>
    match t.removeFile cwd path with
    | .ok u => (.ok (), u)
    | .error fault => (.error fault, t)
  | .ok .directory =>
    match t.locate cwd path with
    | .error fault => (.error fault, t)
    | .ok l =>
      let emptied := t.clear l
      match emptied.removeDir cwd path with
      | .ok u => (.ok (), u)
      | .error .noEntry => (.ok (), emptied)
      | .error fault => (.error fault, emptied)

end FileTree

/-! ## Changes as values -/

/-- A change of the file tree. -/
inductive Call where
  | createDirs (path : String)
  | write (path text : String)
  | copy (source dest : String)
  | rename (source dest : String)
  | removeFile (path : String)
  | removeTree (path : String)
deriving DecidableEq, Repr

namespace Call

/-- The paths that a change names: what it may create, write, move or remove. -/
def names : Call → List String
  | createDirs p | write p _ | removeFile p | removeTree p => [p]
  | copy _ d => [d]
  | rename s d => [s, d]

private def ofExcept (t : FileTree) : Except Fault FileTree → Except Fault Unit × FileTree
  | .ok u => (.ok (), u)
  | .error fault => (.error fault, t)

/-- What a change does to a tree, and whether it succeeds. -/
def perform (cwd : Location) : Call → FileTree → Except Fault Unit × FileTree
  | createDirs p, t => t.createDirs cwd p
  | write p text, t => ofExcept t (t.write cwd p text.toUTF8)
  | copy s d, t => ofExcept t (t.copy cwd s d)
  | rename s d, t => ofExcept t (t.rename cwd s d)
  | removeFile p, t => ofExcept t (t.removeFile cwd p)
  | removeTree p, t => t.removeTree cwd p

end Call

end BenchCheckout
