import BenchCheckout.Files.Tree
import BenchCheckout.Path

/-!
# Where a path leads

A path is walked piece by piece from the root or from a working directory. Each piece needs a
directory to be looked up in, an idle piece stays there, `..` goes up, and a symbolic link is
replaced by its own path. One walk follows at most `linkLimit` links.

* `FileTree.resolve` follows every link: it tells what is there, or the name that is still free.
* `FileTree.spot` stops before the last piece, for the calls that act on a directory's entry and not
  on what the entry leads to.
-/

namespace BenchCheckout

namespace Location

/-- The text of a location: each name after a slash. -/
def text (l : Location) : String :=
  if l.isEmpty then "/" else String.join (l.map ("/" ++ ·))

/-- Where the walk along a path starts. -/
def start (cwd : Location) (path : String) : Location :=
  if Path.startsAtRoot path then [] else cwd

end Location

/-- The end of a walk that follows all links. -/
inductive Place where
  | found (location : Location)
  | vacant (dir : Location) (name : String)
deriving DecidableEq, Repr

/-- An entry of a directory, by the text it was asked for: a name, or `.`, `..` or nothing (the
root). -/
structure Spot where
  dir : Location
  last : String
  /-- A slash followed, so the entry has to be a directory. -/
  slash : Bool
deriving DecidableEq, Repr

def Spot.location (s : Spot) : Location := s.dir ++ [s.last]

/-- The longest name, in bytes. -/
def nameLimit : Nat := 255

/-- The longest path, in bytes. -/
def pathLimit : Nat := 4095

/-- The most links that one walk follows. -/
def linkLimit : Nat := 40

namespace FileTree

/-! ## Walking -/

/-- Walk from a location along pieces; `onLink` continues at a link, from the directory that it lies
in, its target and the pieces that are left. -/
def follow (t : FileTree) (onLink : Location → String → List String → Except Fault Place) :
    Location → List String → Except Fault Place
  | here, [] => .ok (.found here)
  | here, piece :: rest =>
    if t.get? here ≠ some .directory then .error .notDirectory
    else if Path.isIdle piece then t.follow onLink here rest
    else if piece = ".." then t.follow onLink here.dropLast rest
    else if nameLimit < piece.utf8ByteSize then .error .nameTooLong
    else match t.get? (here ++ [piece]) with
      | none => if rest.isEmpty then .ok (.vacant here piece) else .error .noEntry
      | some (.link target) => onLink here target rest
      | some _ => t.follow onLink (here ++ [piece]) rest

/-- Walk along pieces and through at most so many links. -/
def walk (t : FileTree) : Nat → Location → List String → Except Fault Place
  | 0 => t.follow fun _ _ _ => .error .tooManyLinks
  | n + 1 => t.follow fun here target rest =>
      t.walk n (here.start target) (Path.pieces target ++ rest)

/-- There is a directory to start from: the root, or for a relative path the working directory. -/
def hasStart (t : FileTree) (cwd : Location) (path : String) : Bool :=
  t.get? (cwd.start path) == some .directory

/-- What no path can be, before any walk. Where the working directory is gone, no relative path
leads anywhere; a system may still know what was above it. -/
def checkPath (t : FileTree) (cwd : Location) (path : String) : Except Fault Unit :=
  if '\x00' ∈ path.toList then .error .nulInPath
  else if path = "" then .error .noEntry
  else if pathLimit < path.utf8ByteSize then .error .nameTooLong
  else if t.get? (cwd.start path) ≠ some .directory then .error .noEntry
  else .ok ()

/-- Where `path` leads from `cwd`, through all links. -/
def resolve (t : FileTree) (cwd : Location) (path : String) : Except Fault Place := do
  t.checkPath cwd path
  t.walk linkLimit (cwd.start path) (Path.pieces path)

/-- The location of what exists at `path`. -/
def locate (t : FileTree) (cwd : Location) (path : String) : Except Fault Location := do
  match ← t.resolve cwd path with
  | .found l => .ok l
  | .vacant .. => .error .noEntry

/-- What exists at `path`, through all links, and where. -/
def find (t : FileTree) (cwd : Location) (path : String) : Except Fault (Location × Entry) := do
  let l ← t.locate cwd path
  match t.get? l with
  | some e => .ok (l, e)
  | none => .error .noEntry

/-! ## The last piece -/

/-- The directory entry that `path` names; a link there is not followed. -/
def spot (t : FileTree) (cwd : Location) (path : String) : Except Fault Spot := do
  t.checkPath cwd path
  match (Path.pieces path).reverse.dropWhile (· == "") with
  | [] => .ok ⟨[], "", true⟩
  | last :: before =>
    match ← t.walk linkLimit (cwd.start path) (before.reverse ++ [""]) with
    | .found dir => .ok ⟨dir, last, Path.endsWithSlash path⟩
    | .vacant .. => .error .noEntry

/-- What is at a spot whose last piece is a name. -/
def lookUp (t : FileTree) (s : Spot) : Except Fault (Option Entry) :=
  if nameLimit < s.last.utf8ByteSize then .error .nameTooLong
  else .ok (t.get? s.location)

/-- What exists at `path`; a link at its end is not followed, unless a slash follows it. -/
def findLink (t : FileTree) (cwd : Location) (path : String) : Except Fault Entry := do
  let s ← t.spot cwd path
  if IsName s.last ∧ s.slash = false then
    match ← t.lookUp s with
    | some e => .ok e
    | none => .error .noEntry
  else
    let (_, e) ← t.find cwd path
    .ok e

end FileTree

end BenchCheckout
