import BenchCheckout.Utility.Desk
import BenchCheckout.Utility.Names

/-!
# Listing directories

`ls` shows the names in directories, each on a line of its own or between commas. The directories of
one listing come in the order of their names, of what is behind their last dots, or of their sizes.
-/

namespace BenchCheckout.Utility.Listing

open Step

/-- How a name is written. -/
inductive NameStyle where
  /-- As it is, but if `masked` with question marks for bytes that cannot be shown. -/
  | literal (masked : Bool)
  | quoted
  | escaped
deriving DecidableEq, Repr

/-- What names are ordered by. -/
inductive Order where
  | name
  | ending
  | size
  /-- Operands stay as they were given. -/
  | none
deriving DecidableEq, Repr

structure Manner where
  hidden : Bool
  dots : Bool
  /-- Names that end in a tilde are left out. -/
  skipsBackups : Bool
  directories : Bool
  classifies : Bool
  marksDirs : Bool
  recursive : Bool
  reversed : Bool
  dirsFirst : Bool
  order : Order
  style : NameStyle
  commas : Bool
  follows : Bool
  followsOperands : Bool
  /-- Links among the operands are not followed. -/
  keepsLinks : Bool

/-! ## Names -/

/-- What is written behind a name. -/
def mark (m : Manner) : Entry → String
  | .directory => if m.classifies || m.marksDirs then "/" else ""
  | .link _ => if m.classifies then "@" else ""
  | .file _ true _ => if m.classifies then "*" else ""
  | .file .. => ""

/-- A name in a style. -/
def written (style : NameStyle) (name : String) : String :=
  let withEscapes (special : Char) : String :=
    String.ofList <| name.toList.flatMap fun c =>
      if c = special ∨ c = '\\' then ['\\', c] else (Quoting.escape? c).getD [c]
  match style with
  | .literal false => name
  | .literal true => name.map fun c => if Octets.isPrintable c then c else '?'
  | .quoted => "\"" ++ withEscapes '"' ++ "\""
  | .escaped => withEscapes ' '

def shown (m : Manner) (name : String) (e : Entry) : String := written m.style name ++ mark m e

/-- The width of a row between commas. -/
def rowWidth : Nat := 80

/-- Texts with commas between them, in rows; `pos`: the width of the row so far. -/
def commaRows (pos : Nat) : List String → String
  | [] => "\n"
  | [t] => t ++ "\n"
  | t :: u :: ts =>
    let pos := pos + t.length
    if pos + u.length + 2 < rowWidth then t ++ ", " ++ commaRows (pos + 2) (u :: ts)
    else t ++ ",\n" ++ commaRows 0 (u :: ts)

def rows (m : Manner) (texts : List String) : String :=
  if !m.commas then String.join (texts.map (· ++ "\n"))
  else if texts.isEmpty then ""
  else commaRows 0 texts

/-! ## Order -/

/-- What stands from the last dot on. -/
def ending (name : String) : String :=
  let back := name.toList.reverse
  let tail := back.takeWhile (· ≠ '.')
  if tail.length = back.length then "" else String.ofList ('.' :: tail.reverse)

/-- The size of an entry; that of a directory is one block. -/
def sizeOf : Entry → Nat
  | .file bytes _ _ => bytes.size
  | .link target => target.utf8ByteSize
  | .directory => 4096

/-- The first name comes in front of the second one, or they are the same. -/
def isBefore (m : Manner) (isDirectory : String × Entry → Bool) (a b : String × Entry) : Bool :=
  let byName : Bool := a.1 ≤ b.1
  let rest : Bool :=
    match m.order with
    | .name | .none => byName
    | .ending =>
      let x := ending a.1
      let y := ending b.1
      x < y || (x == y && byName)
    | .size => sizeOf b.2 < sizeOf a.2 || (sizeOf a.2 == sizeOf b.2 && byName)
  let rest := if m.reversed then a == b || !rest else rest
  if m.dirsFirst && isDirectory a != isDirectory b then isDirectory a else rest

/-- Items in order. `isDirectory`: what counts as a directory; `key`: their names and entries. -/
def ordered {α : Type} (m : Manner) (isDirectory : String × Entry → Bool)
    (key : α → String × Entry) (items : List α) : List α :=
  items.mergeSort fun a b => isBefore m isDirectory (key a) (key b)

/-! ## Directories -/

/-- The entries of a directory that are shown. -/
def entriesOf (m : Manner) (s : Scene) (l : Location) : List (String × Entry) :=
  let found := (s.files.names l).filterMap fun n =>
    (s.files.get? (l ++ [n])).map (Octets.ofText n, ·)
  let found := if m.hidden then found else found.filter fun (n, _) => !n.startsWith "."
  let found := if m.skipsBackups then found.filter fun (n, _) => !n.endsWith "~" else found
  let dots := if m.dots then [(".", Entry.directory), ("..", Entry.directory)] else []
  let isDirectory (item : String × Entry) : Bool :=
    item.2.isDirectory || match s.files.find l (Octets.toText item.1) with
      | .ok (_, e) => e.isDirectory
      | .error _ => false
  ordered m isDirectory id (dots ++ found)

/-- Show a directory; `titled`: under its name. So many directories may be left to go into. -/
def showDir (m : Manner) : Nat → (titled : Bool) → (first : Bool) → String → Location → Step Unit
  | 0, _, _, _, _ => pure ()
  | depth + 1, titled, first, path, l => do
    let entries := entriesOf m (← scene) l
    let title :=
      if titled then (if first then "" else "\n") ++ written m.style path ++ ":\n" else ""
    say (title ++ rows m (entries.map fun (n, e) => shown m n e))
    if m.recursive then
      let inner := entries.filter fun (n, e) => e.isDirectory && !Names.isDots n
      forEach (fun (n, _) =>
        showDir m depth true false (Names.concat path n) (l ++ [Octets.toText n])) inner

/-! ## Options -/

def rules : List OptionRule :=
  [.flag "all" ['a'] ["all"], .flag "almostAll" ['A'] ["almost-all"],
    .flag "directory" ['d'] ["directory"], .attached "classify" [] ["classify"],
    .flag "classify" ['F'] [], .flag "one" ['1'] [], .flag "recursive" ['R'] ["recursive"],
    .flag "reverse" ['r'] ["reverse"], .flag "quote" ['Q'] ["quote-name"],
    .flag "escape" ['b'] ["escape"], .flag "literal" ['N'] ["literal"],
    .flag "mask" ['q'] ["hide-control-chars"], .flag "show" [] ["show-control-chars"],
    .flag "commas" ['m'] [], .flag "follow" ['L'] ["dereference"],
    .flag "followOperands" ['H'] ["dereference-command-line"], .flag "dirMark" ['p'] [],
    .flag "skipBackups" ['B'] ["ignore-backups"],
    .flag "dirsFirst" [] ["group-directories-first"], .flag "byEnding" ['X'] [],
    .flag "bySize" ['S'] [], .flag "unordered" ['U'] [], .flag "unsorted" ['f'] [],
    .attached "color" [] ["color"], .valued "sort" [] ["sort"], .valued "ignore" ['I'] ["ignore"],
    .flag "byName" ['t', 'v'] [],
    .flag "other" ['C', 'x', 'l', 'i', 's', 'h', 'n', 'g', 'o', 'c', 'u', 'G', 'k', 'D', 'Z'] []]

def orderOf (o : Options) : Order :=
  match o.last? ["byName", "byEnding", "bySize", "unordered", "unsorted", "sort"] with
  | some "byEnding" => .ending
  | some "bySize" => .size
  | some "unordered" | some "unsorted" => .none
  | some "sort" =>
    match o.value? "sort" with
    | some "extension" => .ending
    | some "size" => .size
    | some "none" => .none
    | _ => .name
  | _ => .name

def styleOf (o : Options) : NameStyle :=
  match o.last? ["quote", "escape", "literal"] with
  | some "quote" => .quoted
  | some "escape" => .escaped
  | _ => .literal (o.last? ["mask", "show"] == some "mask")

def mannerOf (o : Options) : Manner where
  hidden := o.has "all" || o.has "almostAll" || o.has "unsorted"
  dots := (o.last? ["all", "almostAll", "unsorted"]).any (· ≠ "almostAll")
  skipsBackups := o.has "skipBackups"
  directories := o.has "directory"
  classifies := o.has "classify"
  marksDirs := o.has "dirMark"
  recursive := o.has "recursive"
  reversed := o.has "reverse"
  dirsFirst := o.has "dirsFirst"
  order := orderOf o
  style := styleOf o
  commas := o.last? ["commas", "one"] == some "commas"
  follows := o.has "follow"
  followsOperands := o.has "followOperands"
  keepsLinks := (o.has "directory" || o.has "classify") && !o.has "follow" &&
    !o.has "followOperands"

/-! ## Operands -/

/-- An operand, and what is there. -/
abbrev Operand := String × Location × Entry

/-- What is at an operand. A link is there itself unless it leads to a directory, or all links are
to be followed. -/
def operandAt (m : Manner) (path : String) : Step (Except Fault (Location × Entry)) := do
  let followed ← stat (!m.keepsLinks) path
  match followed with
  | .error .noEntry | .error .tooManyLinks => if m.follows then pure followed else stat false path
  | .ok (_, .directory) | .error _ => pure followed
  | .ok _ => if m.follows || m.followsOperands then pure followed else stat false path

/-- The operands that exist. -/
def operands (m : Manner) : List String → Step (List Operand)
  | [] => pure []
  | path :: paths => do
    let found ← operandAt m path
    match found with
    | .ok (l, e) => return (path, l, e) :: (← operands m paths)
    | .error fault => do
      complainWith 2 ("cannot access " ++ Quoting.always path ++ ": " ++ fault.summary)
      operands m paths

def utility : Step Unit :=
  withOptions rules 2 fun o => do
    let m := mannerOf o
    let words := if o.words.isEmpty then ["."] else o.words
    let found ← operands m words
    let found :=
      if m.order = .none then found
      else ordered m (·.2.isDirectory) (fun (path, _, e) => (path, e)) found
    let (dirs, files) := found.partition fun (_, _, e) => e.isDirectory && !m.directories
    say (rows m (files.map fun (path, _, e) => shown m path e))
    let titled := 1 < words.length || m.recursive
    let rec showAll (first : Bool) : List Operand → Step Unit
      | [] => pure ()
      | (path, l, _) :: more => do
        showDir m 4096 titled first path l
        showAll false more
    showAll files.isEmpty dirs

end BenchCheckout.Utility.Listing
