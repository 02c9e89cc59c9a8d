import BenchCheckout.Files.Calls
import BenchCheckout.Text.Octets

/-!
# What processes share

A `Machine` has the files, the files that processes hold open, the pipes between processes, and what
was printed. A `Machine` is changed by one process at a time: a process that starts another one
waits for it. Paths and contents are octet texts here.

An `Opening` is a file as it was opened. Processes know it by its index, so that several of them can
read one file from one position on.
-/

namespace BenchCheckout

/-- What an opened file leads to. -/
inductive Channel where
  /-- A regular file by its number, so that it may be renamed and removed while it is open. -/
  | file (number : Nat)
  | directory (location : Location)
  | pipe (index : Nat)
  | output
  | errors
  /-- It takes everything and gives nothing. -/
  | null
deriving DecidableEq, Repr

structure Opening where
  channel : Channel
  position : Nat
  reads : Bool
  writes : Bool
  /-- Whatever is written goes to the end. -/
  appends : Bool

/-- How a file is to be opened. -/
structure OpenMode where
  reads : Bool
  writes : Bool
  creates : Bool
  empties : Bool
  appends : Bool
  /-- A file that exists is refused. -/
  isNew : Bool

namespace OpenMode

def forReading : OpenMode := ⟨true, false, false, false, false, false⟩

def forWriting : OpenMode := ⟨false, true, true, true, false, false⟩

def forAppending : OpenMode := ⟨false, true, true, false, true, false⟩

def forBoth : OpenMode := ⟨true, true, true, false, false, false⟩

end OpenMode

structure Machine where
  files : FileTree
  openings : Array Opening
  pipes : Array ByteArray
  /-- Contents of files that are open and have no name any more. -/
  nameless : List (Nat × ByteArray)
  nextNumber : Nat
  output : ByteArray
  errors : ByteArray
  nextProcess : Nat
  /-- Signals on their way: the process they go to, and their number. -/
  signals : List (Nat × Nat)

/-- The openings that a process has, by its descriptors. -/
abbrev Descriptors := List (Nat × Nat)

namespace Descriptors

def get? (ds : Descriptors) (fd : Nat) : Option Nat := (ds.find? (·.1 == fd)).map (·.2)

/-- The descriptors with one of them made to lead somewhere else, or closed. -/
def set (ds : Descriptors) (fd : Nat) (opening : Option Nat) : Descriptors :=
  let others := ds.filter (·.1 != fd)
  match opening with
  | some index => (fd, index) :: others
  | none => others

end Descriptors

namespace Machine

/-! ## Files -/

/-- The machine with changed files. What is open keeps its content. -/
def setFiles (m : Machine) (files : FileTree) : Machine :=
  let before := m.files.numbers.eraseDups
  let after := files.numbers
  let gone := before.filter (· ∉ after)
  let nameless := gone.filterMap fun n => (m.files.numbered? n).map fun (bytes, _) => (n, bytes)
  { m with files, nameless := nameless ++ m.nameless }

def contentOf (m : Machine) (number : Nat) : ByteArray :=
  match m.files.numbered? number with
  | some (bytes, _) => bytes
  | none => ((m.nameless.find? (·.1 == number)).map (·.2)).getD .empty

def setContent (m : Machine) (number : Nat) (bytes : ByteArray) : Machine :=
  match m.files.numbered? number with
  | some (_, executable) => { m with files := m.files.refill number bytes executable }
  | none => { m with nameless := (number, bytes) :: m.nameless.filter (·.1 != number) }

/-- The number of the file at a location; it gets one if it has none. -/
def numberAt (m : Machine) (l : Location) : Option (Nat × Machine) :=
  match m.files.get? l with
  | some (.file _ _ (some n)) => some (n, m)
  | some (.file bytes executable none) =>
    let n := max m.nextNumber m.files.freshNumber
    some (n, { m with
      files := m.files.putAt l (.file bytes executable (some n))
      nextNumber := n + 1 })
  | _ => none

/-! ## Opening -/

def nullDevice : Location := ["dev", "null"]

def addOpening (m : Machine) (o : Opening) : Nat × Machine :=
  (m.openings.size, { m with openings := m.openings.push o })

def opening? (m : Machine) (index : Nat) : Option Opening := m.openings[index]?

/-- The number of the regular file that an opening leads to. -/
def fileNumber? (m : Machine) (index : Nat) : Option Nat :=
  match (m.opening? index).map Opening.channel with
  | some (.file number) => some number
  | _ => none

def newPipe (m : Machine) (content : ByteArray) : Nat × Machine :=
  (m.pipes.size, { m with pipes := m.pipes.push content })

/-- The two ends of a new pipe: the one to read from, and the one to write to. -/
def openPipe (m : Machine) (content : ByteArray) : (Nat × Nat) × Machine :=
  let (p, m) := m.newPipe content
  let (a, m) := m.addOpening ⟨.pipe p, 0, true, false, false⟩
  let (b, m) := m.addOpening ⟨.pipe p, 0, false, true, true⟩
  ((a, b), m)

/-- The descriptor that a path stands for. -/
def descriptorPath? (path : String) : Option Nat :=
  match path with
  | "/dev/stdin" => some 0
  | "/dev/stdout" => some 1
  | "/dev/stderr" => some 2
  | path =>
    let rest? := ["/dev/fd/", "/proc/self/fd/"].findSome? fun p =>
      if p.toList.isPrefixOf path.toList then some (path.toList.drop p.length) else none
    match rest? with
    | some ds =>
      if ds ≠ [] ∧ ds.all Char.isDigit then
        some (ds.foldl (fun n d => 10 * n + (d.toNat - '0'.toNat)) 0)
      else none
    | none => none

/-- Open the file of a number. -/
def openNumber (m : Machine) (number : Nat) (mode : OpenMode) : Nat × Machine :=
  let m := if mode.empties then m.setContent number .empty else m
  m.addOpening ⟨.file number, 0, mode.reads, mode.writes, mode.appends⟩

/-- Open what is at a location. -/
def openAt (m : Machine) (l : Location) (mode : OpenMode) : Except Fault (Nat × Machine) :=
  let plain (channel : Channel) : Nat × Machine :=
    m.addOpening ⟨channel, 0, mode.reads, mode.writes, mode.appends⟩
  if l = nullDevice then .ok (plain .null)
  else match m.files.get? l with
    | some .directory =>
      if mode.writes then .error .isDirectory else .ok (plain (.directory l))
    | _ =>
      match m.numberAt l with
      | some (n, m) => .ok (m.openNumber n mode)
      | none => .error .noEntry

/-- Open a path. -/
def openPath (m : Machine) (descriptors : Descriptors) (cwd : Location) (path : String)
    (mode : OpenMode) : Except Fault (Nat × Machine) := do
  match descriptorPath? path with
  | some fd =>
    match (descriptors.get? fd).bind m.opening? with
    | none => .error .noEntry
    | some o =>
      match o.channel with
      | .file n => .ok (m.openNumber n mode)
      | channel => .ok (m.addOpening ⟨channel, 0, mode.reads, mode.writes, mode.appends⟩)
  | none =>
    let text := Octets.toText path
    if path = "/dev/tty" then .error .noDevice
    else if mode.creates then
      match m.files.find cwd text with
      | .ok (l, _) => if mode.isNew then .error .alreadyExists else m.openAt l mode
      | .error _ =>
        let l ← m.files.landing cwd text
        { m with files := m.files.putAt l (.file .empty false none) }.openAt l mode
    else
      let (l, _) ← m.files.find cwd text
      m.openAt l mode

/-! ## Reading and writing -/

def move (m : Machine) (index : Nat) (o : Opening) (position : Nat) : Machine :=
  { m with openings := m.openings.setIfInBounds index { o with position } }

/-- Bytes put over others from a position on. What lies between is filled with zeros. -/
def overlaid (old new : ByteArray) (position : Nat) : ByteArray :=
  if position = old.size then old ++ new
  else
    let front := old.extract 0 position
    let gap := ByteArray.mk (Array.replicate (position - old.size) 0)
    front ++ gap ++ new ++ old.extract (position + new.size) old.size

/-- Write to an opening. -/
def write (m : Machine) (index : Nat) (bytes : ByteArray) : Except Fault Machine :=
  match m.opening? index with
  | none => .error .badDescriptor
  | some o =>
    if !o.writes then .error .badDescriptor
    else match o.channel with
      | .output => .ok { m with output := m.output ++ bytes }
      | .errors => .ok { m with errors := m.errors ++ bytes }
      | .null => .ok m
      | .pipe p =>
        match m.pipes[p]? with
        | some old => .ok { m with pipes := m.pipes.setIfInBounds p (old ++ bytes) }
        | none => .error .badDescriptor
      | .directory _ => .error .isDirectory
      | .file n =>
        let old := m.contentOf n
        let position := if o.appends then old.size else o.position
        let m := if bytes.isEmpty then m else m.setContent n (overlaid old bytes position)
        .ok (m.move index o (position + bytes.size))

/-- Read at most so many bytes; no bytes tell of the end. -/
def read (m : Machine) (index : Nat) (limit : Option Nat) : Except Fault (ByteArray × Machine) :=
  match m.opening? index with
  | none => .error .badDescriptor
  | some o =>
    if !o.reads then .error .badDescriptor
    else match o.channel with
      | .output | .errors | .null => .ok (.empty, m)
      | .directory _ => .error .isDirectory
      | .pipe p =>
        let content := m.pipes[p]?.getD .empty
        let n := min (limit.getD content.size) content.size
        .ok (content.extract 0 n,
          { m with pipes := m.pipes.setIfInBounds p (content.extract n content.size) })
      | .file number =>
        let content := m.contentOf number
        let stop := min (o.position + limit.getD content.size) content.size
        .ok (content.extract o.position stop, m.move index o (max o.position stop))

/-- Give back the last bytes that were read. -/
def giveBack (m : Machine) (index : Nat) (bytes : ByteArray) : Machine :=
  match m.opening? index with
  | some o =>
    match o.channel with
    | .pipe p =>
      { m with pipes := m.pipes.setIfInBounds p (bytes ++ m.pipes[p]?.getD .empty) }
    | .file _ => m.move index o (o.position - bytes.size)
    | _ => m
  | none => m

/-! ## Beginning and end -/

/-- A machine whose first process reads nothing, and writes to the output and the errors. -/
def start (files : FileTree) : Machine where
  files := files
  openings :=
    #[⟨.null, 0, true, false, false⟩, ⟨.output, 0, false, true, false⟩,
      ⟨.errors, 0, false, true, false⟩]
  pipes := #[]
  nameless := []
  nextNumber := files.freshNumber
  output := .empty
  errors := .empty
  nextProcess := 4001
  signals := []

/-- The descriptors that a process starts with. -/
def firstDescriptors : Descriptors := [(0, 0), (1, 1), (2, 2)]

end Machine

end BenchCheckout
