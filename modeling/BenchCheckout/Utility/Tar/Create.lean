import BenchCheckout.Utility.Tar.Listing

/-!
# Making archives

`Create.archive` makes the members of an archive out of files, and of directories with all that is
in them. A file that has several names is put in once; its other names are links to the first one.
-/

namespace BenchCheckout.Utility.Tar.Create

open Work

/-- The members that were made, and the files that have other names. -/
structure Dump where
  bytes : ByteArray
  /-- The numbers of files and the names that they were put in under. -/
  files : List (Nat × String)
  /-- Where the archive itself is. -/
  archive : Option Location

def header (name : String) (kind : Char) (mode size : Nat) (link : String) : Tape.Header where
  name := name
  link := link
  kind := kind
  mode := mode
  size := size
  time := 0
  owner := "root"
  group := "root"

/-- Add a member, and list it. -/
def add (r : Request) (d : Dump) (shownName : String) (h : Tape.Header) (content : ByteArray) :
    Work Dump := do
  if r.verbosity = 1 then list (escaped shownName)
  else if 1 < r.verbosity then Listing.line r h shownName h.link
  pure { d with bytes := d.bytes ++ Tape.memberBytes h content }

/-- Take away what was put into the archive. -/
def takeAway (r : Request) (path : String) (isDirectory : Bool) : Work Unit := do
  if r.removesSources then
    let d ← (get : Step Desk)
    let text := Octets.toText path
    let files := d.machine.files
    match if isDirectory then files.removeDir d.cwd text else files.removeFile d.cwd text with
    | .ok files => (Step.setFiles files : Step Unit)
    | .error fault => cannot path (if isDirectory then "rmdir" else "unlink") fault

/-- A path with one slash at its end. -/
def slashed (path : String) : String :=
  let path := Names.withoutSlashes path
  if path = "/" then path else path ++ "/"

/-- The file has more names than one. -/
def hasManyNames (t : FileTree) (number : Nat) : Bool :=
  1 < (t.numbers.filter (· == number)).length

/-- The name of a member. -/
def nameOf (r : Request) (path : String) : Work String :=
  Naming.safe r.absolute false (Naming.transformed r.transforms Transform.names path)

/-- Put a file into the archive, with all that is in it. So many directories may be left to go
into. With `looks` the file is looked for under other names even if it has none. -/
def dump (r : Request) (setting : Setting) (looks : Bool) : Nat → String → Dump → Work Dump
  | 0, _, d => pure d
  | depth + 1, path, d => do
    if Choice.isExcluded setting.excluded (Names.withoutSlashes path) then return d
    let name ← nameOf r path
    match ← (Step.stat r.follows path : Step _) with
    | .error fault => do
      cannot path "stat" fault
      pure d
    | .ok (l, .directory) => do
      let d ← add r d (slashed path) (header (slashed name) '5' 0o755 0 "") .empty
      let t ← (Step.files : Step _)
      let names := if setting.recursive then (t.names l).map Octets.ofText else []
      let d ← names.foldlM (fun d n => dump r setting false depth (slashed path ++ n) d) d
      takeAway r (Names.withoutSlashes path) true
      pure d
    | .ok (_, .link target) => do
      let d ← add r d path (header name '2' 0o777 0 (Octets.ofText target)) .empty
      takeAway r path false
      pure d
    | .ok (l, .file bytes executable number?) => do
      if d.archive = some l then
        warn (shown path ++ ": archive cannot contain itself; not dumped")
        return d
      let mode := Mode.ofFile executable
      let t ← (Step.files : Step _)
      let whole := header name '0' mode bytes.size ""
      let d ← match number?.filter (hasManyNames t) with
        | none => do
          if looks then let _ ← Naming.safe r.absolute true path
          add r d path whole bytes
        | some n =>
          match d.files.find? (·.1 == n) with
          | some (_, first) => add r d path (header name '1' mode 0 first) .empty
          | none => do
            let first ← Naming.safe r.absolute true path
            add r { d with files := (n, first) :: d.files } path whole bytes
      takeAway r path false
      pure d

def depthLimit : Nat := 4096

def operands (r : Request) (areMany : Bool) : List Operand → Dump → Work Dump
  | [], d => pure d
  | o :: os, d => do
    goTo o.setting.steps
    operands r areMany os (← dump r o.setting areMany depthLimit o.name d)

/-- What is said about items behind the last name, which nothing is left for. -/
def misplaced (items : List Item) : List String :=
  let isName : Item → Bool := fun i => match i with
    | .name _ | .namesIn _ => true
    | _ => false
  let behind := (items.reverse.takeWhile (!isName ·)).reverse
  behind.filterMap fun i => match i with
    | .directory path => some ("-C " ++ Quoting.plain path ++ " has no effect")
    | .excluded p => some ("--exclude " ++ Quoting.plain p ++ " has no effect")
    | .excludedIn path => some ("--exclude-from " ++ Quoting.plain path ++ " has no effect")
    | .recursion isOn => some ((if isOn then "--recursion" else "--no-recursion") ++ " has no effect")
    | _ => none

/-! ## Writing -/

def compressionOf (r : Request) : Option Compression :=
  match r.compression with
  | some compression => some compression
  | none => if r.compressesByName then Source.ending? r.archive else none

/-- Open the archive for writing. -/
def openArchive (r : Request) (mode : OpenMode) : Work (Option Nat) := do
  if r.archive = "-" then
    let d ← (get : Step Desk)
    modify fun t => { t with channel := if t.channel = .output then .errors else t.channel }
    pure (d.descriptors.get? 1)
  else
    match ← (Step.openFile r.archive mode : Step _) with
    | .ok index => pure (some index)
    | .error fault =>
      if (compressionOf r).isSome then do
        helperFailed .child [shown r.archive ++ ": Cannot open: " ++ fault.summary]
        childEnded 2
      else do
        cannot r.archive "open" fault
        throw .fatal

def writeArchive (r : Request) (index? : Option Nat) (bytes : ByteArray) : Work Unit := do
  let d ← (get : Step Desk)
  let written : Except Fault Machine := match index? with
    | none => .error .badDescriptor
    | some index => d.machine.write index bytes
  match written with
  | .ok machine => set (σ := Desk) { d with machine }
  | .error fault => do
    cannot r.archive "write" fault
    throw .fatal

/-- The members of an archive that there is already, as they stand. -/
def membersOf (data : ByteArray) : Nat → Nat → ByteArray
  | 0, n => data.extract 0 (n * Tape.blockSize)
  | left + 1, n =>
    match (Tape.next data [] n).found with
    | .member m => membersOf data left (m.content + Tape.blocksFor m.header.size)
    | _ => data.extract 0 (n * Tape.blockSize)

/-- Make an archive, behind what is in it already if it is to be made longer. -/
def archive (r : Request) : Work Unit := do
  let before ←
    if r.task = .append ∧ r.archive ≠ "-" then
      match ← (Step.readFile r.archive : Step _) with
      | .ok text =>
        let data := Octets.toBytes text
        pure (membersOf data (Tape.blockCount data + 1) 0)
      | .error _ => pure .empty
    else pure .empty
  let index? ← openArchive r (if r.task = .append then .forBoth else .forWriting)
  let c ← Choice.ofRequest r
  let place ← (Step.stat true r.archive : Step _)
  let location := if r.archive = "-" then none else place.toOption.map (·.1)
  let d ← operands r (1 < c.operands.length) c.operands ⟨before, [], location⟩
  let whole := Tape.archiveOf d.bytes
  match compressionOf r with
  | none => writeArchive r index? whole
  | some .gzip => writeArchive r index? (Gzip.pack whole)
  | some (.absent program) => do
    Step.printError ("/bin/sh: 1: " ++ program ++ ": not found\n")
    childEnded 127
  let flaws := misplaced r.items
  if flaws ≠ [] then
    warn ("The following options were used after non-option arguments.  These options are " ++
      "positional and affect only arguments that follow them.  Please, rearrange them properly.")
    forEach complain flaws

/-! ## Taking members out -/

/-- The members from a block on that are not meant, as they stand. So many may be left. -/
def kept (c : Choice) (data : ByteArray) : Nat → Nat → ByteArray → Work ByteArray
  | 0, _, before => pure before
  | left + 1, n, before => do
    match (Tape.next data [] n).found with
    | .member m => do
      let next := m.content + Tape.blocksFor m.header.size
      let isMeant ← c.means (Names.withoutSlashes m.header.name)
      let bytes := data.extract (n * Tape.blockSize) (next * Tape.blockSize)
      kept c data left next (if isMeant then before else before ++ bytes)
    | _ => pure before

/-- Take the members that are meant out of an archive. -/
def withoutMembers (r : Request) (c : Choice) : Work Unit := do
  let s ← Source.open r
  let bytes ← kept c s.data (Tape.blockCount s.data + 1) 0 .empty
  if (← get : Trip).found ≠ [] then
    let index? ← openArchive r .forWriting
    writeArchive r index? (Tape.archiveOf bytes)

end BenchCheckout.Utility.Tar.Create
