import BenchCheckout.Utility.Backup
import BenchCheckout.Utility.Desk
import BenchCheckout.Utility.Names

/-!
# Making links

`ln` gives a file another name, or makes a symbolic link.
-/

namespace BenchCheckout.Utility.Link

open Step

structure Manner where
  symbolic : Bool
  /-- A link that is to be linked to is followed. -/
  follows : Bool
  relative : Bool
  force : Bool
  asks : Bool
  verbose : Bool
  backup : Option Backup

namespace Manner

def removes (m : Manner) : Bool := m.force || m.asks || m.backup.isSome

end Manner

/-- The target of a link that leads from a path to another one. -/
def relativeTarget (s : Scene) (source dest : String) : String :=
  let locationOf (path : String) : Option Location :=
    match s.locate path with
    | .ok l => some l
    | .error _ =>
      match s.locate (Names.dir path) with
      | .ok l => some (l ++ [Octets.toText (Names.base path)])
      | .error _ => none
  match locationOf source, locationOf (Names.dir dest) with
  | some target, some here =>
    let shared := ((target.zip here).takeWhile fun (a, b) => a == b).length
    let ups := List.replicate (here.length - shared) ".."
    let names := ups ++ (target.drop shared).map Octets.ofText
    if names.isEmpty then "." else String.intercalate "/" names
  | _, _ => source

/-- Give the file at a path another name. -/
def hardLink (follows : Bool) (source dest : String) : Step (Option Fault) := do
  let d ← get
  match ← stat follows source with
  | .error fault => pure (some fault)
  | .ok (l, e) =>
    match d.machine.files.spot d.cwd (Octets.toText dest) with
    | .error fault => pure (some fault)
    | .ok spot =>
      if ¬ IsName spot.last then pure (some .alreadyExists)
      else match d.machine.files.lookUp spot with
        | .error fault => pure (some fault)
        | .ok (some _) => pure (some .alreadyExists)
        | .ok none =>
          if spot.slash then pure (some .noEntry)
          else match e with
            | .directory => pure (some .notPermitted)
            | .link _ => do
              setFiles (d.machine.files.putAt spot.location e)
              pure none
            | .file bytes executable _ =>
              match d.machine.numberAt l with
              | some (number, machine) => do
                set { d with machine }
                let file := Entry.file bytes executable (some number)
                setFiles ((← files).putAt spot.location file)
                pure none
              | none => pure (some .notPermitted)

def symbolicLink (target dest : String) : Step (Option Fault) := do
  let d ← get
  match d.machine.files.createLink d.cwd (Octets.toText target) (Octets.toText dest) with
  | .ok files => do
    setFiles files
    pure none
  | .error fault => pure (some fault)

/-- Make a link, and tell why that was not possible. -/
def attempt (m : Manner) (source dest : String) : Step (Option Fault) :=
  if m.symbolic then symbolicLink source dest else hardLink m.follows source dest

/-- Take away what is at a path. -/
def unlink (path : String) : Step (Option Fault) := do
  let d ← get
  match d.machine.files.removeFile d.cwd (Octets.toText path) with
  | .ok files => do
    setFiles files
    pure none
  | .error fault => pure (some fault)

/-- The entries at two paths are one file, and nothing would be left of it. -/
def isOnlyName (m : Manner) (source dest : String) : Step Bool := do
  let s ← scene
  match ← stat (m.symbolic || m.follows) source, ← stat false dest with
  | .ok (a, _), .ok (b, _) =>
    let isSame := s.files.isSameFile a b
    let number? := (s.files.get? b).bind (·.number?)
    let isLone := match number? with
      | some n => (s.files.numbers.filter (· == n)).length < 2
      | none => true
    pure (isSame && (isLone || (s.entryLocation source).toOption == (s.entryLocation dest).toOption))
  | _, _ => pure false

def tell (m : Manner) (source dest : String) (backup : Option String) : Step Unit := do
  if m.verbose then
    let front := backup.elim "" fun b => Quoting.always b ++ " ~ "
    let arrow := if m.symbolic then " -> " else " => "
    say (front ++ Quoting.always dest ++ arrow ++ Quoting.always source ++ "\n")

def cannot (m : Manner) (source dest : String) (fault : Fault) : Step Unit :=
  let what :=
    if m.symbolic then
      let isPlain := fault ≠ .nameTooLong && source ≠ ""
      "failed to create symbolic link " ++ Quoting.always dest ++
        (if isPlain then "" else " -> " ++ Quoting.always source)
    else
      let isPlain := fault == .alreadyExists
      "failed to create hard link " ++ Quoting.always dest ++
        (if isPlain then "" else " => " ++ Quoting.always source)
  complainOf what fault

/-- Make a link where something may be already. -/
def replace (m : Manner) (source dest : String) : Step Unit := do
  match ← stat false dest with
  | .error .noEntry =>
    match ← attempt m source dest with
    | none => tell m source dest none
    | some f => cannot m source dest f
  | .error f => complainOf ("failed to access " ++ Quoting.always dest) f
  | .ok (_, .directory) => complain (Quoting.beforeColon dest ++ ": cannot overwrite directory")
  | .ok _ =>
    if ← isOnlyName m source dest then
      complain (Quoting.always source ++ " and " ++ Quoting.always dest ++ " are the same file")
    else
      let goesOn ← if m.asks then ask ("replace " ++ Quoting.always dest) else pure true
      if !goesOn then return ← setStatus 1
      let backup ← match m.backup with
        | some b => b.moveAway dest
        | none => pure none
      if backup.isNone then
        let _ ← unlink dest
      match ← attempt m source dest with
      | none => tell m source dest backup
      | some f => cannot m source dest f

/-- Make a link. `first`: why it could not be made at once. -/
def linkOne (m : Manner) (source dest : String) (first : Option Fault) : Step Unit := do
  let sourceState ← stat m.follows source
  match !m.symbolic && first.isSome, sourceState with
  | true, .error fault => complainOf ("failed to access " ++ Quoting.always source) fault
  | _, sourceState =>
    match first with
    | none => tell m source dest none
    | some fault =>
      let isDirectory := match sourceState with
        | .ok (_, e) => e.isDirectory
        | .error _ => false
      if !m.symbolic && isDirectory then
        complain (Quoting.beforeColon source ++ ": hard link not allowed for directory")
      else
        let s ← scene
        let source := if m.relative then relativeTarget s source dest else source
        if m.removes then replace m source dest
        else if m.relative then
          match ← attempt m source dest with
          | none => tell m source dest none
          | some f => cannot m source dest f
        else cannot m source dest fault

/-- Make a link at once, unless it is still to be said what it leads to. -/
def start (m : Manner) (source dest : String) : Step (Option Fault) :=
  if m.relative then pure (some .alreadyExists) else attempt m source dest

def linkInto (m : Manner) (dir : String) : List String → Step Unit
  | [] => pure ()
  | source :: sources => do
    let dest := Names.concat dir (Names.base source)
    linkOne m source dest (← start m source dest)
    linkInto m dir sources

/-- What stands in the way of a path that is to be a directory. A link is one only if it may be
followed. -/
def directoryFault (follows : Bool) (path : String) : Step (Option Fault) := do
  match ← stat follows path with
  | .ok (_, .directory) => pure none
  | .ok _ => pure (some .notDirectory)
  | .error fault => pure (some fault)

def rules : List OptionRule :=
  [.attached "backup" [] ["backup"], .flag "simpleBackup" ['b'] [],
    .flag "directories" ['d', 'F'] ["directory"], .flag "plainDest" ['n'] ["no-dereference"],
    .flag "noTarget" ['T'] ["no-target-directory"], .flag "force" ['f'] ["force"],
    .flag "ask" ['i'] ["interactive"], .valued "suffix" ['S'] ["suffix"],
    .valued "target" ['t'] ["target-directory"], .flag "logical" ['L'] ["logical"],
    .flag "physical" ['P'] ["physical"], .flag "relative" ['r'] ["relative"],
    .flag "symbolic" ['s'] ["symbolic"], .flag "verbose" ['v'] ["verbose"]]

def mannerOf (o : Options) : Manner where
  symbolic := o.has "symbolic"
  follows := o.last? ["logical", "physical"] == some "logical"
  relative := o.has "relative"
  force := o.last? ["force", "ask"] == some "force"
  asks := o.last? ["force", "ask"] == some "ask"
  verbose := o.has "verbose"
  backup := Backup.ofOptions o

/-- What is wrong with a directory that an option names. -/
def targetFlaw (dir : String) : Step (Option String) := do
  match ← stat true dir with
  | .ok (_, .directory) => pure none
  | .ok _ => pure (some ("target " ++ Quoting.always dir ++ " is not a directory"))
  | .error fault => pure (some ("failed to access " ++ Quoting.always dir ++ ": " ++ fault.summary))

def run (o : Options) (m : Manner) : Step Unit := do
  let target? := o.value? "target"
  let flaw ← match target? with
    | some dir => targetFlaw dir
    | none => pure none
  if let some flaw := flaw then return ← complain flaw
  match o.words, target? with
  | [], _ => complainUsage 1 "missing file operand"
  | words, target? =>
    if m.relative ∧ !m.symbolic then complain "cannot do --relative without --symbolic"
    else if o.has "noTarget" then
      match words, target? with
      | _, some _ =>
        complain
          "cannot combine --target-directory (-t) and --no-target-directory (-T)"
      | [source, dest], none => linkOne m source dest (← start m source dest)
      | [source], none =>
        complainUsage 1 ("missing destination file operand after " ++ Quoting.always source)
      | _ :: _ :: extra :: _, none => complainUsage 1 ("extra operand " ++ Quoting.always extra)
      | [], none => pure ()
    else
      match words, target? with
      | words, some dir => linkInto m dir words
      | [source], none => linkInto m "." [source]
      | [source, dest], none => do
        let first ← start m source dest
        if first ∈ [some .alreadyExists, some .notDirectory, some .invalidArgument] then
          match ← directoryFault (!o.has "plainDest") dest with
          | none => linkInto m dest [source]
          | some _ => linkOne m source dest first
        else linkOne m source dest first
      | words, none =>
        match splitLast words with
        | some (sources, dir) =>
          match ← directoryFault (!o.has "plainDest") dir with
          | none => linkInto m dir sources
          | some fault => complainOf ("target " ++ Quoting.always dir) fault
        | none => pure ()

def utility : Step Unit := withOptions rules 1 fun o => run o (mannerOf o)

end BenchCheckout.Utility.Link
