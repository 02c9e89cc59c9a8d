import BenchCheckout.Utility.Backup
import BenchCheckout.Utility.Desk
import BenchCheckout.Utility.Mode
import BenchCheckout.Utility.Names

/-!
# Copying files

`cp` copies files, and directories with all that lies in them. A `Manner` is what the options ask
for, and a `Trip` is what is to be remembered on the way through the files of one operand.
-/

namespace BenchCheckout.Utility.Copy

open Step

/-- Whether links in the place of what is to be copied are followed. -/
inductive Following where
  | never
  | operands
  | always
deriving DecidableEq, Repr

structure Manner where
  recursive : Bool
  following : Following
  /-- A file that cannot be opened is removed first. -/
  force : Bool
  /-- Whatever is in the place of the copy is removed first. -/
  removesFirst : Bool
  /-- What is there already stays. -/
  keepsOld : Bool
  asks : Bool
  verbose : Bool
  /-- Symbolic links are made in place of copies. -/
  symbolic : Bool
  /-- The files get other names in place of copies. -/
  linked : Bool
  /-- Copies of the directories above the source are made too. -/
  parents : Bool
  /-- Whether copies get the modes of their sources, if that is asked for; a new one does else. -/
  keepsMode : Option Bool
  /-- The content of files is not copied. -/
  emptied : Bool
  backup : Option Backup

/-- What is remembered while an operand is copied. -/
structure Trip where
  source : String
  dest : String
  /-- The first directory that was made. -/
  firstDir : Option Location
  /-- A directory is about to be copied into itself. -/
  isInside : Bool

abbrev Found := Location × Entry

/-! ## One file for another -/

/-- The two paths name one entry of a directory. -/
def isSameName (s : Scene) (a b : String) : Bool :=
  match s.entryLocation a, s.entryLocation b with
  | .ok l, .ok k => l == k
  | _, _ => false

def isSameFile (s : Scene) (a b : Found) : Bool := s.files.isSameFile a.1 b.1

/-- The file has more names than one. -/
def hasManyNames (s : Scene) (l : Location) : Bool :=
  match (s.files.get? l).bind (·.number?) with
  | some n => 1 < (s.files.numbers.filter (· == n)).length
  | none => false

/-- What to do with a source and a destination that both exist. -/
inductive Verdict where
  | goOn
  | nothingToDo
  | sameFile
deriving DecidableEq, Repr

def isLink : Entry → Bool
  | .link _ => true
  | _ => false

/-- Whether a source may be copied to a destination as far as they might be one file. -/
def verdict (s : Scene) (m : Manner) (source dest : String) (a b : Found) : Verdict :=
  let same := isSameFile s a b
  let sameName := isSameName s source dest
  if same ∧ m.linked then .nothingToDo
  else if m.following = .never ∧ isLink a.2 ∧ isLink b.2 then
    if sameName then .sameFile
    else if m.backup.isSome then .goOn
    else .goOn
  else if m.following ≠ .never ∧ !same then .goOn
  else
    let links :=
      if m.following = .never then some (a, b)
      else match s.findEntry source, s.findEntry dest with
        | .ok a, .ok b => some (a, b)
        | _, _ => none
    match links with
    | none => .goOn
    | some (a', b') =>
      let sameLink := isSameFile s a' b'
      if m.following ≠ .never ∧ isLink a'.2 ∧ isLink b'.2 ∧ m.removesFirst then .goOn
      else if m.backup.isSome then
        if sameLink then if sameName then .sameFile else .goOn
        else if m.following ≠ .never ∧ isLink a'.2 ∧ !isLink b'.2 then .sameFile
        else .goOn
      else if m.removesFirst ∧ isLink b'.2 then .goOn
      else if m.removesFirst ∧ sameLink ∧ hasManyNames s b'.1 ∧ !sameName then .goOn
      else if !isLink a'.2 ∧ !isLink b'.2 ∧ !sameLink then .goOn
      else if !isLink a'.2 ∧ !isLink b'.2 ∧ m.linked then .nothingToDo
      else if m.symbolic ∧ isLink b'.2 then .goOn
      else if m.following = .never then
        match s.find source, s.find dest with
        | .ok x, .ok y =>
          if !isSameFile s x y then .goOn
          else if m.linked then (if isLink b'.2 then .goOn else .nothingToDo)
          else .sameFile
        | _, _ => .goOn
      else .sameFile

/-! ## Making copies -/

/-- A change, or a complaint that it is not possible; whether it was. -/
def changed (result : Except Fault FileTree) (act path : String) : Step Bool :=
  change result ("cannot " ++ act ++ " " ++ Quoting.always path)

def unlink (path : String) : Step Bool := do
  let d ← get
  changed (d.machine.files.removeFile d.cwd (Octets.toText path)) "remove" path

/-- Tell that a file was removed. -/
def tellRemoved (m : Manner) (path : String) : Step Unit := do
  if m.verbose then say ("removed " ++ Quoting.always path ++ "\n")

def tellCopied (m : Manner) (source dest : String) (backup : Option String) : Step Unit := do
  if m.verbose then
    let behind := backup.elim "" fun b => " (backup: " ++ Quoting.always b ++ ")"
    say (Quoting.always source ++ " -> " ++ Quoting.always dest ++ behind ++ "\n")

/-- The content of a source. -/
def contentOf (source : Found) : ByteArray × Bool :=
  match source with
  | (l, .file bytes executable _) =>
    if l = Machine.nullDevice then (.empty, false) else (bytes, executable)
  | _ => (.empty, false)

/-- Copy the content of a file to a new one. -/
def writeNew (m : Manner) (dest : String) (bytes : ByteArray) (executable : Bool) :
    Step Bool := do
  let d ← get
  let bytes := if m.emptied then .empty else bytes
  let executable := executable && m.keepsMode != some false
  let cannot (fault : Fault) : Step Bool := do
    complainOf ("cannot create regular file " ++ Quoting.always dest) fault
    pure false
  let fault (f : Fault) : Fault :=
    if f = .isDirectory ∧ Names.endsInSlash dest then .notDirectory else f
  if (← scene).isLink dest then
    complain ("not writing through dangling symlink " ++ Quoting.always dest)
    pure false
  else match d.machine.files.landing d.cwd (Octets.toText dest) with
    | .ok l => do
      setFiles (d.machine.files.fill l bytes executable)
      pure true
    | .error f => cannot (fault f)

/-- Copy the content of a file into one that exists. -/
def writeOver (m : Manner) (dest : String) (bytes : ByteArray) (executable : Bool) :
    Step Bool := do
  match ← stat true dest with
  | .ok (l, .file oldBytes old _) => do
    let bytes := if m.emptied then oldBytes else bytes
    let executable := if m.keepsMode = some true then executable else old
    if l ≠ Machine.nullDevice then setFiles ((← files).fill l bytes executable)
    pure true
  | .ok _ => writeNew m dest bytes executable
  | .error fault => do
    if m.force then
      if ← unlink dest then
        tellRemoved m dest
        writeNew m dest bytes executable
      else pure false
    else
      complainOf ("cannot create regular file " ++ Quoting.always dest) fault
      pure false

/-- Put an entry that is no directory in the place of a path. -/
def place (m : Manner) (what dest : String) (make : String → FileTree → Location →
    Except Fault FileTree) : Step Bool := do
  let d ← get
  let attempt (files : FileTree) : Except Fault FileTree := make (Octets.toText dest) files d.cwd
  match attempt d.machine.files with
  | .error .alreadyExists =>
    if m.force ∨ m.removesFirst then
      match d.machine.files.removeFile d.cwd (Octets.toText dest) with
      | .ok files => changed (attempt files) what ""
      | .error fault => do
        complainOf what fault
        pure false
    else
      complainOf what .alreadyExists
      pure false
  | .ok files => do
    setFiles files
    pure true
  | .error fault => do
    complainOf what fault
    pure false

def placeLink (m : Manner) (target dest : String) : Step Bool :=
  place m ("cannot create symbolic link " ++ Quoting.always dest ++ " to " ++ Quoting.always target)
    dest fun path files cwd => files.createLink cwd (Octets.toText target) path

/-- Give a file a second name. -/
def placeName (m : Manner) (source : Found) (sourcePath dest : String) : Step Bool := do
  let d ← get
  let what := "cannot create hard link " ++ Quoting.always dest ++ " to " ++
    Quoting.always sourcePath
  let entry ← match source.2 with
    | .file bytes executable _ =>
      match d.machine.numberAt source.1 with
      | some (number, machine) => do
        set { d with machine }
        pure (Entry.file bytes executable (some number))
      | none => pure source.2
    | e => pure e
  place m what dest fun path files cwd => do
    let spot ← files.spot cwd path
    match ← files.lookUp spot with
    | some _ => .error .alreadyExists
    | none => if spot.slash then .error .noEntry else .ok (files.putAt spot.location entry)

/-! ## Entries -/

/-- What is to be done with a destination that exists, before the copy is made: go on with it or
without it, or not at all. -/
inductive Readiness where
  | onto
  | fresh (backup : Option String)
  /-- There is nothing to be done, or it cannot be done. -/
  | finished
deriving DecidableEq, Repr

/-- Get a destination out of the way, if that is to be done. -/
def prepare (m : Manner) (source dest : String) (a b : Found) (isOwn : Bool) : Step Readiness := do
  let s ← scene
  let refuse (text : String) : Step Readiness := do
    complain text
    pure .finished
  match verdict s m source dest a b with
  | .sameFile =>
    refuse (Quoting.always source ++ " and " ++ Quoting.always dest ++ " are the same file")
  | .nothingToDo => pure .finished
  | .goOn =>
    let isDirectory := a.2.isDirectory
    if !isDirectory && m.keepsOld then pure .finished
    else
      let allowed ←
        if !isDirectory && m.asks && !b.2.isDirectory then
          ask ("overwrite " ++ Quoting.always dest)
        else pure true
      if !allowed then
        setStatus 1
        pure .finished
      else if isDirectory && !b.2.isDirectory && m.backup.isNone then
        refuse ("cannot overwrite non-directory " ++ Quoting.always dest ++ " with directory " ++
          Quoting.always source)
      else if isOwn && !b.2.isDirectory then
        refuse ("will not overwrite just-created " ++ Quoting.always dest ++ " with " ++
          Quoting.always source)
      else if !isDirectory && b.2.isDirectory && m.backup.isNone then
        refuse ("cannot overwrite directory " ++ Quoting.always dest ++ " with non-directory")
      else match m.backup with
        | some backup =>
          if b.2.isDirectory ∨ Names.isDots (Names.base source) then pure .onto
          else return .fresh (← backup.moveAway dest)
        | none =>
          let unlinks := !b.2.isDirectory &&
            (m.removesFirst || (m.following == .never && isLink a.2))
          if unlinks then
            if ← unlink dest then
              tellRemoved m dest
              pure (.fresh none)
            else pure .finished
          else pure .onto

/-- A link can be made that leads from its place to the source. -/
def canLinkTo (s : Scene) (source dest : String) : Bool :=
  source.startsWith "/" ||
    match s.locate (Names.dir dest) with
    | .ok l => l == s.cwd
    | .error _ => true

/-- Copy what is no directory. -/
def copyPlain (m : Manner) (a : Found) (source dest : String) (r : Readiness) : Step Bool := do
  let (bytes, executable) := contentOf a
  if m.symbolic then
    if canLinkTo (← scene) source dest then placeLink m source dest
    else
      complain (Quoting.beforeColon dest ++
        ": can make relative symbolic links only in current directory")
      pure false
  else if m.linked then placeName m a source dest
  else match a.2, r with
    | .link target, _ => placeLink m (Octets.ofText target) dest
    | _, .onto => writeOver m dest bytes executable
    | _, _ => writeNew m dest bytes executable

/-- The names in a directory. The one that was made first for an operand comes last. -/
def namesIn (s : Scene) (l : Location) (t : Trip) : List String :=
  let names := s.files.names l
  let (late, early) := names.partition fun n => t.firstDir == some (l ++ [n])
  (early ++ late).map Octets.ofText

/-- Copy what lies in a directory; `step` copies an entry of it. -/
def copyAll (step : Trip → String → String → Step (Bool × Trip)) (t : Trip)
    (source dest : String) : List String → Step (Bool × Trip)
  | [] => pure (true, t)
  | name :: names => do
    let (ok, t) ← step t (Names.concat source name) (Names.concat dest name)
    if t.isInside then pure (false, t)
    else
      let (rest, t) ← copyAll step t source dest names
      pure (ok && rest, t)

/-- Copy an entry to a place that is ready for it; `isThere`: it is a directory. -/
def copyTo (step : Trip → String → String → Step (Bool × Trip)) (m : Manner) (t : Trip)
    (a : Found) (source dest : String) (r : Readiness) (isThere : Bool) : Step (Bool × Trip) := do
  let backup := match r with
    | .fresh b => b
    | _ => none
  if !a.2.isDirectory then
    tellCopied m source dest backup
    return (← copyPlain m a source dest r, t)
  else
    let made ←
      if isThere then pure true
      else
        let d ← get
        changed (d.machine.files.createDir d.cwd (Octets.toText dest)) "create directory" dest
    if !made then pure (false, t)
    else
      if !isThere then tellCopied m source dest none
      let s ← scene
      let firstDir :=
        if isThere ∨ t.firstDir.isSome then t.firstDir else (s.locate dest).toOption
      let t := { t with firstDir }
      copyAll step t source dest (namesIn s a.1 t)

/-- Copy an entry. `own`: the destinations that were made for other operands. So many directories
may be left to go into. -/
def copy : Nat → Manner → (isOperand : Bool) → (own : List String) → Trip → String → String →
    Step (Bool × Trip)
  | 0, _, _, _, t, _, _ => pure (false, t)
  | depth + 1, m, isOperand, own, t, source, dest => do
    let inner := if m.following = .operands then { m with following := .never } else m
    let step : Trip → String → String → Step (Bool × Trip) := copy depth inner false []
    let follows := m.following = .always ∨ (isOperand ∧ m.following = .operands)
    match ← stat follows source with
    | .error fault => do
      complainOf ("cannot stat " ++ Quoting.always source) fault
      pure (false, t)
    | .ok a =>
      if a.2.isDirectory ∧ !m.recursive then
        complain ("-r not specified; omitting directory " ++ Quoting.always source)
        pure (false, t)
      else if !isOperand ∧ t.firstDir = some a.1 then
        complain ("cannot copy a directory, " ++ Quoting.always t.source ++ ", into itself, " ++
          Quoting.always t.dest)
        pure (false, { t with isInside := true })
      else
        let followsDest := a.2.isFile && !m.symbolic && !m.linked && m.backup.isNone &&
          !m.removesFirst
        let fresh : Step (Bool × Trip) := copyTo step m t a source dest (.fresh none) false
        match ← stat followsDest dest with
        | .ok b => do
          match ← prepare m source dest a b (isOperand && dest ∈ own) with
          | .finished => return ((← get).status = 0, t)
          | r => copyTo step m t a source dest r (r = .onto && b.2.isDirectory)
        | .error .noEntry => fresh
        | .error fault => do
          let s ← scene
          if Names.endsInSlash dest ∧ !s.exists? (Names.withoutSlashes dest) then fresh
          else
            complainOf ("cannot stat " ++ Quoting.always dest) fault
            pure (false, t)

def depthLimit : Nat := 4096

/-- Copy an operand, and tell whether that was possible. -/
def copyOperand (m : Manner) (own : List String) (source dest : String) : Step Bool :=
  return (← copy depthLimit m true own ⟨source, dest, none, false⟩ source dest).1

/-! ## Operands -/

/-- Make the directories in front of the last component of a path below a directory. -/
def makeParents (m : Manner) (dir : String) : List String → Step Bool
  | [] => pure true
  | above :: more => do
    let dest := Names.concat dir above
    match ← stat true dest with
    | .ok (_, .directory) => makeParents m dir more
    | .ok _ => do
      complain (Quoting.always dest ++ " exists but is not a directory")
      pure false
    | .error _ => do
      let d ← get
      match d.machine.files.createDir d.cwd (Octets.toText dest) with
      | .ok files => do
        setFiles files
        if m.verbose then say (above ++ " -> " ++ dest ++ "\n")
        makeParents m dir more
      | .error fault => do
        complainOf ("cannot make directory " ++ Quoting.always dest) fault
        pure false

/-- Copy operands into a directory. `seen`: the sources before, and `own`: what they became. -/
def copyInto (m : Manner) (dir : String) (own seen : List String) : List String → Step Unit
  | [] => pure ()
  | source :: sources => do
    let dest := if m.parents then Names.concat dir (Names.withoutSlashes source)
      else
        let base := Names.base source
        Names.concat dir (if base = ".." then "." else base)
    let ready ← if m.parents then makeParents m dir (Names.above source) else pure true
    let isDirectory := (← scene).isDirectory source
    if source ∈ seen ∧ !isDirectory ∧ m.backup.isNone ∧ (← scene).exists? source then
      complainFree ("warning: source file " ++ Quoting.always source ++ " specified more than once")
      copyInto m dir own seen sources
    else
      let ok ← if ready then copyOperand m own source dest else pure false
      copyInto m dir (if ok then dest :: own else own) (source :: seen) sources
where
  /-- A complaint that does not change the status. -/
  complainFree (text : String) : Step Unit := do printError ((← get).name ++ ": " ++ text ++ "\n")

/-- Why a path is no directory. -/
def directoryFault (path : String) : Step (Option Fault) := do
  match ← stat true path with
  | .ok (_, .directory) => pure none
  | .ok _ => pure (some .notDirectory)
  | .error fault => pure (some fault)

/-- What the operands of a copy or a move are: pairs of paths, or sources and a directory. -/
inductive Plan where
  | pair (source dest : String)
  | into (dir : String) (sources : List String)
  /-- Nothing, because of a complaint that has been made. -/
  | nothing

/-- The plan that operands make. -/
def planOf (o : Options) : Step Plan := do
  let nothing (t : Step Unit) : Step Plan := do
    t
    pure .nothing
  match o.value? "target", o.words with
  | none, [] | some _, [] => nothing (complainUsage 1 "missing file operand")
  | none, [source] =>
    nothing (complainUsage 1 ("missing destination file operand after " ++ Quoting.always source))
  | target?, words =>
    if o.has "noTarget" then
      match target?, words with
      | some _, _ =>
        nothing (complain "cannot combine --target-directory (-t) and --no-target-directory (-T)")
      | none, [source, dest] => pure (.pair source dest)
      | none, words =>
        nothing (complainUsage 1 ("extra operand " ++ Quoting.always (words.getD 2 "")))
    else match target? with
      | some dir =>
        match ← directoryFault dir with
        | none => pure (.into dir words)
        | some fault => nothing (complainOf ("target directory " ++ Quoting.always dir) fault)
      | none =>
        match splitLast words with
        | none => pure .nothing
        | some (sources, dest) =>
          match ← directoryFault dest, sources with
          | none, sources => pure (.into dest sources)
          | some _, [source] => pure (.pair source dest)
          | some fault, _ => nothing (complainOf ("target " ++ Quoting.always dest) fault)

/-- Sources, without the slashes behind them if that is wanted. -/
def sourcesOf (o : Options) (sources : List String) : List String :=
  if o.has "stripSlashes" then sources.map Names.withoutSlashes else sources

/-- Options that copies and moves have in common. -/
def sharedRules : List OptionRule :=
  [.attached "backup" [] ["backup"], .flag "simpleBackup" ['b'] [], .flag "force" ['f'] ["force"],
    .flag "ask" ['i'] ["interactive"], .flag "noClobber" ['n'] ["no-clobber"],
    .flag "noTarget" ['T'] ["no-target-directory"], .valued "suffix" ['S'] ["suffix"],
    .flag "stripSlashes" [] ["strip-trailing-slashes"],
    .valued "target" ['t'] ["target-directory"], .attached "update" [] ["update"],
    .flag "newer" ['u'] [], .flag "verbose" ['v'] ["verbose"],
    .attached "context" ['Z'] ["context"]]

def rules : List OptionRule :=
  [.flag "archive" ['a'] ["archive"], .flag "attributes" [] ["attributes-only"],
    .flag "contents" [] ["copy-contents"], .flag "debug" [] ["debug"],
    .flag "plainLinks" ['d'] [], .flag "operands" ['H'] [], .flag "hard" ['l'] ["link"],
    .flag "follow" ['L'] ["dereference"], .flag "noFollow" ['P'] ["no-dereference"],
    .flag "keepTimes" ['p'] [], .attached "keep" [] ["preserve"], .valued "drop" [] ["no-preserve"],
    .flag "parents" [] ["parents", "path"], .flag "recursive" ['R', 'r'] ["recursive"],
    .flag "removeFirst" [] ["remove-destination"], .attached "clone" [] ["reflink"],
    .valued "sparse" [] ["sparse"], .flag "symbolic" ['s'] ["symbolic-link"],
    .flag "oneSystem" ['x'] ["one-file-system"]] ++ sharedRules

/-- Only what is older is replaced. All files count as equally old, so that what is there stays. -/
def keepsNewer (o : Options) : Bool :=
  o.has "newer" || (match o.given.reverse.find? (·.1 == "update") with
    | some (_, some "all") => false
    | some _ => true
    | none => false)

/-- What is there already stays, by the last option that says so. -/
def keepsOld (o : Options) : Bool :=
  o.last? ["force", "ask", "noClobber"] == some "noClobber"

/-- Whether copies get the modes of their sources, by the last option that says so. -/
def keepsMode (o : Options) : Option Bool :=
  let isMeant (names : String) : Bool :=
    (Mode.clauses names.toList).any fun n => n == "mode".toList || n == "all".toList
  o.given.foldl (fun kept given =>
    match given with
    | ("archive", _) | ("keepTimes", _) | ("keep", none) => some true
    | ("keep", some names) => if isMeant names then some true else kept
    | ("drop", some names) => if isMeant names then some false else kept
    | _ => kept) none

def mannerOf (o : Options) : Manner :=
  let recursive := o.has "recursive" || o.has "archive"
  let links := ["archive", "plainLinks", "operands", "follow", "noFollow"]
  { recursive
    following := match o.last? links with
      | some "operands" => .operands
      | some "follow" => .always
      | some _ => .never
      | none => if recursive && !o.has "hard" then .never else .always
    force := o.has "force"
    removesFirst := o.has "removeFirst"
    keepsOld := keepsOld o || keepsNewer o
    asks := o.last? ["ask", "noClobber"] == some "ask"
    verbose := o.has "verbose" || o.has "debug"
    symbolic := o.has "symbolic"
    linked := o.has "hard"
    parents := o.has "parents"
    keepsMode := keepsMode o
    emptied := o.has "attributes"
    backup := Backup.ofOptions o }

def utility : Step Unit :=
  withOptions rules 1 fun o => do
    let m := mannerOf o
    match ← planOf o with
    | .nothing => pure ()
    | .into dir sources => copyInto m dir [] [] (sourcesOf o sources)
    | .pair source dest =>
      if m.parents then complainUsage 1 "with --parents, the destination must be a directory"
      else
        let _ ← copyOperand m [] source dest

end BenchCheckout.Utility.Copy
