import BenchCheckout.Utility.Link
import BenchCheckout.Utility.Tar.Listing

/-!
# Extracting members

A member is made as a file, a directory or a link. What stands in the way is removed, and missing
directories above are made, as far as the options allow it; then it is tried again. Links that could
lead out of the directory are made when all else has been: `delayed` puts an empty file in their
place, and `makeDelayed` makes them.
-/

namespace BenchCheckout.Utility.Tar.Extract

open Work

/-! ## Changes of the files -/

/-- Make a change, and tell why that was not possible. -/
def attempt (change : FileTree → Location → Except Fault FileTree) : Step (Option Fault) := do
  let d ← get
  match change d.machine.files d.cwd with
  | .ok files => do
    Step.setFiles files
    pure none
  | .error fault => pure (some fault)

/-- Make a new file. -/
def newFile (path : String) (e : Entry) (t : FileTree) (cwd : Location) :
    Except Fault FileTree := do
  let s ← t.spot cwd (Octets.toText path)
  if ¬ IsName s.last then .error .alreadyExists
  else match ← t.lookUp s with
    | some _ => .error .alreadyExists
    | none => if s.slash then .error .isDirectory else .ok (t.put s.dir s.last e)

/-- A path that is made of dots and slashes alone. -/
def isDotsAndSlashes (path : String) : Bool := path.toList.all fun c => c == '.' || c == '/'

/-- Remove what is at a path; with `withTrees` a directory goes with all that is in it. So many
directories may be left to go into. Why it stays, if it does; nothing is said of a path that always
stays. -/
def removeAny (withTrees : Bool) (path : String) : Step (Except (Option Fault) Unit) := do
  let text := Octets.toText path
  if isDotsAndSlashes path then pure (.error none)
  else match ← attempt (fun t cwd => t.removeFile cwd text) with
    | none => pure (.ok ())
    | some .isDirectory =>
      let clear (t : FileTree) (cwd : Location) : FileTree :=
        match withTrees, t.locate cwd text with
        | true, .ok l => t.clear l
        | _, _ => t
      match ← attempt (fun t cwd => (clear t cwd).removeDir cwd text) with
      | none => pure (.ok ())
      | some fault => pure (.error (some fault))
    | some fault => pure (.error (some fault))

/-! ## Trying again -/

/-- What to do after an attempt has failed. -/
inductive Recovery where
  | again (madeAbove : Bool)
  | skip
  | stop
deriving DecidableEq, Repr

/-- The paths of the directories above a member, without those that end in dots. -/
def above (name : String) : List String :=
  (Names.above name).filter fun p => !Names.isDots (Names.base p)

/-- Make directories where they are missing: whether one was made, and the last one that could not
be made. Nothing if it is no use to go on. -/
def makeEach (r : Request) :
    List String → Bool → Option (String × Fault) → Work (Option (Bool × Option (String × Fault)))
  | [], made, failed => pure (some (made, failed))
  | path :: paths, made, _ => do
    match ← (attempt (fun t cwd => t.createDir cwd (Octets.toText path)) : Step _) with
    | none => do
      Listing.madeDirectory r path
      makeEach r paths true none
    | some fault =>
      if fault ∈ [.noEntry, .notDirectory, .nameTooLong, .tooManyLinks] then pure none
      else makeEach r paths made (some (path, fault))

/-- Make the directories above a member. -/
def makeAbove (r : Request) (name : String) : Work Recovery := do
  match ← makeEach r (above name) false none with
  | none => pure .stop
  | some (true, none) => pure (.again true)
  | some (false, none) => pure .stop
  | some (_, some (path, fault)) =>
    match ← (Step.stat true path : Step _) with
    | .ok (_, .directory) => pure (.again true)
    | _ => do
      cannot path "mkdir" fault
      pure .stop

def recover (r : Request) (name : String) (isFile madeAbove : Bool) (fault : Fault) :
    Work Recovery := do
  let isInTheWay := fault = .alreadyExists ∨
    (fault = .tooManyLinks ∧ isFile ∧ r.oldFiles = .overwrite)
  if madeAbove then pure .stop
  else if isInTheWay then
    match r.oldFiles with
    | .skip => do
      if 0 < r.verbosity then warn (shown name ++ ": skipping existing file")
      pure .skip
    | .keep | .removeFirst | .keepNewer => pure .stop
    | .replace | .overwrite =>
      match ← (removeAny false name : Step _) with
      | .ok _ => pure (.again false)
      | .error _ => pure .stop
  else if fault = .noEntry then makeAbove r name
  else pure .stop

/-- How the attempts at something ended. -/
inductive Outcome where
  | done
  | skipped
  | failed (fault : Fault)

/-- Try until it works or cannot be made to work, so many times at most. -/
def persist (r : Request) (name : String) (isFile : Bool) (act : Step (Option Fault)) :
    Nat → Bool → Work Outcome
  | 0, _ => pure (.failed .alreadyExists)
  | n + 1, madeAbove => do
    match ← act with
    | none => pure .done
    | some fault =>
      match ← recover r name isFile madeAbove fault with
      | .again made => persist r name isFile act n made
      | .skip => pure .skipped
      | .stop => pure (.failed fault)

def attempts : Nat := 8

/-! ## Kinds of members -/

/-- The file at a path, if it may get a new content in its place. -/
def overwritable (r : Request) (name : String) : Step (Option (Location × Entry)) := do
  if r.oldFiles = .overwrite then
    match ← Step.stat false name with
    | .ok (l, e) => pure (if e.isDirectory then none else some (l, e))
    | .error _ => pure none
  else pure none

def writeFile (r : Request) (name : String) (bytes : ByteArray) (executable : Bool) :
    Step (Option Fault) := do
  match ← overwritable r name with
  | some (_, .link _) => pure (some .tooManyLinks)
  | some (l, .file ..) => attempt fun t _ => .ok (t.fill l bytes executable)
  | _ => do
    let fault ← attempt (newFile name (.file bytes executable none))
    match fault, ← Step.stat false name with
    | some .alreadyExists, .ok (_, .directory) =>
      pure (some (if r.oldFiles = .overwrite then .isDirectory else .alreadyExists))
    | fault, _ => pure fault

/-- A file's content is cut off by the end of the archive. -/
def cutOff {α : Type} : Work α := do
  complain "Unexpected EOF in archive"
  fatal "Unexpected EOF in archive"

def toOutput (name : String) (bytes : ByteArray) : Work Unit := do
  if let some fault ← (Step.write 1 (Octets.ofBytes bytes) : Step _) then
    cannot name "write" fault

def file (r : Request) (s : Source) (m : Tape.Member) (name : String) : Work Nat := do
  let bytes := Tape.contentAt s.data m.content m.header.size
  let behind := m.content + Tape.blocksFor m.header.size
  let isWhole := bytes.size = m.header.size
  if r.toOutput then do
    toOutput name bytes
    if !isWhole then cutOff
    pure behind
  else
    if m.header.kind = '7' ∧ !(← get : Trip).saidContiguous then
      modify fun t => { t with saidContiguous := true }
      warn "Extracting contiguous files as regular files"
    let write := writeFile r name bytes (Mode.isExecutable m.header.mode)
    match ← persist r name true write attempts false with
    | .done => do
      if !isWhole then cutOff
      pure behind
    | .skipped => do
      if !isWhole then fatal "Unexpected EOF in archive"
      pure behind
    | .failed fault => do
      if !isWhole then fatal "Unexpected EOF in archive"
      cannot name "open" fault
      pure behind

/-- What is in the place of a directory is as good as it. -/
def isKept (r : Request) (name : String) : Step Bool := do
  match ← Step.stat false name, ← Step.stat true name with
  | .ok (_, .directory), _ => pure true
  | .ok (_, .link _), .ok (_, .directory) => pure r.keepsLinks
  | _, _ => pure false

/-- Make a directory, with so many attempts at most. -/
def directory (r : Request) (name : String) : Nat → Bool → Work Unit
  | 0, _ => pure ()
  | n + 1, madeAbove => do
    match ← (attempt (fun t cwd => t.createDir cwd (Octets.toText name)) : Step _) with
    | none => pure ()
    | some fault =>
      let looks := fault = .alreadyExists ∧
        (madeAbove ∨ r.keepsLinks ∨ r.oldFiles ∈ [.replace, .overwrite])
      if looks ∧ (← (isKept r name : Step _)) then pure ()
      else
        match ← recover r name false madeAbove fault with
        | .again made => directory r name n made
        | .skip => pure ()
        | .stop => if fault ≠ .alreadyExists then cannot name "mkdir" fault

/-- The file in the place of a delayed link that a name leads to. -/
def delayedNumber? (name : String) : Work (Option Nat) := do
  match ← (Step.stat false name : Step _) with
  | .ok (_, e) =>
    let delayed := (← get : Trip).delayed
    pure (e.number?.filter fun n => delayed.any (·.number == n))
  | .error _ => pure none

/-- Put an empty file in the place of a link that is made later. -/
def placeholder (r : Request) (name target : String) (isSymbolic : Bool) : Work Unit := do
  let isThere := (← delayedNumber? name).isSome
  if !isThere then
    let d ← (get : Step Desk)
    let number := max d.machine.nextNumber d.machine.files.freshNumber
    let act : Step (Option Fault) := do
      match ← attempt (newFile name (.file .empty false (some number))) with
      | none => do
        modify fun d => { d with machine := { d.machine with nextNumber := number + 1 } }
        pure none
      | fault => pure fault
    match ← persist r name false act attempts false with
    | .done =>
      let delayed : Delayed := ⟨target, isSymbolic, number, d.cwd, name⟩
      modify fun t => { t with delayed := delayed :: t.delayed }
    | .skipped => pure ()
    | .failed fault => cannot name "open" fault

/-- A link cannot be made. -/
def cannotLink (what name target : String) (fault : Fault) : Work Unit :=
  complain (shown name ++ ": Cannot " ++ what ++ " to " ++ Quoting.plain target ++ ": " ++
    fault.summary)

def symbolicLink (r : Request) (name target : String) : Work Unit := do
  if !r.absolute ∧ (target.startsWith "/" ∨ Naming.hasDots target) then
    placeholder r name target true
  else
    match ← persist r name false (Link.symbolicLink target name) attempts false with
    | .failed fault => cannotLink "create symlink" name target fault
    | _ => pure ()

/-- The two paths are names of one file already. -/
def isLinked (name target : String) : Step Bool := do
  let s ← Step.scene
  match ← Step.stat false target, ← Step.stat false name with
  | .ok (a, _), .ok (b, _) => pure (s.files.isSameFile a b)
  | _, _ => pure false

def hardLink (r : Request) (name target : String) : Work Unit := do
  if (!r.absolute && Naming.hasDots target) || (← delayedNumber? target).isSome then
    placeholder r name target false
  else
    let act : Step (Option Fault) := do
      match ← Link.hardLink false target name with
      | some fault =>
        if (fault == .alreadyExists && target == name) || (← isLinked name target) then pure none
        else pure (some fault)
      | none => pure none
    match ← persist r name false act attempts false with
    | .failed fault => cannotLink "hard link" name target fault
    | _ => pure ()

/-! ## Delayed links -/

def makeOne (l : Delayed) : Work Unit := do
  (modify fun d => { d with cwd := l.cwd } : Step Unit)
  match ← (Step.stat false l.name : Step _) with
  | .error _ => pure ()
  | .ok _ =>
    match ← (Link.unlink l.name : Step _) with
    | some fault => cannot l.name "unlink" fault
    | none =>
      let fault ← if l.isSymbolic then Link.symbolicLink l.target l.name
        else Link.hardLink false l.target l.name
      if let some fault := fault then
        cannotLink (if l.isSymbolic then "create symlink" else "hard link") l.name l.target fault

/-- Make the links that were left for the end, the oldest first. -/
def makeDelayed : Work Unit := do
  let delayed := (← get : Trip).delayed.reverse
  modify fun t => { t with delayed := [] }
  forEach makeOne delayed

/-! ## Members -/

/-- How a member is extracted. -/
inductive Manner where
  | file
  | directory
  | symbolicLink
  | hardLink
  | nothing
deriving DecidableEq, Repr

def mannerOf (h : Tape.Header) : Manner :=
  match h.kind with
  | '0' | '\x00' | '7' => if Listing.isSlashed h.name then .directory else .file
  | '1' => .hardLink
  | '2' => .symbolicLink
  | '3' | '4' | '6' | 'V' => .nothing
  | '5' | 'D' => .directory
  | _ => .file

def isKnown (kind : Char) : Bool :=
  kind ∈ ['0', '\x00', '1', '2', '3', '4', '5', '6', '7', 'D', 'M', 'S', 'V']

/-- Ask whether a member is to be extracted. -/
def ask (name : String) : Work Bool := do
  (Step.say ("extract " ++ Quoting.plain name ++ "?") : Step Unit)
  let d ← (get : Step Desk)
  match (d.descriptors.get? 0).bind fun i => ((d.machine.read i none).toOption).map (i, ·) with
  | none => pure false
  | some (index, bytes, machine) => do
    let text := (Octets.ofBytes bytes).toList
    let line := text.takeWhile (· ≠ '\n')
    let rest := Octets.toBytes (String.ofList (text.drop (line.length + 1)))
    set (σ := Desk) { d with machine := machine.giveBack index rest }
    if line.length = text.length then (Step.say "\n" : Step Unit)
    pure (line.head? == some 'y' || line.head? == some 'Y')

/-- Whether a member is to be extracted. -/
def isWanted (r : Request) (name : String) : Work Bool := if r.asks then ask name else pure true

/-- What is there is removed first, where that is asked for. Whether a member may be extracted. -/
def makeRoom (r : Request) (name : String) : Work Bool := do
  match r.oldFiles with
  | .removeFirst =>
    match ← (removeAny r.removesTrees name : Step _) with
    | .error (some .noEntry) | .error none | .ok _ => pure true
    | .error (some fault) => do
      cannot name "unlink" fault
      pure false
  | .keepNewer =>
    match ← (Step.stat true name : Step _) with
    | .ok (_, .directory) | .error .noEntry => pure true
    | _ => do
      warn ("Current " ++ Quoting.plain name ++ " is newer or same age")
      pure false
  | _ => pure true

/-- The block behind a member that is left out. -/
def behind (s : Source) (m : Tape.Member) : Work Nat := do
  let next := m.content + Tape.blocksFor m.header.size
  if Tape.blockCount s.data < next then fatal "Unexpected EOF in archive"
  pure next

/-- Extract a member under a name. The block that is read next. -/
def member (r : Request) (s : Source) (m : Tape.Member) (name target : String) : Work Nat := do
  let h := m.header
  let isUp := !r.absolute && Naming.hasDots h.name
  if isUp then complain (shown (Names.withoutSlashes h.name) ++ ": Member name contains '..'")
  if name = "" ∨ isUp then behind s m
  else if !(← isWanted r name) then behind s m
  else do
    Listing.member r h name target
    if h.kind = 'M' then
      complain (shown name ++ ": Cannot extract -- file is continued from another volume")
      behind s m
    else
      if !isKnown h.kind then
        warn (shown name ++ ": Unknown file type '" ++ h.kind.toString ++
          "', extracted as normal file")
      let manner := mannerOf h
      if r.toOutput then
        if manner = .file then file r s m name else behind s m
      else if !(← makeRoom r name) then behind s m
      else match manner with
        | .file => file r s m name
        | .directory => do
          directory r name attempts false
          if h.kind = 'D' then behind s m else pure m.content
        | .symbolicLink => do
          symbolicLink r name target
          pure m.content
        | .hardLink => do
          hardLink r name target
          pure m.content
        | .nothing => if h.kind = 'V' then behind s m else pure m.content

end BenchCheckout.Utility.Tar.Extract
