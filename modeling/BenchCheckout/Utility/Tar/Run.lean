import BenchCheckout.Utility.Tar.Compare
import BenchCheckout.Utility.Tar.Create
import BenchCheckout.Utility.Tar.Extract

/-!
# The archiver

`tar` lists or extracts the members of an archive, or makes an archive. `walk` goes through an
archive member by member, and over what is no member.
-/

namespace BenchCheckout.Utility.Tar

open Work

/-- What was read before. -/
inductive Passed where
  | nothing
  | member
  | zeros
  | flaw
deriving DecidableEq, Repr

/-- What is said of a block that is no header. -/
def complainOfBlock (passed : Passed) : Work Unit := do
  if passed = .nothing then complain "This does not look like a tar archive"
  if passed ≠ .flaw then complain "Skipping to next header"

def remark (m : Tape.Remark) : Work Unit := if m.isFault then complain m.text else warn m.text

/-- The block behind a member that is listed. -/
def listed (r : Request) (s : Source) (m : Tape.Member) (name target : String) : Work Nat := do
  Listing.member r m.header name target
  Extract.behind s m

/-- Do with a member what is asked for. The block that is read next. -/
def act (r : Request) (c : Choice) (s : Source) (m : Tape.Member) : Work Nat := do
  let h := m.header
  let isMeant ← c.means (Names.withoutSlashes h.name)
  if !isMeant && h.kind != 'V' && h.kind != 'M' then Extract.behind s m
  else
    let name ← if h.kind = 'V' then pure h.name else Naming.placed r h.name
    let target ← match h.kind with
      | '1' => Naming.placedTarget r h.link
      | '2' => pure (Naming.transformed r.transforms Transform.symbolicLinks h.link)
      | _ => pure h.link
    match r.task with
    | .extract => Extract.member r s m name target
    | .compare => Compare.member r s m name target
    | _ => listed r s m name target

/-- Go through an archive from a block on. So many headers may be left. -/
def walk (r : Request) (c : Choice) (s : Source) :
    Nat → Passed → List (String × String) → Nat → Work Unit
  | 0, _, _, _ => pure ()
  | left + 1, passed, shared, n => do
    let reading := Tape.next s.data shared n
    forEach remark reading.remarks
    match reading.found with
    | .ended => pure ()
    | .member m => do
      let next ← act r c s m
      walk r c s left .member reading.shared next
    | .other block => do
      complainOfBlock passed
      walk r c s left .flaw reading.shared (block + 1)
    | .zeros block =>
      if r.ignoresZeros then walk r c s left .zeros reading.shared (block + 1)
      else match (Tape.next s.data reading.shared (block + 1)).found with
        | .zeros _ => pure ()
        | _ => warn ("A lone zero block at " ++ (block + 1).repr)

/-- Go through the archive that is asked for. -/
def readArchive (r : Request) (c : Choice) : Work Unit := do
  let s ← Source.open r
  walk r c s (Tape.blockCount s.data + 2) .nothing [] 0
  Source.close s
  c.checkFound

def perform (r : Request) : Work Unit := do
  match r.task with
  | .create | .append => Create.archive r
  | .delete => do
    let c ← Choice.ofRequest r
    Create.withoutMembers r c
    c.checkFound
  | _ => do
    let c ← Choice.ofRequest r
    readArchive r c
    Extract.makeDelayed

/-- Where names are listed. -/
def channelOf (r : Request) : Step (Except Fault Channel) := do
  match r.listing with
  | some path => return (← Step.openFile path .forWriting).map Channel.opening
  | none => pure (.ok (if r.toOutput then .errors else .output))

/-- The last words of the archiver. -/
def finish (result : Except Ending Unit) (trip : Trip) : Step Unit := do
  match result with
  | .error .silent => pure ()
  | .error .fatal => do
    let _ ← (Extract.makeDelayed.run).run trip
    Step.complainWith (max 2 (← get).status) "Error is not recoverable: exiting now"
  | .ok _ =>
    if (← get).status = 2 then
      Step.complainWith 2 "Exiting with failure status due to previous errors"
  if (← get).outputFault.isSome then
    modify fun d => { d with outputFault := none }
    Step.complainWith 2 "stdout: write error"

def utility : Step Unit := do
  let d ← get
  match Request.ofWords d.args with
  | .error refusal => do
    Step.complainWith refusal.status refusal.text
    Step.printError ("Try '" ++ d.name ++ " --help' or '" ++ d.name ++
      " --usage' for more information.\n")
  | .ok r =>
    match ← channelOf r with
    | .error fault => do
      Step.complainWith 2 (shown (r.listing.getD "") ++ ": Cannot open: " ++ fault.summary)
      Step.complainWith 2 "Error is not recoverable: exiting now"
    | .ok channel => do
      let (result, trip) ← ((perform r).run).run (Trip.start d.cwd channel)
      finish result trip

end BenchCheckout.Utility.Tar
