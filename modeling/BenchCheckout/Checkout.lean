import BenchCheckout.Archive.Unpack
import BenchCheckout.Build

/-!
# Checking out a project

`checkout` fetches a project's archive, unpacks it next to the checkout's place, leaves out what
the config excludes, moves the project's root into place and builds it. The id is read before
anything is touched. Where the content cannot be put in place, nothing of it stays behind.
-/

namespace BenchCheckout

/-- The id that a text names. -/
def readProject (raw : String) : Action ProjectId :=
  match ProjectId.parse? raw with
  | some project => pure project
  | none => Action.failWith (.invalidProject raw)

namespace Checkout

structure Options where
  /-- Build what was checked out. -/
  build : Bool
  archive : ArchivePolicy
deriving DecidableEq, Repr

/-- The place of a checkout in its workspace. -/
def place (workspace : String) (project : ProjectId) : String :=
  Path.join workspace project.dirName

/-- The directory next to it that the archive is unpacked in. -/
def staging (workspace : String) (project : ProjectId) : String :=
  Path.join workspace project.stagingName

/-- A line that starts with a bold label. -/
def printLabelled (label text : String) : Action Unit := do
  Action.printLine ("  " ++ (← Action.painted .bold label) ++ " " ++ text)

/-- A green headline. -/
def printStage (text : String) : Action Unit := do
  Action.printLine (← Action.painted (.boldHued .green) text)

/-- Remove an earlier checkout. -/
def removeStale (dest : String) : Action Unit := do
  if ← Action.exists? dest then
    Action.change (.removingStale dest) (.removeTree dest)
    printLabelled "Removed:" dest

/-- Remove the excluded paths under `root`, one after the other. -/
def removeAllExcluded (root : String) : List String → Action Unit
  | [] => pure ()
  | path :: paths => do
    if ← Archive.removeExcluded root path then printLabelled "Excluded:" path
    removeAllExcluded root paths

/-- Unpack the archive and move the project's root to `dest`. -/
def putInPlace (config : Config) (project : ProjectId) (archive staging dest : String) :
    Action Unit := do
  printStage "Extracting..."
  let root ← Archive.extract config project archive staging
  removeAllExcluded root (config.exclusionsFor project.subject)
  Action.change (.movingCheckout root dest) (.rename root dest)
  Action.change (.removingStaging staging) (.removeTree staging)
  printLabelled "Checkout:" dest

/-- Put the archive's content in place. If that fails the staging directory goes away. A transient
archive is deleted in any case, but a failure before that counts first. -/
def unpackInto (config : Config) (project : ProjectId) (policy : ArchivePolicy)
    (archive staging dest : String) : Action Unit := do
  let placed ← Action.attempt (putInPlace config project archive staging dest)
  match placed with
  | .error _ => let _ ← Action.attemptCall (.removeTree staging)
  | .ok () => pure ()
  let deleted ← match policy with
    | .transient =>
      Action.attempt (Action.change (.deletingArchive archive) (.removeFile archive))
    | .cached => pure (.ok ())
  Action.ofExcept placed
  Action.ofExcept deleted

/-- Build the checkout, and tell how it went. -/
def buildInto (config : Config) (project : ProjectId) (dest : String) : Action Unit := do
  printStage "Building..."
  let attempts ← BenchCheckout.build config project dest
  printLabelled "Build:"
    ((← Action.painted (.hued .green) "success") ++ " after " ++ attempts.repr ++ " attempt(s)")

/-- The stages for a project in a workspace that exists. -/
def run (config : Config) (project : ProjectId) (workspace : String) (options : Options) :
    Action String := do
  let dest := place workspace project
  printLabelled "Project:" project.text
  removeStale dest
  printStage "Fetching archive..."
  let archive ← Archive.fetch config project options.archive
  unpackInto config project options.archive archive (staging workspace project) dest
  if options.build then buildInto config project dest
  pure dest

end Checkout

/-- Check out a project in a workspace, and tell where. -/
def checkout (config : Config) (raw workspace : String) (options : Checkout.Options) :
    Action String := do
  let project ← readProject raw
  if ← Action.isDirectory workspace then Checkout.run config project workspace options
  else Action.failWith (.noWorkspace workspace)

end BenchCheckout
