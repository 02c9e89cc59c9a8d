import BenchCheckout.Files.Fault
import BenchCheckout.Json.Fault
import BenchCheckout.Process

/-!
# Failures

A run fails with a `Failure`: a cause, and for some causes what was being done when it arose.
`Failure.text` is the whole chain from the outermost to the innermost, joined by colons.
-/

namespace BenchCheckout

/-- What was being done when a fault arose. -/
inductive Activity where
  | resolvingArchive (path : String)
  | creatingArchiveDir (path : String)
  | movingDownload (archive : String)
  | clearingStaging (path : String)
  | creatingStaging (path : String)
  | readingStaging (path : String)
  | removingStaging (path : String)
  | removingExcluded (path : String)
  | removingStale (path : String)
  | deletingArchive (path : String)
  | movingCheckout (source dest : String)
  | resolvingPath (path : String)
  | readingConfigFile (path : String)
  | parsingConfigFile (path : String)
  /-- A config that was found and not named. -/
  | reading (path : String)
  | parsing (path : String)
  | readingManifest (path : String)
  | writingManifest (path : String)
  | writing (path : String)
deriving DecidableEq, Repr

def Activity.text : Activity → String
  | resolvingArchive p => "Failed to resolve archive path: " ++ p
  | creatingArchiveDir p => "Failed to create archive dir: " ++ p
  | movingDownload p => "Failed to move download into place: " ++ p
  | clearingStaging p => "Failed to clear staging dir: " ++ p
  | creatingStaging p => "Failed to create staging dir: " ++ p
  | readingStaging p => "Failed to read staging dir: " ++ p
  | removingStaging p => "Failed to remove staging dir: " ++ p
  | removingExcluded p => "Failed to remove excluded path: " ++ p
  | removingStale p => "Failed to remove stale checkout: " ++ p
  | deletingArchive p => "Failed to delete archive: " ++ p
  | movingCheckout s d => "Failed to move " ++ s ++ " to " ++ d
  | resolvingPath p => "Failed to resolve path: " ++ p
  | readingConfigFile p => "Failed to read config file: " ++ p
  | parsingConfigFile p => "Failed to parse config file: " ++ p
  | reading p => "Failed to read " ++ p
  | parsing p => "Failed to parse " ++ p
  | readingManifest p => "Failed to read build manifest: " ++ p
  | writingManifest p => "Failed to write build manifest: " ++ p
  | writing p => "Failed to write " ++ p

inductive Cause where
  | invalidProject (raw : String)
  /-- A program could not be started. -/
  | notStarted (step program : String) (fault : Fault)
  /-- A program ended without success. -/
  | toolFailed (step : String) (status : ExitStatus)
  | buildFailed (project : String) (attempts : Nat)
  | archiveLayout (archive : String)
  | missingClasses (path : String)
  | instrumentationFailed (project : String)
  | supportCopyFailed (project : String) (fault : Fault)
  | noWorkspace (path : String)
  | noArchiveDir
  | missingPrerequisites (count : Nat)
  | file (fault : Fault)
  | json (fault : Json.Fault)
deriving DecidableEq, Repr

namespace Cause

/-- The links of the chain, from the outermost. Two causes tell their fault and have it behind them
as well. -/
def chain : Cause → List String
  | invalidProject raw =>
    ["invalid project identifier '" ++ raw ++ "': expected Subject_BugId (e.g. Lang_10)"]
  | notStarted step program fault =>
    ["failed to run " ++ step ++ " (" ++ program ++ "): " ++ fault.text, fault.text]
  | toolFailed step status => [step ++ " failed (" ++ status.text ++ ")"]
  | buildFailed project attempts =>
    ["build of " ++ project ++ " failed after " ++ attempts.repr ++ " attempt(s)"]
  | archiveLayout archive =>
    ["archive " ++ archive ++ " did not contain a single project directory"]
  | missingClasses path => ["compiled classes not found at " ++ path]
  | instrumentationFailed project => ["Instrumentation failed for " ++ project]
  | supportCopyFailed project fault =>
    ["Copy original code failed for " ++ project ++ ": " ++ fault.text, fault.text]
  | noWorkspace path => ["Workspace path is not a directory: " ++ path]
  | noArchiveDir => ["Archive path has no parent directory"]
  | missingPrerequisites count => [count.repr ++ " prerequisite(s) missing"]
  | file fault => [fault.text]
  | json fault => [fault.text]

end Cause

structure Failure where
  activity : Option Activity
  cause : Cause
deriving DecidableEq, Repr

namespace Failure

/-- A cause on its own. -/
def ofCause (cause : Cause) : Failure := ⟨none, cause⟩

/-- A cause in the course of something. -/
def during (activity : Activity) (cause : Cause) : Failure := ⟨some activity, cause⟩

def chain (f : Failure) : List String := (f.activity.map (·.text)).toList ++ f.cause.chain

def text (f : Failure) : String := String.intercalate ": " f.chain

end Failure

end BenchCheckout
