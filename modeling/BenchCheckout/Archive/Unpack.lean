import BenchCheckout.Archive.Basic

/-!
# Unpacking archives

An archive is unpacked in a fresh staging directory. The project's root there is the directory named
after the bug, or else the only entry, if that is a directory (`Archive.unpackedRoot`).
-/

namespace BenchCheckout.Archive

/-- Make `staging` an empty directory. -/
def resetStaging (staging : String) : Action Unit := do
  if ← Action.exists? staging then
    Action.change (.clearingStaging staging) (.removeTree staging)
  Action.change (.creatingStaging staging) (.createDirs staging)

/-- The project's root in `staging`. -/
def unpackedRoot (project : ProjectId) (archive staging : String) : Action String := do
  let expected := Path.join staging project.bugId
  if ← Action.isDirectory expected then
    pure expected
  else
    match ← Action.orFail (.readingStaging staging) (← Action.look (·.list · staging)) with
    | [name] =>
      let only := Path.join staging name
      if ← Action.isDirectory only then pure only else Action.failWith (.archiveLayout archive)
    | _ => Action.failWith (.archiveLayout archive)

/-- Unpack `archive` in `staging`, and tell the project's root there. -/
def extract (config : Config) (project : ProjectId) (archive staging : String) :
    Action String := do
  resetStaging staging
  config.extractor.run "extract" [("archive", archive)] staging
  unpackedRoot project archive staging

/-- Remove `relative` under `root`, and tell whether there was something to remove. -/
def removeExcluded (root relative : String) : Action Bool := do
  let target := Path.join root relative
  if ← Action.isDirectory target then
    Action.change (.removingExcluded target) (.removeTree target)
    pure true
  else if ← Action.exists? target then
    Action.change (.removingExcluded target) (.removeFile target)
    pure true
  else pure false

end BenchCheckout.Archive
