import BenchCheckout.Project
import BenchCheckout.Tool

/-!
# Archives of projects

An archive is downloaded to a file next to its place and moved there only when the download is
complete, so what is at the archive's place is always whole (`Archive.fetch`).
-/

namespace BenchCheckout

/-- What is done with an archive that was downloaded. -/
inductive ArchivePolicy where
  /-- One that is there already is used, and it stays. -/
  | cached
  /-- It is always downloaded, and deleted once its content is in place. -/
  | transient
deriving DecidableEq, Repr

namespace Archive

/-- Where the log lines of this module come from. -/
def area : String := "d4j_prep::archive"

/-- The absolute path of a project's archive, as seen from a directory `cwd` that exists. -/
def pathFrom (cwd : Location) (archiveDir : String) (project : ProjectId) :
    Except Failure String :=
  let path := Path.join archiveDir project.archiveName
  match Path.absolute cwd.text path with
  | .ok p => .ok p
  | .error fault => .error (.during (.resolvingArchive path) (.file fault))

/-- The absolute path of a project's archive. A relative archive directory has none once the working
directory is gone. -/
def path (config : Config) (project : ProjectId) : Action String := do
  if ← Action.look (·.hasStart · config.archiveDir) then
    Action.ofExcept (← Action.look fun _ cwd => pathFrom cwd config.archiveDir project)
  else
    let path := Path.join config.archiveDir project.archiveName
    Action.fail (.during (.resolvingArchive path) (.file .noEntry))

/-- The place of an archive while it is being downloaded. -/
def partialPath (archive : String) : String :=
  Path.withExtension archive ProjectId.partialExtension

/-- Download an archive to its place in the directory `dir`. A download that fails leaves nothing.
-/
def download (config : Config) (project : ProjectId) (dir archive : String) : Action Unit := do
  Action.change (.creatingArchiveDir dir) (.createDirs dir)
  let unfinished := partialPath archive
  let url := project.archiveUrl config.archiveBaseUrl
  match ← Action.attempt
      (config.downloader.run "download" [("url", url), ("output", unfinished)] dir) with
  | .error f =>
    let _ ← Action.attemptCall (.removeFile unfinished)
    Action.fail f
  | .ok () =>
    Action.change (.movingDownload archive) (.rename unfinished archive)
    Action.log ⟨.debug, area, "downloaded", [("archive", archive), ("url", url)]⟩

/-- Make sure that a project's archive is there, and tell its absolute path. -/
def fetch (config : Config) (project : ProjectId) (policy : ArchivePolicy) : Action String := do
  let archive ← path config project
  let present ← Action.isFile archive
  if policy = .cached ∧ present then
    Action.log ⟨.info, area, "reusing cached archive", [("archive", archive)]⟩
  else
    match Path.parent? archive with
    | none => Action.failWith .noArchiveDir
    | some dir => download config project dir archive
  pure archive

end Archive

end BenchCheckout
