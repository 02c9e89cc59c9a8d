import BenchCheckout.Proofs.Archive.Places
import BenchCheckout.Proofs.Outcome

/-!
# What fetching an archive comes to

* `ToolCommand.outcome_run`: a tool that has to succeed is one job, and its verdict.
* `Archive.outcome_fetch`: an archive that is there is used, and else a download is the creation of
  the archive directory, one job, and a move or a removal.
* `Archive.fetched`: the five ways that a fetch can go.
-/

namespace BenchCheckout

open BenchCheckout.Action

/-! ## Tools -/

namespace ToolCommand

variable (tool : ToolCommand) (step : String) (bindings : List Template.Binding) (cwd : String)

/-- What the end of a job means for a step that has to succeed. -/
def verdict : Except Fault ExitStatus → Except Failure Unit
  | .error fault => .error (.ofCause (.notStarted step tool.program fault))
  | .ok status =>
    if status.isSuccess then .ok () else .error (.ofCause (.toolFailed step status))

theorem verdict_eq_ok_iff {tool : ToolCommand} {step : String} {r : Except Fault ExitStatus} :
    tool.verdict step r = .ok () ↔ r = .ok (.exited 0) := by
  cases r with
  | error fault => simp [verdict]
  | ok status =>
    simp only [verdict, Except.ok.injEq, ExitStatus.isSuccess, beq_iff_eq]
    split <;> simp_all

instance : Memoryless (tool.status step bindings cwd) :=
  .bind inferInstance fun _ => .bind inferInstance fun r => by
    cases r <;> infer_instance

instance : Memoryless (tool.tryRun step bindings cwd) :=
  .bind inferInstance fun _ => inferInstance

instance : Memoryless (tool.run step bindings cwd) :=
  .bind inferInstance fun _ => inferInstance

theorem outcome_status (host : Host) (t : FileTree) :
    (tool.status step bindings cwd).outcome host t =
      ⟨(host.launch (tool.job bindings cwd) t).outcome.mapError fun fault =>
          .ofCause (.notStarted step tool.program fault),
        (host.launch (tool.job bindings cwd) t).files,
        [.launched (tool.job bindings cwd) (host.launch (tool.job bindings cwd) t).outcome
          (host.launch (tool.job bindings cwd) t).files]⟩ := by
  unfold status
  rw [outcome_bind_of, outcome_log, Outcome.value_andThen, outcome_bind_of, outcome_launch,
    Outcome.ok_andThen]
  · cases (host.launch (tool.job bindings cwd) t).outcome with
    | error fault => rfl
    | ok status =>
      simp only
      rw [outcome_bind]
      rfl
  · intro r
    cases r <;> infer_instance
  · exact fun _ => .bind inferInstance fun r => by cases r <;> infer_instance

/-- A tool that has to succeed is one job. -/
theorem outcome_run (host : Host) (t : FileTree) :
    (tool.run step bindings cwd).outcome host t =
      ⟨tool.verdict step (host.launch (tool.job bindings cwd) t).outcome,
        (host.launch (tool.job bindings cwd) t).files,
        [.launched (tool.job bindings cwd) (host.launch (tool.job bindings cwd) t).outcome
          (host.launch (tool.job bindings cwd) t).files]⟩ := by
  unfold run
  rw [outcome_bind, outcome_status]
  cases (host.launch (tool.job bindings cwd) t).outcome with
  | error fault => rfl
  | ok status =>
    show Outcome.andThen ⟨.ok status, _, _⟩ _ = _
    rw [Outcome.ok_andThen, verdict]
    cases status.isSuccess <;> rfl

end ToolCommand

/-! ## Archives -/

namespace Archive

variable (config : Config) (project : ProjectId) (policy : ArchivePolicy) (host : Host)

/-- The job that downloads a project's archive. -/
def downloadJob (cwd : Location) : Job :=
  config.downloader.job
    [("url", project.archiveUrl config.archiveBaseUrl),
      ("output", partialPlace cwd config.archiveDir project)]
    (dir cwd config.archiveDir)

/-- What a download comes to once the archive directory is there: the tool's job, and then a move
into place or the removal of what was downloaded. -/
def downloaded (t : FileTree) : Outcome Unit :=
  let run := host.launch (downloadJob config project host.cwd) t
  let unfinished := partialPlace host.cwd config.archiveDir project
  let archive := place host.cwd config.archiveDir project
  match config.downloader.verdict "download" run.outcome with
  | .error f =>
    let removed := Call.perform host.cwd (.removeFile unfinished) run.files
    ⟨.error f, removed.2,
      [.launched (downloadJob config project host.cwd) run.outcome run.files,
        .changed (.removeFile unfinished) removed.1 removed.2]⟩
  | .ok () =>
    let moved := Call.perform host.cwd (.rename unfinished archive) run.files
    ⟨moved.1.mapError fun fault => .during (.movingDownload archive) (.file fault), moved.2,
      [.launched (downloadJob config project host.cwd) run.outcome run.files,
        .changed (.rename unfinished archive) moved.1 moved.2]⟩

instance (dir archive : String) : Memoryless (download config project dir archive) := by
  refine .bind inferInstance fun _ => .bind inferInstance fun r => ?_
  cases r <;> infer_instance

instance : Memoryless (path config project) :=
  .bind inferInstance fun _ => inferInstance

instance : Memoryless (fetch config project policy) := by
  refine .bind inferInstance fun archive => .bind inferInstance fun present => ?_
  show Memoryless (ite _ _ _)
  cases Path.parent? archive <;> infer_instance

/-- An archive has no absolute path. -/
def unresolved : Failure :=
  .during (.resolvingArchive (Path.join config.archiveDir project.archiveName)) (.file .noEntry)

theorem outcome_path (t : FileTree) :
    (path config project).outcome host t =
      if t.hasStart host.cwd config.archiveDir then
        .value (place host.cwd config.archiveDir project) t
      else .failure (unresolved config project) t := by
  unfold path
  rw [outcome_bind, outcome_look, Outcome.value_andThen]
  split
  · rw [outcome_bind, outcome_look, Outcome.value_andThen, pathFrom_eq, outcome_ofExcept]
    rfl
  · rw [outcome_fail, unresolved]

theorem outcome_download (t : FileTree) :
    (download config project (dir host.cwd config.archiveDir)
      (place host.cwd config.archiveDir project)).outcome host t =
      ((change (.creatingArchiveDir (dir host.cwd config.archiveDir))
        (.createDirs (dir host.cwd config.archiveDir))).outcome host t).andThen fun _ u =>
          downloaded config project host u := by
  unfold download
  rw [outcome_bind_of]
  · congr 1
    funext _ u
    simp only [partialPath_place]
    rw [outcome_bind_of, outcome_attempt, ToolCommand.outcome_run, Outcome.ok_andThen, downloaded]
    · have hj : config.downloader.job
          [("url", project.archiveUrl config.archiveBaseUrl),
            ("output", partialPlace host.cwd config.archiveDir project)]
          (dir host.cwd config.archiveDir) = downloadJob config project host.cwd := rfl
      simp only [hj]
      generalize host.launch (downloadJob config project host.cwd) u = run
      cases config.downloader.verdict "download" run.outcome with
      | error f =>
        simp only
        rw [outcome_bind, outcome_attemptCall, Outcome.ok_andThen, outcome_fail]
        simp [Outcome.failure]
      | ok =>
        simp only
        rw [outcome_bind, outcome_change]
        cases (Call.perform host.cwd (.rename (partialPlace host.cwd config.archiveDir project)
          (place host.cwd config.archiveDir project)) run.files).1 <;>
          simp [Outcome.andThen, Except.mapError, Outcome.value]
    · intro r
      cases r <;> infer_instance
  · exact fun _ => .bind inferInstance fun r => by cases r <;> infer_instance

/-- Fetching an archive that has an absolute path: one that is there may be used, and else it is
downloaded. -/
theorem outcome_fetch (hcwd : ∀ n ∈ host.cwd, IsName n) {t : FileTree}
    (hstart : t.hasStart host.cwd config.archiveDir) :
    (fetch config project policy).outcome host t =
      if policy = .cached ∧ t.isFile host.cwd (place host.cwd config.archiveDir project) then
        .value (place host.cwd config.archiveDir project) t
      else
        (((change (.creatingArchiveDir (dir host.cwd config.archiveDir))
          (.createDirs (dir host.cwd config.archiveDir))).outcome host t).andThen fun _ u =>
            downloaded config project host u).andThen fun _ u =>
              .value (place host.cwd config.archiveDir project) u := by
  unfold fetch
  rw [outcome_bind_of, outcome_path, if_pos hstart, Outcome.value_andThen, outcome_bind_of,
    outcome_isFile, Outcome.value_andThen, parent?_place hcwd]
  · split
    · rw [outcome_bind, outcome_log, Outcome.value_andThen, outcome_pure]
    · rw [outcome_bind, outcome_download]
      rfl
  · intro present
    show Memoryless (ite _ _ _)
    cases Path.parent? _ <;> infer_instance
  · refine fun archive => .bind inferInstance fun present => ?_
    show Memoryless (ite _ _ _)
    cases Path.parent? archive <;> infer_instance

theorem outcome_fetch_of_not_hasStart {t : FileTree}
    (hstart : ¬ t.hasStart host.cwd config.archiveDir) :
    (fetch config project policy).outcome host t = .failure (unresolved config project) t := by
  unfold fetch
  rw [outcome_bind_of, outcome_path, if_neg hstart, Outcome.failure_andThen]
  refine fun archive => .bind inferInstance fun present => ?_
  show Memoryless (ite _ _ _)
  cases Path.parent? archive <;> infer_instance

/-- What fetching an archive can come to: it has no absolute path; or it is there already; or the
archive directory cannot be made; or the tool fails, and what it downloaded is removed; or the tool
succeeds, and what it downloaded is moved into place. -/
inductive Fetched (t : FileTree) : Outcome String → Prop where
  | pathless (hstart : ¬ t.hasStart host.cwd config.archiveDir) :
    Fetched t (.failure (unresolved config project) t)
  | reused
    (hc : policy = .cached ∧ t.isFile host.cwd (place host.cwd config.archiveDir project)) :
    Fetched t (.value (place host.cwd config.archiveDir project) t)
  | homeless {fault : Fault} {u : FileTree}
    (hu : t.createDirs host.cwd (dir host.cwd config.archiveDir) = (.error fault, u)) :
    Fetched t
      ⟨.error (.during (.creatingArchiveDir (dir host.cwd config.archiveDir)) (.file fault)), u,
        [.changed (.createDirs (dir host.cwd config.archiveDir)) (.error fault) u]⟩
  | failed {u v : FileTree} {f : Failure} {ended : Run} {removed : Except Fault Unit}
    (hu : t.createDirs host.cwd (dir host.cwd config.archiveDir) = (.ok (), u))
    (hr : host.launch (downloadJob config project host.cwd) u = ended)
    (hf : config.downloader.verdict "download" ended.outcome = .error f)
    (hv : Call.perform host.cwd (.removeFile (partialPlace host.cwd config.archiveDir project))
      ended.files = (removed, v)) :
    Fetched t
      ⟨.error f, v,
        [.changed (.createDirs (dir host.cwd config.archiveDir)) (.ok ()) u,
          .launched (downloadJob config project host.cwd) ended.outcome ended.files,
          .changed (.removeFile (partialPlace host.cwd config.archiveDir project)) removed v]⟩
  | ended {u v : FileTree} {ended : Run} {moved : Except Fault Unit}
    (hu : t.createDirs host.cwd (dir host.cwd config.archiveDir) = (.ok (), u))
    (hr : host.launch (downloadJob config project host.cwd) u = ended)
    (hs : ended.outcome = .ok (.exited 0))
    (hv : Call.perform host.cwd (.rename (partialPlace host.cwd config.archiveDir project)
      (place host.cwd config.archiveDir project)) ended.files = (moved, v)) :
    Fetched t
      ⟨(moved.map fun _ => place host.cwd config.archiveDir project).mapError fun fault =>
          .during (.movingDownload (place host.cwd config.archiveDir project)) (.file fault), v,
        [.changed (.createDirs (dir host.cwd config.archiveDir)) (.ok ()) u,
          .launched (downloadJob config project host.cwd) ended.outcome ended.files,
          .changed (.rename (partialPlace host.cwd config.archiveDir project)
            (place host.cwd config.archiveDir project)) moved v]⟩

theorem fetched (hcwd : ∀ n ∈ host.cwd, IsName n) (t : FileTree) :
    Fetched config project policy host t ((fetch config project policy).outcome host t) := by
  by_cases hstart : t.hasStart host.cwd config.archiveDir
  swap
  · rw [outcome_fetch_of_not_hasStart config project policy host hstart]
    exact .pathless hstart
  rw [outcome_fetch config project policy host hcwd hstart]
  split
  · rename_i hc
    exact .reused hc
  have hp : Call.perform host.cwd (.createDirs (dir host.cwd config.archiveDir)) t =
    t.createDirs host.cwd (dir host.cwd config.archiveDir) := rfl
  rw [outcome_change, hp]
  rcases hu : t.createDirs host.cwd (dir host.cwd config.archiveDir) with ⟨r, u⟩
  cases r with
  | error fault => exact .homeless hu
  | ok =>
    simp only [Except.mapError, Outcome.ok_andThen]
    rw [downloaded]
    generalize hr : host.launch (downloadJob config project host.cwd) u = ended
    cases hf : config.downloader.verdict "download" ended.outcome with
    | error f =>
      rcases hv : Call.perform host.cwd
        (.removeFile (partialPlace host.cwd config.archiveDir project)) ended.files with ⟨r, v⟩
      simp only [Outcome.error_andThen]
      exact .failed hu hr hf hv
    | ok =>
      have hs := ToolCommand.verdict_eq_ok_iff.mp hf
      rcases hv : Call.perform host.cwd
        (.rename (partialPlace host.cwd config.archiveDir project)
          (place host.cwd config.archiveDir project)) ended.files with ⟨r, v⟩
      cases r with
      | error fault => exact .ended hu hr hs hv
      | ok =>
        have h : Fetched config project policy host t _ := .ended hu hr hs hv
        simpa [Except.mapError, Except.map, Outcome.ok_andThen, Outcome.value] using h

end Archive

end BenchCheckout
