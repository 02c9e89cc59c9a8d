import BenchCheckout.Proofs.Archive.Interruption
import BenchCheckout.Proofs.Checkout.Elsewhere
import BenchCheckout.Proofs.Checkout.Independence

/-!
# Many checkouts and one archive directory

Checkouts in a row, of any projects and in any workspaces, share an archive directory. What the last
fetch of a project was for decides whether the project's archive is there.

* `fetching_fetchedIn`: what the stages up to the fetch leave of archives.
* `Visit.fetches_iff`: when the downloader is started.
* `Visit.spares_archive`: what a checkout leaves of other projects' archives, and of its own if it
  keeps it; `Visit.deletes_archive`: or else deletes it.
* `archives_over_visits`: whole histories.
* `archive_patched_by_other_build`: what a build of another project can do to an archive.
-/

namespace BenchCheckout

open BenchCheckout.Action FileTree

namespace Checkout

/-! ## The fetch, seen from the archives -/

section Fetching

variable {host : Host} {config : Config} {project p : ProjectId} {policy : ArchivePolicy}
  {workspace : String} {t u v : FileTree}

/-- What is at the archives' places stays. -/
structure KeepsArchives (host : Host) (config : Config) (t u : FileTree) : Prop where
  symlinkFree : u.SymlinkFree
  get?_eq : ∀ p : ProjectId,
    u.get? (host.cwd.along (Archive.place host.cwd config.archiveDir p)) =
      t.get? (host.cwd.along (Archive.place host.cwd config.archiveDir p))

theorem KeepsArchives.trans (h : KeepsArchives host config t u) (h' : KeepsArchives host config u v) :
    KeepsArchives host config t v :=
  ⟨h'.symlinkFree, fun p => (h'.get?_eq p).trans (h.get?_eq p)⟩

/-- How the stages up to the fetch end: the archive is a file, or its place is as it was. -/
structure FetchedIn (host : Host) (config : Config) (project : ProjectId) (t : FileTree)
    (o : Outcome String) : Prop where
  symlinkFree : o.files.SymlinkFree
  starts : ∀ job ∈ o.jobs, job = Archive.downloadJob config project host.cwd
  others : ∀ p : ProjectId, p ≠ project →
    o.files.get? (host.cwd.along (Archive.place host.cwd config.archiveDir p)) =
      t.get? (host.cwd.along (Archive.place host.cwd config.archiveDir p))
  error : ∀ f, o.result = .error f →
    o.files.get? (host.cwd.along (Archive.place host.cwd config.archiveDir project)) =
      t.get? (host.cwd.along (Archive.place host.cwd config.archiveDir project))
  ok : ∀ archive, o.result = .ok archive →
    archive = Archive.place host.cwd config.archiveDir project ∧ o.files.isFile host.cwd archive

/-- A tree with the archives kept, and no success. -/
theorem FetchedIn.of_keeps {f : Failure} {history : List Event}
    (h : KeepsArchives host config t u)
    (hjobs : ∀ job ∈ history.filterMap (·.job?),
      job = Archive.downloadJob config project host.cwd) :
    FetchedIn host config project t ⟨.error f, u, history⟩ :=
  ⟨h.symlinkFree, hjobs, fun p _ => h.get?_eq p, fun _ _ => h.get?_eq project,
    fun _ hok => by cases hok⟩

/-- A tree with the archive, and with the others kept. -/
theorem FetchedIn.of_isFile {history : List Event} (hu : u.SymlinkFree)
    (hfile : u.isFile host.cwd (Archive.place host.cwd config.archiveDir project))
    (hothers : ∀ p : ProjectId, p ≠ project →
      u.get? (host.cwd.along (Archive.place host.cwd config.archiveDir p)) =
        t.get? (host.cwd.along (Archive.place host.cwd config.archiveDir p)))
    (hjobs : ∀ job ∈ history.filterMap (·.job?),
      job = Archive.downloadJob config project host.cwd) :
    FetchedIn host config project t
      ⟨.ok (Archive.place host.cwd config.archiveDir project), u, history⟩ where
  symlinkFree := hu
  starts := hjobs
  others := hothers
  error _ herror := by cases herror
  ok archive hok := by
    obtain rfl := Except.ok.inj hok
    exact ⟨rfl, hfile⟩

/-- A stage before that keeps the archives and starts nothing. -/
theorem FetchedIn.of_before {o : Outcome String} {before : List Event}
    (hkeep : KeepsArchives host config t u) (hjobs : before.filterMap (·.job?) = [])
    (h : FetchedIn host config project u o) :
    FetchedIn host config project t ⟨o.result, o.files, before ++ o.history⟩ where
  symlinkFree := h.symlinkFree
  starts := by simpa [Outcome.jobs, hjobs] using h.starts
  others p hp := (h.others p hp).trans (hkeep.get?_eq p)
  error f hf := (h.error f hf).trans (hkeep.get?_eq project)
  ok := h.ok

section Steps

variable (hp : Paths host config project workspace) (ht : t.SymlinkFree)

include hp ht

theorem createDirs_keeps {r : Except Fault Unit}
    (hu : t.createDirs host.cwd (Archive.dir host.cwd config.archiveDir) = (r, u)) :
    KeepsArchives host config t u := by
  have hadds := createDirs_adds_along host.cwd ht (dir_up hp)
  rw [hu, Archive.along_dir hp.isName_cwd] at hadds
  refine ⟨hadds.symlinkFree ht, fun p => hadds.get?_of_not fun hc => ?_⟩
  rw [Archive.along_place hp.isName_cwd] at hc
  have := hc.length_le
  rw [List.length_append, List.length_singleton] at this
  omega

omit ht in
theorem partialPlace_not_above (p : ProjectId) :
    ¬ host.cwd.along (Archive.partialPlace host.cwd config.archiveDir project) <+:
      host.cwd.along (Archive.place host.cwd config.archiveDir p) := by
  rw [Archive.along_place hp.isName_cwd, Archive.along_partialPlace hp.isName_cwd,
    List.prefix_append_right_inj]
  rintro ⟨j, hj⟩
  exact ProjectId.archiveName_ne_partialName p project (List.cons.inj hj).1.symm

theorem download_keeps (hd : DownloadsToOutput host config project) :
    KeepsArchives host config t
      (host.launch (Archive.downloadJob config project host.cwd) t).files :=
  ⟨(hd t ht).1, fun p => (hd t ht).2 _ (partialPlace_not_above hp p)⟩

theorem discard_keeps {r : Except Fault Unit}
    (hu : Call.perform host.cwd
      (.removeFile (Archive.partialPlace host.cwd config.archiveDir project)) t = (r, u)) :
    KeepsArchives host config t u := by
  rw [Call.perform_removeFile] at hu
  split at hu
  · rename_i w hw
    obtain rfl := (Prod.mk.inj hu).2
    refine ⟨ht.removeFile hw, fun p => ?_⟩
    have hne : host.cwd.along (Archive.place host.cwd config.archiveDir p) ≠
        host.cwd.along (Archive.partialPlace host.cwd config.archiveDir project) := fun heq =>
      partialPlace_not_above hp p (by simp [heq])
    exact get?_of_removeFile ht (Archive.ends_partialPlace host.cwd config.archiveDir project)
      (home_up hp) hw hne
  · obtain rfl := (Prod.mk.inj hu).2
    exact ⟨ht, fun _ => rfl⟩

theorem move_others {p : ProjectId} (hne : p ≠ project)
    (hu : t.rename host.cwd (Archive.partialPlace host.cwd config.archiveDir project)
      (Archive.place host.cwd config.archiveDir project) = .ok u) :
    u.get? (host.cwd.along (Archive.place host.cwd config.archiveDir p)) =
      t.get? (host.cwd.along (Archive.place host.cwd config.archiveDir p)) := by
  refine get?_of_rename ht (Archive.ends_partialPlace host.cwd config.archiveDir project) (home_up hp)
    (Archive.ends_place host.cwd config.archiveDir project) (home_up hp) hu
    (partialPlace_not_above hp p) fun hc => hne ?_
  rw [Archive.along_place hp.isName_cwd, Archive.along_place hp.isName_cwd,
    List.prefix_append_right_inj] at hc
  obtain ⟨j, hj⟩ := hc
  exact (ProjectId.archiveName_injective (List.cons.inj hj).1).symm

end Steps

/-- The downloader leaves a file at its output where it succeeds. -/
def Delivers (host : Host) (config : Config) (project : ProjectId) : Prop :=
  ∀ t, t.SymlinkFree →
    (host.launch (Archive.downloadJob config project host.cwd) t).outcome = .ok (.exited 0) →
      (host.launch (Archive.downloadJob config project host.cwd) t).files.IsFileAt
        (host.cwd.along (Archive.partialPlace host.cwd config.archiveDir project))

section Fetch

variable (hp : Paths host config project workspace) (hd : DownloadsToOutput host config project)
  (hs : Delivers host config project) (ht : t.SymlinkFree)

include hp hd hs ht

theorem fetch_fetchedIn :
    FetchedIn host config project t ((Archive.fetch config project policy).outcome host t) := by
  have hf := Archive.fetched config project policy host hp.isName_cwd t
  generalize (Archive.fetch config project policy).outcome host t = o at hf
  cases hf with
  | pathless => exact .of_keeps ⟨ht, fun _ => rfl⟩ (by simp)
  | reused hc => exact .of_isFile ht hc.2 (fun _ _ => rfl) (by simp)
  | homeless hu => exact .of_keeps (createDirs_keeps hp ht hu) (by simp [Event.job?])
  | failed hu hr hf hv =>
    subst hr
    have hcreate := createDirs_keeps hp ht hu
    have hrun := download_keeps hp hcreate.symlinkFree hd
    exact .of_keeps ((hcreate.trans hrun).trans (discard_keeps hp hrun.symlinkFree hv))
      (by simp [Event.job?])
  | @ended u v run moved hu hr hexit hv =>
    subst hr
    have hcreate := createDirs_keeps hp ht hu
    have hrun := download_keeps hp hcreate.symlinkFree hd
    have hkeep := hcreate.trans hrun
    rw [Call.perform_rename] at hv
    split at hv
    · rename_i w hw
      obtain ⟨rfl, rfl⟩ := Prod.mk.inj hv
      have hfile := isFile_of_rename hrun.symlinkFree
        (Archive.ends_partialPlace host.cwd config.archiveDir project) (home_up hp)
        (Archive.ends_place host.cwd config.archiveDir project) (archivePlace_up hp)
        (hs _ hcreate.symlinkFree hexit) hw
      refine .of_isFile (hrun.symlinkFree.rename hw) hfile (fun p hne => ?_) (by simp [Event.job?])
      exact (move_others hp hrun.symlinkFree hne hw).trans (hkeep.get?_eq p)
    · obtain ⟨rfl, rfl⟩ := Prod.mk.inj hv
      exact .of_keeps hkeep (by simp [Event.job?])

end Fetch

/-- Where the archive directory can be created, every fetch that may not use the archive that is
there starts the downloader. -/
theorem downloadJob_mem_fetch_iff (hcwd : ∀ n ∈ host.cwd, IsName n)
    (hstart : t.hasStart host.cwd config.archiveDir)
    (hc : (t.createDirs host.cwd (Archive.dir host.cwd config.archiveDir)).1 = .ok ()) :
    Archive.downloadJob config project host.cwd ∈
        ((Archive.fetch config project policy).outcome host t).jobs ↔
      policy = .transient ∨
        ¬ t.isFile host.cwd (Archive.place host.cwd config.archiveDir project) := by
  have hpolicy : policy = .transient ↔ policy ≠ .cached := by cases policy <;> simp
  rw [Archive.outcome_fetch config project policy host hcwd hstart, hpolicy, ← not_and_or]
  split
  · rename_i h
    simp [Outcome.jobs, Outcome.value, h]
  rename_i h
  refine iff_of_true ?_ h
  have hperform : Call.perform host.cwd (.createDirs (Archive.dir host.cwd config.archiveDir)) t =
    t.createDirs host.cwd (Archive.dir host.cwd config.archiveDir) := rfl
  rw [outcome_change, hperform]
  generalize t.createDirs host.cwd (Archive.dir host.cwd config.archiveDir) = made at hc ⊢
  obtain ⟨r, u⟩ := made
  replace hc : r = .ok () := hc
  subst hc
  simp only [Except.mapError, Outcome.ok_andThen, Archive.downloaded]
  cases config.downloader.verdict "download"
    (host.launch (Archive.downloadJob config project host.cwd) u).outcome with
  | error f => simp [Outcome.jobs, Event.job?, Outcome.andThen]
  | ok =>
    cases (Call.perform host.cwd (.rename
      (Archive.partialPlace host.cwd config.archiveDir project)
      (Archive.place host.cwd config.archiveDir project))
      (host.launch (Archive.downloadJob config project host.cwd) u).files).1 <;>
      simp [Outcome.jobs, Event.job?, Outcome.andThen, Outcome.value]

/-! ## The stages up to the fetch -/

/-- A stale checkout goes away, if it is a directory. -/
theorem removeStale_alike (hw : ".." ∉ Path.steps workspace) (ht : t.SymlinkFree)
    (hdest : t.get? (host.cwd.along (place workspace project)) = none ∨
      t.get? (host.cwd.along (place workspace project)) = some .directory) :
    ∃ u before, (removeStale (place workspace project)).outcome host t = ⟨.ok (), u, before⟩ ∧
      before.filterMap (·.job?) = [] ∧ Alike (host.cwd.along (place workspace project)) t u := by
  have hup := dest_up project hw
  have hne : host.cwd.along (place workspace project) ≠ [] := by simp [along_dest]
  rw [outcome_removeStale]
  by_cases hd : t.get? (host.cwd.along (place workspace project)) = none ∨
      t.isDirectory host.cwd (place workspace project)
  · obtain ⟨before, ho, hjobs⟩ := clear_eq (.removingStale (place workspace project)) ends_dest hup
      ht hd
    refine ⟨_, before, ho, hjobs, ht, ht.prune hne, .inr ⟨fun k hk => ?_, hdest, .inl ?_⟩⟩
    · rw [get?_prune hne, if_neg hk]
    · rw [get?_prune hne, if_pos (List.prefix_refl _)]
  · -- The path is too long for the system, which finds nothing there.
    obtain ⟨hnone, hd⟩ := not_or.mp hd
    have hx : ¬ t.exists? host.cwd (place workspace project) := fun hx =>
      hd ((isDirectory_iff ht hup).mpr
        ⟨((exists?_iff ht hup).mp hx).1, hdest.resolve_left hnone⟩)
    rw [if_neg hx]
    exact ⟨t, [], rfl, rfl, ht, ht, .inl rfl⟩

theorem not_dest_prefix_place (hcwd : ∀ n ∈ host.cwd, IsName n)
    (hout : ¬ host.cwd.along (place workspace project) <+: host.cwd.along config.archiveDir)
    (p : ProjectId) : ¬ host.cwd.along (place workspace project) <+:
      host.cwd.along (Archive.place host.cwd config.archiveDir p) := by
  rw [Archive.along_place hcwd, List.prefix_concat_iff, not_or]
  refine ⟨fun heq => ?_, hout⟩
  rw [along_dest] at heq
  exact ProjectId.dirName_ne_archiveName project p
    (List.append_singleton_inj.mp heq).2

theorem not_staging_prefix_place (hcwd : ∀ n ∈ host.cwd, IsName n)
    (hout : ¬ host.cwd.along (staging workspace project) <+: host.cwd.along config.archiveDir)
    (p : ProjectId) : ¬ host.cwd.along (staging workspace project) <+:
      host.cwd.along (Archive.place host.cwd config.archiveDir p) := by
  rw [Archive.along_place hcwd, List.prefix_concat_iff, not_or]
  refine ⟨fun heq => ?_, hout⟩
  rw [along_staging] at heq
  exact ProjectId.stagingName_ne_archiveName project p
    (List.append_singleton_inj.mp heq).2

section Outside

variable (hp : Paths host config project workspace)
  (hout : ¬ host.cwd.along (place workspace project) <+: host.cwd.along config.archiveDir)
  (hd : DownloadsToOutput host config project) (hs : Delivers host config project)
  (ht : t.SymlinkFree)
  (hdest : t.get? (host.cwd.along (place workspace project)) = none ∨
    t.get? (host.cwd.along (place workspace project)) = some .directory)

include hp hout hd hs ht hdest

theorem fetching_fetchedIn :
    FetchedIn host config project t (fetching config project workspace policy host t) := by
  obtain ⟨u, before, ho, hjobs, halike⟩ := removeStale_alike hp.workspace_up ht hdest
  have hkeep : KeepsArchives host config t u :=
    ⟨halike.right, fun p => (halike.get?_eq (not_dest_prefix_place hp.isName_cwd hout p)).symm⟩
  rw [fetching, ho, Outcome.ok_andThen]
  exact (fetch_fetchedIn hp hd hs halike.right).of_before hkeep hjobs

omit hd hs in
theorem downloadJob_mem_fetching_iff (hstart : t.hasStart host.cwd config.archiveDir)
    (hc : (t.createDirs host.cwd (Archive.dir host.cwd config.archiveDir)).1 = .ok ()) :
    Archive.downloadJob config project host.cwd ∈
        (fetching config project workspace policy host t).jobs ↔
      policy = .transient ∨
        ¬ t.isFile host.cwd (Archive.place host.cwd config.archiveDir project) := by
  obtain ⟨u, before, ho, hjobs, halike⟩ := removeStale_alike hp.workspace_up ht hdest
  have hdir : ¬ host.cwd.along (place workspace project) <+:
      host.cwd.along (Archive.dir host.cwd config.archiveDir) := by
    rwa [Archive.along_dir hp.isName_cwd]
  have hc' := (createDirs_alike halike (dir_up hp) hdir).1.symm.trans hc
  have hstart' := (halike.hasStart_eq hout).symm.trans hstart
  have hfile := halike.isFile_eq (archivePlace_up hp) (not_dest_prefix_place hp.isName_cwd hout project)
  rw [fetching, ho, Outcome.ok_andThen, Outcome.jobs, List.filterMap_append, hjobs,
    List.nil_append, ← Outcome.jobs, downloadJob_mem_fetch_iff hp.isName_cwd hstart' hc', hfile]

end Outside

end Fetching

end Checkout

/-! ## Visits -/

namespace Archive

/-- The path of a project's archive in the directory `home`. -/
def pathIn (home : String) (p : ProjectId) : String := Path.join home p.archiveName

/-- Where that is, if `home` is absolute. -/
def locationIn (home : String) (p : ProjectId) : Location := Path.steps home ++ [p.archiveName]

end Archive

open Checkout Archive

/-- A checkout that someone asks for. -/
structure Visit where
  host : Host
  config : Config
  raw : String
  project : ProjectId
  workspace : String
  options : Options

namespace Visit

section

variable (v : Visit) (home : String) (t : FileTree) (l : Location)

def dest : String := place v.workspace v.project

def staging : String := Checkout.staging v.workspace v.project

def archive : String := Archive.place v.host.cwd v.config.archiveDir v.project

def downloadJob : Job := Archive.downloadJob v.config v.project v.host.cwd

def extractJob : Job := Archive.extractJob v.config v.archive v.staging

def buildJob : Job := Build.buildJob v.config.build v.dest

theorem cwd_downloadJob : v.downloadJob.cwd = Archive.dir v.host.cwd v.config.archiveDir := by
  rw [downloadJob, Archive.downloadJob, ToolCommand.job]

theorem cwd_extractJob : v.extractJob.cwd = v.staging := by
  rw [extractJob, Archive.extractJob, ToolCommand.job]

theorem cwd_buildJob : v.buildJob.cwd = v.dest := by
  rw [buildJob, Build.buildJob, ToolCommand.job]

/-- What the visit comes to. -/
def outcome : Outcome String := (checkout v.config v.raw v.workspace v.options).outcome v.host t

/-- What it has come to when the archive is fetched. -/
def fetching : Outcome String :=
  Checkout.fetching v.config v.project v.workspace v.options.archive v.host t

/-- The builds patch the file at `l`. -/
def Patches (e : Event) : Prop :=
  v.options.build = true ∧ e.Patches (Build.manifest v.config.build v.dest) v.host.cwd l

/-- The archive directory is the one at the absolute path `home`. It lies in no checkout and no
staging directory. The children write where they should, and what is excluded is below the
project's root. -/
structure IsOrderly : Prop where
  parse_eq : ProjectId.parse? v.raw = some v.project
  isName_cwd : ∀ n ∈ v.host.cwd, IsName n
  home_eq : Archive.home v.host.cwd v.config.archiveDir = home
  workspace_up : ".." ∉ Path.steps v.workspace
  archiveDir_up : ".." ∉ Path.steps v.config.archiveDir
  outside_dest : ¬ v.host.cwd.along v.dest <+: v.host.cwd.along v.config.archiveDir
  outside_staging : ¬ v.host.cwd.along v.staging <+: v.host.cwd.along v.config.archiveDir
  downloads : DownloadsToOutput v.host v.config v.project
  delivers : Delivers v.host v.config v.project
  extracts : ∀ p, v.host.Spares v.extractJob (locationIn home p)
  builds : v.options.build = true → ∀ p, v.host.Spares v.buildJob (locationIn home p)
  excludes : ∀ n path, IsName n → path ∈ v.config.exclusionsFor v.project.subject →
    StaysBelow v.host (Path.join v.staging n) path

/-- There is a workspace, and the archive directory can be found and created. A stale checkout is a
directory. -/
structure IsReady : Prop where
  start : t.hasStart v.host.cwd v.config.archiveDir
  workspace : t.isDirectory v.host.cwd v.workspace
  dest : t.get? (v.host.cwd.along v.dest) = none ∨
    t.get? (v.host.cwd.along v.dest) = some .directory
  creates : (t.createDirs v.host.cwd (Archive.dir v.host.cwd v.config.archiveDir)).1 = .ok ()

instance : Decidable (v.IsReady t) :=
  decidable_of_iff (t.hasStart v.host.cwd v.config.archiveDir ∧
    t.isDirectory v.host.cwd v.workspace ∧
    (t.get? (v.host.cwd.along v.dest) = none ∨ t.get? (v.host.cwd.along v.dest) = some .directory) ∧
    (t.createDirs v.host.cwd (Archive.dir v.host.cwd v.config.archiveDir)).1 = .ok ())
    ⟨fun h => ⟨h.1, h.2.1, h.2.2.1, h.2.2.2⟩, fun h => ⟨h.start, h.workspace, h.dest, h.creates⟩⟩

end

variable {v : Visit} {home : String} {t u : FileTree} {p : ProjectId}

namespace IsOrderly

variable (hv : v.IsOrderly home)

include hv

theorem along_place (p : ProjectId) :
    v.host.cwd.along (Archive.place v.host.cwd v.config.archiveDir p) = locationIn home p := by
  rw [locationIn, ← hv.home_eq, Archive.steps_home hv.isName_cwd, Archive.along_place hv.isName_cwd]

theorem paths : Paths v.host v.config v.project v.workspace where
  isName_cwd := hv.isName_cwd
  workspace_up := hv.workspace_up
  archiveDir_up := hv.archiveDir_up
  outside_dest := not_dest_prefix_place hv.isName_cwd hv.outside_dest v.project
  outside_staging := not_staging_prefix_place hv.isName_cwd hv.outside_staging v.project

theorem dest_not_above (p : ProjectId) : ¬ v.host.cwd.along v.dest <+: locationIn home p :=
  hv.along_place p ▸ not_dest_prefix_place hv.isName_cwd hv.outside_dest p

theorem staging_not_above (p : ProjectId) : ¬ v.host.cwd.along v.staging <+: locationIn home p :=
  hv.along_place p ▸ not_staging_prefix_place hv.isName_cwd hv.outside_staging p

theorem archive_eq : v.archive = pathIn home v.project := by
  rw [pathIn, ← hv.home_eq]
  rfl

/-- The downloader runs where no other child does. -/
theorem downloadJob_not_mem : v.downloadJob ∉ [v.extractJob, v.buildJob] := by
  have hdir : v.host.cwd.along v.downloadJob.cwd = v.host.cwd.along v.config.archiveDir := by
    rw [cwd_downloadJob, Archive.along_dir hv.isName_cwd]
  intro hmem
  rw [List.mem_cons, List.mem_singleton] at hmem
  rcases hmem with heq | heq
  · rw [heq, cwd_extractJob] at hdir
    exact hv.outside_staging (by simp [hdir])
  · rw [heq, cwd_buildJob] at hdir
    exact hv.outside_dest (by simp [hdir])

theorem startsAtRoot_home : Path.startsAtRoot home = true :=
  hv.home_eq ▸ (Archive.isNormal_home v.config.archiveDir hv.isName_cwd).startsAtRoot_eq

/-- Whether an archive is a file is told by its own path and place. -/
theorem isFile_pathIn_iff (p : ProjectId) (cwd : Location) (ht : t.SymlinkFree) :
    t.isFile cwd (pathIn home p) ↔
      Path.IsUsable (pathIn home p) ∧ t.IsFileAt (locationIn home p) := by
  have hends : Path.Ends (pathIn home p) home p.archiveName :=
    Path.ends_join p.isName_archiveName.isStep
  have hhome := home_up hv.paths
  rw [hv.home_eq] at hhome
  have hup := hends.up_not_mem_steps hhome p.isName_archiveName.2.2.1
  have hl : cwd.along (pathIn home p) = locationIn home p := by
    rw [Location.along_ends hends, Location.along, Location.start, hv.startsAtRoot_home, if_pos rfl,
      List.nil_append, locationIn]
  have hidle : ¬ Path.EndsIdle (Path.pieces (pathIn home p)) := by
    rw [hends.endsIdle_iff, pathIn, Path.endsWithSlash_join p.isName_archiveName.isStep]
    simp
  rw [isFile_iff ht hup, hl]
  exact ⟨fun h => ⟨h.1, h.2.2⟩, fun h => ⟨h.1, hidle, h.2⟩⟩

end IsOrderly

/-! ## One visit -/

/-- What unpacking comes to. -/
def unpacking (v : Visit) (t : FileTree) : Outcome Unit :=
  (unpackInto v.config v.project v.options.archive v.archive v.staging v.dest).outcome v.host t

/-- What all that follows the fetch comes to. -/
def rest (v : Visit) (t : FileTree) : Outcome String :=
  (v.unpacking t).andThen fun _ u =>
    if v.options.build then
      ((buildInto v.config v.project v.dest).outcome v.host u).andThen fun _ w => .value v.dest w
    else .value v.dest u

section Steps

variable (hv : v.IsOrderly home)

include hv

theorem build_spares (p : ProjectId) (hu : u.SymlinkFree) :
    (if v.options.build then
        ((buildInto v.config v.project v.dest).outcome v.host u).andThen fun _ w =>
          Outcome.value v.dest w
      else .value v.dest u : Outcome String).Spares (locationIn home p) [v.extractJob, v.buildJob]
        (v.Patches (locationIn home p)) u := by
  split
  · rename_i hb
    have hbuild : ((buildInto v.config v.project v.dest).outcome v.host u).Spares
        (locationIn home p) [v.extractJob, v.buildJob] (v.Patches (locationIn home p)) u :=
      buildInto_spares _ _ hu (fun e he => ⟨hb, he⟩) (hv.builds hb p) (by simp [buildJob])
    exact hbuild.andThen fun _ _ hsf => Outcome.spares_value _ hsf
  · exact Outcome.spares_value _ hu

/-- Behind the fetch, what is at an archive's place stays, unless it is to be deleted. -/
theorem rest_spares (hu : u.SymlinkFree) (hkeep : v.options.archive = .transient → p ≠ v.project)
    (hin : locationIn home p <+: v.host.cwd.along v.staging → u.get? (locationIn home p) ≠ none) :
    (v.rest u).Spares (locationIn home p) [v.extractJob, v.buildJob]
      (v.Patches (locationIn home p)) u := by
  have hne : v.options.archive = .transient →
      locationIn home p ≠ v.host.cwd.along v.archive := fun htransient heq => by
    rw [archive, hv.along_place] at heq
    exact hkeep htransient (ProjectId.archiveName_injective
      (List.singleton_inj.mp (List.append_cancel_left heq)))
  have hunpack : (v.unpacking u).Spares (locationIn home p) [v.extractJob, v.buildJob]
      (v.Patches (locationIn home p)) u :=
    unpackInto_spares _ _ hv.workspace_up (hv.staging_not_above p) (hv.extracts p) hu hin
      (by simp [extractJob, staging]) hv.excludes (hv.dest_not_above p)
      (Archive.ends_place v.host.cwd v.config.archiveDir v.project) (home_up hv.paths) hne
  exact hunpack.andThen fun _ _ hsf => build_spares hv p hsf

/-- Behind the fetch, a transient archive goes away. -/
theorem rest_deletes (hu : u.SymlinkFree) (htransient : v.options.archive = .transient)
    (hfile : u.isFile v.host.cwd v.archive) :
    (v.rest u).files.SymlinkFree ∧ ¬ (v.rest u).files.IsFileAt (locationIn home v.project) ∧
      ∀ job ∈ (v.rest u).jobs, job ∈ [v.extractJob, v.buildJob] := by
  have hin : locationIn home v.project <+: v.host.cwd.along v.staging →
      u.get? (locationIn home v.project) ≠ none := fun _ hnone => by
    obtain ⟨-, b, x, k, he⟩ := (hv.isFile_pathIn_iff _ _ hu).mp (hv.archive_eq ▸ hfile)
    cases hnone.symm.trans he
  have hunpack : (v.unpacking u).files.SymlinkFree ∧
      ¬ (v.unpacking u).files.IsFileAt (locationIn home v.project) ∧
      ∀ job ∈ (v.unpacking u).jobs, job ∈ [v.extractJob, v.buildJob] :=
    unpackInto_deletes _ hv.workspace_up (hv.staging_not_above v.project) (hv.extracts v.project) hu
      hin (by simp [extractJob, staging]) hv.excludes (hv.dest_not_above v.project)
      (Archive.ends_place v.host.cwd v.config.archiveDir v.project) (archivePlace_up hv.paths)
      (hv.along_place v.project).symm htransient hfile
  rw [rest]
  generalize v.unpacking u = o at hunpack
  obtain ⟨r, w, history⟩ := o
  obtain ⟨hw, hgone, hstarts⟩ := hunpack
  cases r with
  | error f =>
    rw [Outcome.error_andThen]
    exact ⟨hw, hgone, hstarts⟩
  | ok =>
    have hbuild := build_spares hv v.project hw
    refine ⟨hbuild.symlinkFree, fun h => hgone (hbuild.isFileAt_iff.mp h), fun job hj => ?_⟩
    rw [Outcome.ok_andThen, Outcome.jobs, List.filterMap_append, List.mem_append] at hj
    exact hj.elim (hstarts job) (hbuild.starts job)

/-- Behind a fetch that succeeds, a cached archive stays and a transient one goes away. -/
theorem rest_own (hu : u.SymlinkFree) (hfile : u.isFile v.host.cwd v.archive) :
    (v.rest u).files.SymlinkFree ∧
      ((v.rest u).files.IsFileAt (locationIn home v.project) ↔ v.options.archive = .cached) ∧
      ∀ job ∈ (v.rest u).jobs, job ∈ [v.extractJob, v.buildJob] := by
  have hthere : u.IsFileAt (locationIn home v.project) :=
    ((hv.isFile_pathIn_iff _ _ hu).mp (hv.archive_eq ▸ hfile)).2
  cases hpolicy : v.options.archive with
  | cached =>
    obtain ⟨hsf, hiff, -, hstarts⟩ := rest_spares hv hu (p := v.project)
      (fun htransient => by cases hpolicy.symm.trans htransient) fun _ hnone => by
        obtain ⟨b, x, k, he⟩ := hthere
        cases hnone.symm.trans he
    exact ⟨hsf, iff_of_true (hiff.mpr hthere) rfl, hstarts⟩
  | transient =>
    obtain ⟨hsf, hgone, hstarts⟩ := rest_deletes hv hu hpolicy hfile
    exact ⟨hsf, iff_of_false hgone nofun, hstarts⟩

variable (hr : v.IsReady t) (ht : t.SymlinkFree)

include hr ht

theorem fetchedIn : FetchedIn v.host v.config v.project t (v.fetching t) :=
  fetching_fetchedIn hv.paths hv.outside_dest hv.downloads hv.delivers ht hr.dest

theorem outcome_eq : v.outcome t = (v.fetching t).andThen fun _ u => v.rest u := by
  have hfetch := fetchedIn hv hr ht
  rw [outcome, outcome_checkout_of_isDirectory hv.parse_eq hr.workspace]
  rw [fetching] at hfetch ⊢
  generalize Checkout.fetching v.config v.project v.workspace v.options.archive v.host t = o at hfetch
  obtain ⟨r, u, history⟩ := o
  cases r with
  | error f => rw [Outcome.error_andThen, Outcome.error_andThen]
  | ok archive =>
    obtain ⟨ha, -⟩ := hfetch.ok archive rfl
    rw [Outcome.ok_andThen, Outcome.ok_andThen, ha]
    rfl

/-- What another project's archive is stays, but that a manifest may be that very file. -/
theorem outcome_spares (hne : p ≠ v.project) :
    (v.outcome t).Spares (locationIn home p) [v.downloadJob, v.extractJob, v.buildJob]
      (v.Patches (locationIn home p)) t := by
  have hfetch := fetchedIn hv hr ht
  have hget := hfetch.others p hne
  rw [hv.along_place] at hget
  have hfetching : (v.fetching t).Spares (locationIn home p)
      [v.downloadJob, v.extractJob, v.buildJob] (v.Patches (locationIn home p)) t :=
    .of_get?_eq hfetch.symlinkFree hget fun job hj => by simp [hfetch.starts job hj, downloadJob]
  rw [outcome_eq hv hr ht]
  refine hfetching.andThen fun _ _ hsf => ?_
  refine (rest_spares hv hsf (fun _ => hne) fun hin => ?_).mono (by simp)
  -- An archive above the staging directory is a directory that the workspace lies in.
  have hworkspace := ((isDirectory_iff ht hv.workspace_up).mp hr.workspace).2
  rw [staging, along_staging, List.prefix_concat_iff] at hin
  rcases hin with heq | hin
  · exact absurd (List.append_singleton_inj.mp heq).2.symm
      (ProjectId.stagingName_ne_archiveName _ _)
  · rw [hget, get?_of_prefix hworkspace hin]
    simp

/-- The project's own archive is a file behind a visit that has fetched it to be cached, and behind
one that has not fetched it if it was one before. -/
theorem outcome_own :
    (v.outcome t).files.SymlinkFree ∧
      ((v.outcome t).files.IsFileAt (locationIn home v.project) ↔
        if (v.fetching t).result.isOk then v.options.archive = .cached
        else t.IsFileAt (locationIn home v.project)) ∧
      ((v.fetching t).result.isOk → Path.IsUsable (pathIn home v.project)) ∧
      (v.downloadJob ∈ (v.outcome t).jobs ↔ v.downloadJob ∈ (v.fetching t).jobs) := by
  have hfetch := fetchedIn hv hr ht
  rw [outcome_eq hv hr ht]
  generalize v.fetching t = o at hfetch ⊢
  obtain ⟨r, u, history⟩ := o
  have hu : u.SymlinkFree := hfetch.symlinkFree
  cases r with
  | error f =>
    have hget := hfetch.error f rfl
    rw [hv.along_place] at hget
    rw [Outcome.error_andThen]
    dsimp only at hget ⊢
    refine ⟨hu, ?_, fun hok => (by cases hok), .rfl⟩
    rw [if_neg (by simp [Except.isOk, Except.toBool]), IsFileAt, IsFileAt, hget]
  | ok archive =>
    obtain ⟨rfl, hfile⟩ := hfetch.ok archive rfl
    replace hfile : u.isFile v.host.cwd v.archive := hfile
    obtain ⟨hsf, hiff, hstarts⟩ := rest_own hv hu hfile
    rw [Outcome.ok_andThen]
    dsimp only
    refine ⟨hsf, ?_, fun _ => ((hv.isFile_pathIn_iff _ _ hu).mp (hv.archive_eq ▸ hfile)).1, ?_⟩
    · rwa [if_pos (by simp [Except.isOk, Except.toBool])]
    · rw [Outcome.jobs, List.filterMap_append, List.mem_append]
      exact or_iff_left fun hmem => hv.downloadJob_not_mem (hstarts _ hmem)

theorem downloadJob_mem_iff :
    v.downloadJob ∈ (v.outcome t).jobs ↔
      v.options.archive = .transient ∨ ¬ t.isFile v.host.cwd (pathIn home v.project) := by
  rw [(outcome_own hv hr ht).2.2.2, ← hv.archive_eq]
  exact downloadJob_mem_fetching_iff hv.paths hv.outside_dest ht hr.dest hr.start hr.creates

end Steps

/-! ## Histories -/

/-- What counts of a visit: the project, what its archive was for, and whether it was fetched. -/
structure Record where
  project : ProjectId
  policy : ArchivePolicy
  fetched : Bool

/-- A visit as it counts. -/
def record (v : Visit) (t : FileTree) : Record :=
  ⟨v.project, v.options.archive, (v.fetching t).result.isOk⟩

/-- What the archive of `p` was for when it was fetched last. The last visit comes first. -/
def lastFetch (p : ProjectId) : List Record → Option ArchivePolicy
  | [] => none
  | r :: records => if r.project = p ∧ r.fetched then some r.policy else lastFetch p records

/-- Visits in a row, with one archive directory. -/
inductive Visited (home : String) (start : FileTree) : List Record → FileTree → Prop where
  | nil : Visited home start [] start
  | visit {records : List Record} {t : FileTree} (v : Visit)
      (earlier : Visited home start records t) (orderly : v.IsOrderly home) (ready : v.IsReady t) :
      Visited home start (v.record t :: records) (v.outcome t).files

/-- What one visit does to the archives: the project's own is a file behind a fetch to be cached, and
the others are files if they were. -/
theorem isFile_outcome_iff (hv : v.IsOrderly home) (hr : v.IsReady t) (ht : t.SymlinkFree)
    (p : ProjectId) (cwd : Location) :
    (v.outcome t).files.isFile cwd (pathIn home p) ↔
      if v.project = p ∧ (v.record t).fetched then v.options.archive = .cached
      else t.isFile cwd (pathIn home p) := by
  obtain ⟨hsf, hown, husable, -⟩ := outcome_own hv hr ht
  rw [hv.isFile_pathIn_iff p cwd hsf]
  by_cases hp : v.project = p
  · subst hp
    rw [hown, record]
    cases hf : (v.fetching t).result.isOk with
    | true => simp [husable hf]
    | false => simp [hv.isFile_pathIn_iff _ cwd ht]
  · rw [(outcome_spares hv hr ht (Ne.symm hp)).isFileAt_iff, if_neg fun h => hp h.1,
      hv.isFile_pathIn_iff p cwd ht]

namespace Visited

variable {start : FileTree} {records : List Record}

theorem symlinkFree (h : Visited home start records t) (hstart : start.SymlinkFree) :
    t.SymlinkFree := by
  induction h with
  | nil => exact hstart
  | visit v earlier orderly ready ih => exact (outcome_own orderly ready ih).1

/-- The last fetch of a project decides whether its archive is a file. -/
theorem isFile_iff (h : Visited home start records t) (hstart : start.SymlinkFree) (p : ProjectId)
    (cwd : Location) :
    t.isFile cwd (pathIn home p) ↔
      lastFetch p records = some .cached ∨
        lastFetch p records = none ∧ start.isFile cwd (pathIn home p) := by
  induction h with
  | nil => simp [lastFetch]
  | @visit records t v earlier orderly ready ih =>
    rw [isFile_outcome_iff orderly ready (earlier.symlinkFree hstart), ih]
    have hproject : (v.record t).project = v.project := rfl
    have hpolicy : (v.record t).policy = v.options.archive := rfl
    rw [lastFetch, hproject, hpolicy]
    split
    · simp
    · rfl

end Visited

/-- After any visits in a row, the archive of `p` is a file if it was fetched last to be cached, or
was a file from the start and never fetched. The next visit starts the downloader if its archive is
not to be cached or is no file. Archives of other projects stay as they are, but that the builds
patch one if the manifest's path leads to it; a file they stay in any case. -/
theorem archives_over_visits {start : FileTree} {records : List Record}
    (hstart : start.SymlinkFree) (h : Visited home start records t) (cwd : Location) :
    (∀ p, t.isFile cwd (pathIn home p) ↔
      lastFetch p records = some .cached ∨
        lastFetch p records = none ∧ start.isFile cwd (pathIn home p)) ∧
    ∀ v : Visit, v.IsOrderly home → v.IsReady t →
      (∀ p, p ≠ v.project →
        ((v.outcome t).files.IsFileAt (locationIn home p) ↔ t.IsFileAt (locationIn home p)) ∧
        ((v.outcome t).files.get? (locationIn home p) = t.get? (locationIn home p) ∨
          ∃ e ∈ (v.outcome t).history, v.Patches (locationIn home p) e)) ∧
      (v.downloadJob ∈ (v.outcome t).jobs ↔
        v.options.archive = .transient ∨ ¬ t.isFile cwd (pathIn home v.project)) := by
  have ht := h.symlinkFree hstart
  refine ⟨fun p => h.isFile_iff hstart p cwd, fun v hv hr => ⟨fun p hp => ?_, ?_⟩⟩
  · have hspares := outcome_spares hv hr ht hp
    exact ⟨hspares.isFileAt_iff, hspares.get?_eq_or⟩
  · rw [downloadJob_mem_iff hv hr ht, hv.isFile_pathIn_iff _ _ ht, hv.isFile_pathIn_iff _ _ ht]

/-! ## A small history -/

/-- Downloads go to the root, the archive unpacks as on the small host, and no build succeeds. -/
def storeHost : Host :=
  .plain fun job t => if job.cwd = "/" then downloadToRoot t else smallLaunch (.exited 0) job t

def smallVisit (build : BuildConfig) (options : Options) : Visit :=
  ⟨storeHost, { smallConfig with build := build }, "Lang_10", lang10, "w", options⟩

section Small

variable (build : BuildConfig) (options : Options)

theorem launch_store (job : Job) (t : FileTree) :
    storeHost.launch job t =
      if job.cwd = "/" then downloadToRoot t else smallLaunch (.exited 0) job t := rfl

theorem launch_download_store (t : FileTree) :
    storeHost.launch (smallVisit build options).downloadJob t = downloadToRoot t := by
  have h : (smallVisit build options).downloadJob.cwd = "/" := by
    rw [cwd_downloadJob]
    show Archive.dir [] "." = "/"
    decide +kernel
  rw [launch_store, if_pos h]

theorem launch_extract_store (t : FileTree) :
    storeHost.launch (smallVisit build options).extractJob t =
      ⟨.ok (.exited 0), unpackedAt ["w", ".Lang_10.extract"] t, "", ""⟩ := by
  have h : (smallVisit build options).extractJob.cwd = "w/.Lang_10.extract" := by
    rw [cwd_extractJob]
    show Checkout.staging "w" lang10 = _
    decide +kernel
  rw [launch_store, h, if_neg (by decide), smallLaunch, if_pos h]

theorem launch_build_store (t : FileTree) :
    storeHost.launch (smallVisit build options).buildJob t = ⟨.ok (.exited 1), t, "", ""⟩ := by
  have h : (smallVisit build options).buildJob.cwd = "w/Lang_10" := by
    rw [cwd_buildJob]
    show place "w" lang10 = _
    decide +kernel
  rw [launch_store, h, if_neg (by decide), smallLaunch, h, if_neg (by decide)]

theorem along_partialPlace_root :
    Location.along [] (Archive.partialPlace [] "." lang10) = [lang10.partialName] := by
  decide +kernel

theorem isOrderly_smallVisit : (smallVisit build options).IsOrderly "/" where
  parse_eq := parse?_lang10
  isName_cwd := nofun
  home_eq := by
    show Archive.home [] "." = "/"
    decide +kernel
  workspace_up := by
    show ".." ∉ Path.steps "w"
    decide +kernel
  archiveDir_up := by
    show ".." ∉ Path.steps "."
    decide +kernel
  outside_dest := by
    show ¬ Location.along [] (place "w" lang10) <+: Location.along [] "."
    decide +kernel
  outside_staging := by
    show ¬ Location.along [] (Checkout.staging "w" lang10) <+: Location.along [] "."
    decide +kernel
  downloads t ht := by
    show (storeHost.launch (smallVisit build options).downloadJob t).files.SymlinkFree ∧
      ∀ k, ¬ Location.along [] (Archive.partialPlace [] "." lang10) <+: k →
        (storeHost.launch (smallVisit build options).downloadJob t).files.get? k = t.get? k
    rw [launch_download_store, along_partialPlace_root, downloadToRoot]
    split
    · rename_i h
      refine ⟨ht.put (by simp [urlFile]), fun k hk => get?_put_of_ne t fun heq => hk ?_⟩
      simp [heq]
    · exact ⟨ht, fun _ _ => rfl⟩
  delivers t ht := by
    show (storeHost.launch (smallVisit build options).downloadJob t).outcome = .ok (.exited 0) →
      (storeHost.launch (smallVisit build options).downloadJob t).files.IsFileAt
        (Location.along [] (Archive.partialPlace [] "." lang10))
    rw [launch_download_store, along_partialPlace_root, downloadToRoot]
    split
    · rename_i h
      exact fun _ => ⟨_, false, none, (get?_put h _).trans (if_pos rfl)⟩
    · nofun
  extracts p t ht := by
    show (storeHost.launch (smallVisit build options).extractJob t).files.SymlinkFree ∧
      (storeHost.launch (smallVisit build options).extractJob t).files.get? (locationIn "/" p) =
        t.get? (locationIn "/" p)
    rw [launch_extract_store]
    refine ⟨((ht.put (by simp)).put (by simp)).put (by simp), get?_unpackedAt t fun hc => ?_⟩
    have hlength := hc.length_le
    rw [locationIn, show Path.steps "/" = [] by decide] at hlength
    simp at hlength
  builds _ p t ht := by
    show (storeHost.launch (smallVisit build options).buildJob t).files.SymlinkFree ∧
      (storeHost.launch (smallVisit build options).buildJob t).files.get? (locationIn "/" p) =
        t.get? (locationIn "/" p)
    rw [launch_build_store]
    exact ⟨ht, rfl⟩
  excludes n path hn hpath := by
    have hb : path = "b" := by
      have hpath : path ∈ smallConfig.exclusionsFor "Lang" := hpath
      rw [show smallConfig.exclusionsFor "Lang" = ["b"] by decide +kernel] at hpath
      exact List.mem_singleton.mp hpath
    refine staysBelow_of_isPlain rfl hn.isStep ?_ (hb ▸ ⟨["b"], by decide, by decide⟩)
    have hup : ".." ∉ Path.steps (smallVisit build options).staging := by
      show ".." ∉ Path.steps (Checkout.staging "w" lang10)
      decide +kernel
    rw [(Path.ends_join hn.isStep).steps_eq]
    simp [hup, Ne.symm hn.2.2.1]

end Small

def newWorkspace : FileTree := FileTree.empty.put [] "w" .directory

def transientVisit : Visit := smallVisit Config.default.build ⟨false, .transient⟩

def cachedVisit : Visit := smallVisit Config.default.build ⟨false, .cached⟩

/-- What the first visit leaves: its checkout, and no archive. -/
def visitedWorkspace : FileTree := (transientVisit.outcome newWorkspace).files

theorem archive_after_transient_and_cached :
    Visited "/" newWorkspace [cachedVisit.record visitedWorkspace, transientVisit.record newWorkspace]
        (cachedVisit.outcome visitedWorkspace).files ∧
      (cachedVisit.outcome visitedWorkspace).files.isFile [] (pathIn "/" lang10) := by
  have hstart : newWorkspace.SymlinkFree := symlinkFree_empty.put (by simp)
  have hfirst : Visited "/" newWorkspace [transientVisit.record newWorkspace] visitedWorkspace := by
    rw [visitedWorkspace]
    exact .visit transientVisit .nil (isOrderly_smallVisit _ _) (by decide +kernel)
  have hsecond := hfirst.visit cachedVisit (isOrderly_smallVisit _ _) (by decide +kernel)
  refine ⟨hsecond, ((archives_over_visits hstart hsecond []).1 lang10).mpr (.inl ?_)⟩
  decide +kernel

/-! ## A manifest that is an archive -/

def math5 : ProjectId := ⟨"Math", "5", by decide, by decide⟩

/-- The build fails, and the manifest's path leads out of the checkout to another archive. -/
def patchingVisit : Visit :=
  smallVisit ⟨⟨"build", []⟩, "../../Math-5.tar.gz", 1, [⟨"a", "b"⟩]⟩ ⟨true, .cached⟩

def otherArchive : FileTree := newWorkspace.put [] "Math-5.tar.gz" (.file "a".toUTF8 false none)

/-- A visit can change another project's archive, even if its children do not. -/
theorem archive_patched_by_other_build :
    ¬ ∀ (home : String) (v : Visit) (t : FileTree) (p : ProjectId),
      t.SymlinkFree → v.IsOrderly home → v.IsReady t → p ≠ v.project →
        (v.outcome t).files.get? (locationIn home p) = t.get? (locationIn home p) := by
  intro h
  have := h "/" patchingVisit otherArchive math5 ((symlinkFree_empty.put (by simp)).put (by simp))
    (isOrderly_smallVisit _ _) (by decide +kernel) (by decide +kernel)
  revert this
  decide +kernel

end Visit

end BenchCheckout
