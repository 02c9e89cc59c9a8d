import BenchCheckout.Proofs.Checkout.Success

/-!
# Failures after the fetch

Where the archive is there and its content cannot be put in place, the checkout fails with just that
failure, and neither a checkout nor a staging directory stays behind. A transient archive is deleted
once, a cached one is left, and nothing is built.

* `putInPlace_meets`: at every point where a stage can fail, the staging directory can be cleared.
* `Unplaced.clean`: the cleaning after a failure succeeds.
* `failed_placing_leaves_no_checkout`: the whole checkout.
-/

namespace BenchCheckout

/-- A change that neither writes text nor removes the file `archive`. -/
def Call.Spares (archive : String) : Call → Prop
  | .write .. => False
  | .removeFile p => p ≠ archive
  | _ => True

/-- The event starts only what is in `jobs`, and spares the archive. -/
def Event.IsMild (jobs : List Job) (archive : String) : Event → Prop
  | .changed call _ _ => call.Spares archive
  | .launched job _ _ => job ∈ jobs

theorem Event.isMild_of_calls {jobs : List Job} {archive : String} {history : List Event}
    (hjobs : history.filterMap (·.job?) = [])
    (hcalls : ∀ c ∈ history.filterMap (·.call?), c.Spares archive) :
    ∀ e ∈ history, e.IsMild jobs archive := by
  intro e he
  cases e with
  | changed call result files => exact hcalls call (List.mem_filterMap.mpr ⟨_, he, rfl⟩)
  | launched job outcome files =>
    have : job ∈ history.filterMap (·.job?) := List.mem_filterMap.mpr ⟨_, he, rfl⟩
    rw [hjobs] at this
    cases this

namespace Checkout

open BenchCheckout.Action FileTree

variable {host : Host} {config : Config} {project : ProjectId} {policy : ArchivePolicy}
  {raw workspace archive : String} {t u v : FileTree} {history : List Event} {jobs : List Job}

/-- The extractor may remove the staging directory, but puts nothing else there. -/
def KeepsStaging (host : Host) (config : Config) (project : ProjectId) (workspace : String) :
    Prop :=
  ∀ t, t.SymlinkFree → t.get? (host.cwd.along (staging workspace project)) = some .directory →
    (host.launch (unpackJob host config project workspace) t).files.get?
        (host.cwd.along (staging workspace project)) = none ∨
      (host.launch (unpackJob host config project workspace) t).files.get?
        (host.cwd.along (staging workspace project)) = some .directory

/-- The staging directory's path leads to a directory or nowhere. -/
def IsClearable (host : Host) (project : ProjectId) (workspace : String) (t : FileTree) : Prop :=
  t.exists? host.cwd (staging workspace project) → t.isDirectory host.cwd (staging workspace project)

theorem isClearable_of_get? (hw : ".." ∉ Path.steps workspace) (ht : t.SymlinkFree)
    (h : t.get? (host.cwd.along (staging workspace project)) = none ∨
      t.get? (host.cwd.along (staging workspace project)) = some .directory) :
    IsClearable host project workspace t := by
  have hup := staging_up project hw
  intro hx
  obtain ⟨hu, e, he, -⟩ := (exists?_iff ht hup).mp hx
  rcases h with h | h
  · rw [he] at h
    cases h
  · exact (isDirectory_iff ht hup).mpr ⟨hu, h⟩

/-! ## Failures before the cleaning -/

/-- What is there between the fetch and the end of the move: a staging directory that can be cleared,
and all else as it was but for directories on the way there. -/
structure Unplaced (host : Host) (project : ProjectId) (workspace : String) (t u : FileTree) :
    Prop where
  symlinkFree : u.SymlinkFree
  clearable : IsClearable host project workspace u
  get?_eq : ∀ k, ¬ host.cwd.along (staging workspace project) <+: k → u.get? k = t.get? k ∨
    k <+: host.cwd.along (staging workspace project) ∧ t.get? k = none ∧ u.get? k = some .directory

/-- What changes in the staging directory alone stays clearable. -/
theorem Unplaced.of_get?_eq (h : Unplaced host project workspace t u)
    (hw : ".." ∉ Path.steps workspace) (hv : v.SymlinkFree)
    (hout : ∀ k, ¬ host.cwd.along (staging workspace project) <+: k → v.get? k = u.get? k)
    (hin : v.get? (host.cwd.along (staging workspace project)) = none ∨
      v.get? (host.cwd.along (staging workspace project)) = some .directory) :
    Unplaced host project workspace t v := by
  refine ⟨hv, isClearable_of_get? hw hv hin, fun k hk => ?_⟩
  rw [hout k hk]
  exact h.get?_eq k hk

theorem resetStaging_meets (hw : ".." ∉ Path.steps workspace) (ht : t.SymlinkFree)
    (hc : IsClearable host project workspace t) :
    ((Archive.resetStaging (staging workspace project)).outcome host t).Meets
      (Event.IsMild jobs archive) (Unplaced host project workspace t)
      fun _ u => Unplaced host project workspace t u ∧
        u.get? (host.cwd.along (staging workspace project)) = some .directory := by
  have hup := staging_up project hw
  have hne : Path.steps (staging workspace project) ≠ [] := by simp [ends_staging.steps_eq]
  rcases resetStaging_cases host project hw ht with ⟨hx, hd, -⟩ |
    ⟨v, before, hv, hjobs, hcalls, ho⟩
  · exact absurd (hc hx) hd
  have hadds := createDirs_adds_along host.cwd hv.symlinkFree hup
  have hu := hadds.symlinkFree hv.symlinkFree
  have hframe (k : Location) (hk : ¬ host.cwd.along (staging workspace project) <+: k) := by
    have := hadds k
    rwa [hv.get?_eq k hk] at this
  rcases hcreate : v.createDirs host.cwd (staging workspace project) with ⟨r, w⟩
  rw [ho, hcreate]
  rw [hcreate] at hu hframe
  refine ⟨?_, fun a ha => ?_, fun f hf => ?_⟩
  · refine Event.isMild_of_calls (by rw [List.filterMap_append, hjobs]; rfl) fun c hcall => ?_
    rw [List.filterMap_append, List.mem_append] at hcall
    rcases hcall with hcall | hcall
    · rw [hcalls c hcall]
      exact True.intro
    · obtain rfl : c = .createDirs (staging workspace project) := by simpa [Event.call?] using hcall
      exact True.intro
  · cases r with
    | error fault => cases ha
    | ok =>
      have hdir := ((isDirectory_iff hu hup).mp
        (isDirectory_of_createDirs hv.symlinkFree ends_staging.ne_empty hcreate)).2
      exact ⟨⟨hu, isClearable_of_get? hw hu (.inr hdir), hframe⟩, hdir⟩
  · cases r with
    | ok => cases hf
    | error fault =>
      refine ⟨hu, fun hx => ?_, hframe⟩
      obtain ⟨husable, e, he, -⟩ := (exists?_iff hu hup).mp hx
      rw [get?_of_createDirs_eq_error hv.symlinkFree hup hne hcreate,
        hv.get?_eq_none (.inl husable) _ (List.prefix_refl _)] at he
      cases he

/-- A name in the staging directory that is in place as the project's root. -/
def IsRootPath (host : Host) (project : ProjectId) (workspace : String) (root : String)
    (t : FileTree) : Prop :=
  ∃ n, IsName n ∧ root = Path.join (staging workspace project) n ∧
    t.get? (host.cwd.along (staging workspace project) ++ [n]) = some .directory

theorem extract_meets (hp : Paths host config project workspace)
    (he : ExtractsToStaging host config project workspace)
    (hk : KeepsStaging host config project workspace) (ht : t.SymlinkFree)
    (hc : IsClearable host project workspace t) :
    ((Archive.extract config project (Archive.place host.cwd config.archiveDir project)
      (staging workspace project)).outcome host t).Meets
        (Event.IsMild [unpackJob host config project workspace] archive)
        (Unplaced host project workspace t)
        fun root u => Unplaced host project workspace t u ∧
          IsRootPath host project workspace root u := by
  rw [Archive.outcome_extract]
  refine (resetStaging_meets hp.workspace_up ht hc).andThen fun _ u ⟨hu, hdir⟩ => ?_
  have hleft : Unplaced host project workspace t
      (host.launch (unpackJob host config project workspace) u).files :=
    hu.of_get?_eq hp.workspace_up (he u hu.symlinkFree).1 (he u hu.symlinkFree).2
      (hk u hu.symlinkFree hdir)
  have hjob : Outcome.Meets (Event.IsMild [unpackJob host config project workspace] archive)
      (Unplaced host project workspace t) (fun _ v => Unplaced host project workspace t v)
      ⟨config.extractor.verdict "extract"
          (host.launch (unpackJob host config project workspace) u).outcome,
        (host.launch (unpackJob host config project workspace) u).files,
        [.launched (unpackJob host config project workspace)
          (host.launch (unpackJob host config project workspace) u).outcome
          (host.launch (unpackJob host config project workspace) u).files]⟩ := by
    refine ⟨fun e hmem => ?_, fun _ _ => hleft, fun _ _ => hleft⟩
    rw [List.mem_singleton.mp hmem]
    exact List.mem_singleton.mpr rfl
  refine hjob.andThen fun _ v hv => ?_
  refine ⟨fun e hmem => (by cases hmem), fun root hroot => ⟨hv, ?_⟩, fun _ _ => hv⟩
  obtain ⟨n, hn, hj, hisroot⟩ := rootIn_eq_ok hp.workspace_up hv.symlinkFree hroot
  exact ⟨n, hn, hj, hisroot.1⟩

theorem removeAllExcluded_meets {root : String} (hp : Paths host config project workspace)
    (hx : ∀ e ∈ config.exclusions, Path.IsPlain e.path) (hu : Unplaced host project workspace t u)
    {n : String} (hn : IsName n) (hroot : root = Path.join (staging workspace project) n)
    (hdir : u.get? (host.cwd.along (staging workspace project) ++ [n]) = some .directory) :
    ((removeAllExcluded root (config.exclusionsFor project.subject)).outcome host u).Meets
      (Event.IsMild jobs (Archive.place host.cwd config.archiveDir project))
      (Unplaced host project workspace t)
      fun _ v => Unplaced host project workspace t v ∧
        ∀ e, v.get? (host.cwd.along (staging workspace project) ++ [n]) = some e →
          e = .directory := by
  have hup := staging_up project hp.workspace_up
  have halong : host.cwd.along root = host.cwd.along (staging workspace project) ++ [n] := by
    rw [hroot, Location.along_join_step hn.isStep]
  have hupn : ".." ∉ Path.steps root :=
    hroot ▸ (Path.ends_join hn.isStep).up_not_mem_steps hup hn.2.2.1
  obtain ⟨v, history, ho, hv, hget, hjobs, hcalls⟩ := removeAllExcluded_spec host hroot
    hn.isStep hupn (fun path hpath => isPlain_of_mem hx hpath) hu.symlinkFree fun e he => by
      rw [halong, hdir] at he
      exact (Option.some.inj he).symm
  rw [halong] at hget
  rw [ho]
  refine ⟨Event.isMild_of_calls hjobs fun c hc => ?_, fun _ _ => ⟨?_, fun e he => ?_⟩,
    fun f hf => by cases hf⟩
  · obtain ⟨path, hpath, rfl | rfl⟩ := hcalls c hc
    · exact True.intro
    · -- The archive is not in the staging directory.
      intro heq
      refine hp.outside_staging ?_
      rw [← heq, Location.along_join (isPlain_of_mem hx hpath).startsAtRoot_eq, halong,
        List.append_assoc]
      exact List.prefix_append _ _
  · have hout {k : Location} (hk : ¬ host.cwd.along (staging workspace project) ++ [n] <+: k) :
        v.get? k = u.get? k := by
      rw [hget, if_neg]
      rintro ⟨path, -, -, hpre⟩
      exact hk ((List.prefix_append _ _).trans hpre)
    refine hu.of_get?_eq hp.workspace_up hv (fun k hk => hout fun hc => hk
      ((List.prefix_append _ _).trans hc)) (.inr ?_)
    rw [hout fun hc => ?_, get?_of_prefix hdir (List.prefix_append _ _)]
    have := hc.length_le
    rw [List.length_append, List.length_singleton] at this
    omega
  · rw [hget] at he
    split at he
    · cases he
    · rw [hdir] at he
      exact (Option.some.inj he).symm

/-- Wherever the content of an archive cannot be put in place, the staging directory can be cleared.
-/
theorem putInPlace_meets (hp : Paths host config project workspace)
    (he : ExtractsToStaging host config project workspace)
    (hk : KeepsStaging host config project workspace)
    (hx : ∀ e ∈ config.exclusions, Path.IsPlain e.path) (ht : t.SymlinkFree)
    (hc : IsClearable host project workspace t) :
    ((putInPlace config project (Archive.place host.cwd config.archiveDir project)
      (staging workspace project) (place workspace project)).outcome host t).Meets
        (Event.IsMild [unpackJob host config project workspace]
          (Archive.place host.cwd config.archiveDir project))
        (Unplaced host project workspace t) fun _ _ => True := by
  rw [outcome_putInPlace]
  refine (extract_meets hp he hk ht hc).andThen fun root u ⟨hu, n, hn, hroot, hdir⟩ => ?_
  refine (removeAllExcluded_meets hp hx hu hn hroot hdir).andThen fun _ v ⟨hv, hvdir⟩ => ?_
  rw [← moving, hroot]
  rcases moving_cases host project hp.workspace_up hn hv.symlinkFree hvdir with
    ⟨f, event, hmoving, hevent⟩ | ⟨w, first, second, hmoving, hfirst, hsecond, -⟩
  · rw [hmoving]
    refine ⟨fun e hmem => ?_, fun _ hok => (by cases hok), fun _ _ => hv⟩
    rw [List.mem_singleton.mp hmem]
    cases event <;> cases hevent
    exact True.intro
  · rw [hmoving]
    refine ⟨fun e hmem => ?_, fun _ _ => True.intro, fun _ herror => by cases herror⟩
    cases first <;> cases hfirst
    cases second <;> cases hsecond
    rcases List.mem_cons.mp hmem with rfl | hmem
    · exact True.intro
    · rw [List.mem_singleton.mp hmem]
      exact True.intro

/-- The cleaning after a failure leaves no staging directory. -/
theorem Unplaced.clean {removed : Except Fault Unit} (hw : ".." ∉ Path.steps workspace)
    (h : Unplaced host project workspace t u)
    (hv : u.removeTree host.cwd (staging workspace project) = (removed, v)) :
    v.SymlinkFree ∧ v.exists? host.cwd (staging workspace project) = false ∧
      ∀ k, ¬ host.cwd.along (staging workspace project) <+: k → v.get? k = u.get? k := by
  have hup := staging_up project hw
  have hne : host.cwd.along (staging workspace project) ≠ [] := by simp [along_staging]
  by_cases hd : u.isDirectory host.cwd (staging workspace project)
  · rw [removeTree_of_isDirectory h.symlinkFree ends_staging hup hd] at hv
    obtain ⟨-, rfl⟩ := Prod.mk.inj hv
    have hnone : (u.prune (host.cwd.along (staging workspace project))).get?
        (host.cwd.along (staging workspace project)) = none := by
      rw [get?_prune hne, if_pos (List.prefix_refl _)]
    exact ⟨h.symlinkFree.prune hne, exists?_eq_false_of_get? (h.symlinkFree.prune hne) hup hnone,
      fun k hk => by rw [get?_prune hne, if_neg hk]⟩
  · obtain ⟨fault, hr⟩ := removeTree_of_not_isDirectory h.symlinkFree ends_staging hup hd
    rw [hr] at hv
    obtain ⟨-, rfl⟩ := Prod.mk.inj hv
    exact ⟨h.symlinkFree, Bool.eq_false_iff.mpr fun hx => hd (h.clearable hx), fun _ _ => rfl⟩

/-! ## The stages up to the archive -/

theorem fetch_mild (config : Config) (project : ProjectId) (policy : ArchivePolicy)
    (hcwd : ∀ n ∈ host.cwd, IsName n) (t : FileTree) :
    ∀ e ∈ ((Archive.fetch config project policy).outcome host t).history,
      e.IsMild [Archive.downloadJob config project host.cwd]
        (Archive.place host.cwd config.archiveDir project) := by
  have hf := Archive.fetched config project policy host hcwd t
  generalize (Archive.fetch config project policy).outcome host t = o at hf
  intro e he
  cases hf with
  | pathless | reused => cases he
  | homeless =>
    rw [List.mem_singleton.mp he]
    exact True.intro
  | failed =>
    simp only [List.mem_cons, List.not_mem_nil, or_false] at he
    rcases he with rfl | rfl | rfl
    · exact True.intro
    · exact List.mem_singleton.mpr rfl
    · exact Archive.partialPlace_ne_place
  | ended =>
    simp only [List.mem_cons, List.not_mem_nil, or_false] at he
    rcases he with rfl | rfl | rfl
    · exact True.intro
    · exact List.mem_singleton.mpr rfl
    · exact True.intro

theorem fetching_ok (hp : Paths host config project workspace)
    (hd : DownloadsToOutput host config project) (ht : t.SymlinkFree)
    (hne : host.cwd.along workspace ≠
      host.cwd.along (Archive.place host.cwd config.archiveDir project))
    (hw : t.isDirectory host.cwd workspace)
    (h : fetching config project workspace policy host t = ⟨.ok archive, v, history⟩) :
    archive = Archive.place host.cwd config.archiveDir project ∧ v.SymlinkFree ∧
    (∀ e ∈ history, e.IsMild [Archive.downloadJob config project host.cwd] archive) ∧
    (Path.IsUsable (place workspace project) →
      v.get? (host.cwd.along (place workspace project)) = none) ∧
    (v.get? (host.cwd.along (staging workspace project)) =
        t.get? (host.cwd.along (staging workspace project)) ∨
      v.get? (host.cwd.along (staging workspace project)) = none) ∧
    ¬ host.cwd.along archive <+: host.cwd.along (staging workspace project) := by
  have hmild := fetch_mild config project policy hp.isName_cwd
  obtain ⟨⟨⟩, u, before, after, hstale, hfetch, rfl⟩ := Outcome.andThen_eq_ok h
  obtain ⟨hu, hget, hgone, hjobs, hcalls⟩ := removeStale_ok hp.workspace_up ht hstale
  obtain ⟨rfl, hv, hfetched⟩ := fetch_ok hp hd hu hfetch
  have hworkspace : u.get? (host.cwd.along workspace) = some .directory := by
    rw [hget _ fun hc => ?_]
    · exact ((isDirectory_iff ht hp.workspace_up).mp hw).2
    · have := hc.length_le
      rw [along_dest, List.length_append, List.length_singleton] at this
      omega
  obtain ⟨hA, hP⟩ := archive_locations hp
  have houtdest := hp.outside_dest
  have houtstaging := hp.outside_staging
  rw [hA] at hne houtdest houtstaging
  rw [hA, hP] at hfetched
  rw [along_dest] at houtdest
  rw [along_staging] at houtstaging
  have hnames := ProjectId.archiveName_ne_partialName project project
  refine ⟨rfl, hv, fun e he => ?_, fun hx => ?_, ?_, ?_⟩
  · rcases List.mem_append.mp he with he | he
    · refine Event.isMild_of_calls hjobs (fun c hc => ?_) e he
      rw [hcalls c hc]
      exact True.intro
    · exact hmild u e (by rw [hfetch]; exact he)
  · have := hfetched.get?_eq_or_none hnames (project.dirName_ne_partialName project) hworkspace hne
      houtdest
    rw [← along_dest, hgone hx _ (List.prefix_refl _)] at this
    exact this.elim id id
  · have := hfetched.get?_eq_or_none hnames (project.stagingName_ne_partialName project) hworkspace
      hne houtstaging
    rwa [← along_staging, hget _ not_dest_prefix_staging] at this
  · rw [hA, along_staging, List.prefix_concat_iff, not_or]
    refine ⟨fun heq => houtstaging (heq ▸ List.prefix_refl _), hfetched.not_prefix ?_ ?_ hworkspace
      hne⟩
    · simpa [List.prefix_append_right_inj] using Ne.symm hnames
    · simpa [List.prefix_append_right_inj] using hnames

/-! ## The whole checkout -/

/-- The build command was not started and the manifest not patched. -/
structure IsUnbuilt (config : Config) (dest : String) (history : List Event) : Prop where
  command : config.build.command.job [] dest ∉ history.filterMap (·.job?)
  manifest : ∀ path text, .write path text ∉ history.filterMap (·.call?)

theorem IsUnbuilt.cons_removeTree {dest p : String} {r : Except Fault Unit}
    (h : IsUnbuilt config dest history) :
    IsUnbuilt config dest (.changed (.removeTree p) r u :: history) := by
  refine ⟨h.command, fun path text hmem => ?_⟩
  rcases List.mem_cons.mp hmem with hc | hmem
  · cases hc
  · exact h.manifest path text hmem

theorem IsUnbuilt.append {dest : String} {before after : List Event}
    (h : IsUnbuilt config dest before) (h' : IsUnbuilt config dest after) :
    IsUnbuilt config dest (before ++ after) := by
  refine ⟨?_, fun path text => ?_⟩
  · rw [List.filterMap_append, List.mem_append, not_or]
    exact ⟨h.command, h'.command⟩
  · rw [List.filterMap_append, List.mem_append, not_or]
    exact ⟨h.manifest path text, h'.manifest path text⟩

/-- Jobs that run elsewhere are no builds. -/
theorem isUnbuilt_of_mild {dest : String} (hjobs : ∀ job ∈ jobs, job.cwd ≠ dest)
    (h : ∀ e ∈ history, e.IsMild jobs archive) : IsUnbuilt config dest history := by
  constructor
  · intro hmem
    obtain ⟨e, he, hjob⟩ := List.mem_filterMap.mp hmem
    cases e <;> cases hjob
    exact hjobs _ (h _ he) rfl
  · intro path text hmem
    obtain ⟨e, he, hcall⟩ := List.mem_filterMap.mp hmem
    cases e <;> cases hcall
    exact h _ he

theorem count_append_of_mild {after : List Event} (h : ∀ e ∈ history, e.IsMild jobs archive) :
    ((history ++ after).filterMap (·.call?)).count (.removeFile archive) =
      (after.filterMap (·.call?)).count (.removeFile archive) := by
  rw [List.filterMap_append, List.count_append, Nat.add_eq_right]
  refine List.count_eq_zero_of_not_mem fun hmem => ?_
  obtain ⟨e, he, hcall⟩ := List.mem_filterMap.mp hmem
  cases e <;> cases hcall
  exact h _ he rfl

theorem cwd_downloadJob_ne (hp : Paths host config project workspace) :
    (Archive.downloadJob config project host.cwd).cwd ≠ place workspace project := by
  intro h
  have hdir : Archive.dir host.cwd config.archiveDir = place workspace project := h
  have hpre : host.cwd.along (Archive.dir host.cwd config.archiveDir) <+:
      host.cwd.along (Archive.place host.cwd config.archiveDir project) := by
    rw [Archive.along_place hp.isName_cwd, Archive.along_dir hp.isName_cwd]
    exact List.prefix_append _ _
  rw [hdir] at hpre
  exact hp.outside_dest hpre

theorem cwd_unpackJob_ne :
    (unpackJob host config project workspace).cwd ≠ place workspace project := by
  intro h
  have hs : staging workspace project = place workspace project := h
  have hpre : ¬ host.cwd.along (staging workspace project) <+:
      host.cwd.along (place workspace project) := not_staging_prefix_dest
  rw [hs] at hpre
  exact hpre (List.prefix_refl _)

/-- The deletion counts once where the archive is transient. -/
theorem deletion_history (policy : ArchivePolicy) (hp : Paths host config project workspace)
    (ht : t.SymlinkFree) (dest : String) :
    let o := deletion policy host t (Archive.place host.cwd config.archiveDir project)
    o.calls.count (.removeFile (Archive.place host.cwd config.archiveDir project)) =
      (if policy = .transient then 1 else 0) ∧ IsUnbuilt config dest o.history := by
  obtain ⟨hjobs, hcalls, -⟩ := deletion_spec policy hp ht
  refine ⟨?_, ?_, fun path text hmem => ?_⟩
  · rw [hcalls]
    split <;> simp
  · intro hmem
    rw [Outcome.jobs] at hjobs
    rw [hjobs] at hmem
    cases hmem
  · rw [Outcome.calls] at hcalls
    rw [hcalls] at hmem
    split at hmem <;> simp at hmem

/-- What cannot be put in place leaves neither a checkout nor a staging directory. -/
theorem unpackInto_of_not_placed {after : List Event} {f : Failure} (policy : ArchivePolicy)
    (hp : Paths host config project workspace)
    (hplace : (putInPlace config project (Archive.place host.cwd config.archiveDir project)
      (staging workspace project) (place workspace project)).outcome host v =
        ⟨.error f, u, after⟩)
    (hunplaced : Unplaced host project workspace v u)
    (hmild : ∀ e ∈ after, e.IsMild [unpackJob host config project workspace]
      (Archive.place host.cwd config.archiveDir project))
    (hdest : Path.IsUsable (place workspace project) →
      v.get? (host.cwd.along (place workspace project)) = none)
    (hbelow : ¬ host.cwd.along (Archive.place host.cwd config.archiveDir project) <+:
      host.cwd.along (staging workspace project)) :
    let archive := Archive.place host.cwd config.archiveDir project
    let o := (unpackInto config project policy archive (staging workspace project)
      (place workspace project)).outcome host v
    o.result = .error f ∧
    o.files.exists? host.cwd (place workspace project) = false ∧
    o.files.exists? host.cwd (staging workspace project) = false ∧
    o.calls.count (.removeFile archive) = (if policy = .transient then 1 else 0) ∧
    (policy = .cached → ∀ k, host.cwd.along archive <+: k → o.files.get? k = v.get? k) ∧
    IsUnbuilt config (place workspace project) o.history := by
  intro archive o
  rcases hclean : u.removeTree host.cwd (staging workspace project) with ⟨removed, x⟩
  obtain ⟨hx, hgone, hkept⟩ := hunplaced.clean hp.workspace_up hclean
  have hperform : Call.perform host.cwd (.removeTree (staging workspace project)) u =
    (removed, x) := hclean
  have ho : o = ⟨.error f, (deletion policy host x archive).files,
      after ++ .changed (.removeTree (staging workspace project)) removed x ::
        (deletion policy host x archive).history⟩ := by
    simp only [o, archive, outcome_unpackInto, hplace, hperform]
  obtain ⟨-, -, hsf, hcached, hsame⟩ := deletion_spec policy hp hx
  obtain ⟨hcount, hunbuilt⟩ := deletion_history policy hp hx (place workspace project)
  rw [ho]
  refine ⟨rfl, ?_, ?_, ?_, fun hc k hk => ?_, ?_⟩
  · rw [Bool.eq_false_iff, ne_eq, exists?_iff hsf (dest_up project hp.workspace_up)]
    rintro ⟨husable, e, he, -⟩
    rw [hsame _ fun hc => hp.outside_dest (hc ▸ List.prefix_refl _),
      hkept _ not_staging_prefix_dest] at he
    rcases hunplaced.get?_eq _ not_staging_prefix_dest with hget | ⟨hpre, -⟩
    · rw [hget, hdest husable] at he
      cases he
    · exact not_dest_prefix_staging hpre
  · have hup := staging_up project hp.workspace_up
    rw [Bool.eq_false_iff, ne_eq, exists?_iff hx hup] at hgone
    rw [Bool.eq_false_iff, ne_eq, exists?_iff hsf hup,
      hsame _ fun hc => hp.outside_staging (hc ▸ List.prefix_refl _)]
    exact hgone
  · rw [Outcome.calls, count_append_of_mild hmild]
    exact (List.count_cons_of_ne (by simp)).trans hcount
  · have hout : ¬ host.cwd.along (staging workspace project) <+: k := fun hc =>
      (List.prefix_or_prefix_of_prefix hc hk).elim hp.outside_staging hbelow
    rw [hcached hc, hkept k hout]
    exact (hunplaced.get?_eq k hout).resolve_right fun h => hbelow (hk.trans h.1)
  · exact (isUnbuilt_of_mild (by simpa using cwd_unpackJob_ne) hmild).append
      hunbuilt.cons_removeTree

/-- Where only the deletion of the archive fails, the content stays in place. -/
theorem unpackInto_of_not_deleted {after : List Event} {f : Failure}
    (hp : Paths host config project workspace)
    (hplace : (putInPlace config project (Archive.place host.cwd config.archiveDir project)
      (staging workspace project) (place workspace project)).outcome host v = ⟨.ok (), u, after⟩)
    (hu : u.SymlinkFree)
    (hmild : ∀ e ∈ after, e.IsMild [unpackJob host config project workspace]
      (Archive.place host.cwd config.archiveDir project))
    (hf : (deletion policy host u (Archive.place host.cwd config.archiveDir project)).result =
      .error f) :
    let archive := Archive.place host.cwd config.archiveDir project
    let o := (unpackInto config project policy archive (staging workspace project)
      (place workspace project)).outcome host v
    o.result = .error f ∧ (∀ k, k ≠ host.cwd.along archive → o.files.get? k = u.get? k) ∧
    o.calls.count (.removeFile archive) = 1 ∧
    IsUnbuilt config (place workspace project) o.history := by
  intro archive o
  have ho : o = ⟨.error f, (deletion policy host u archive).files,
      after ++ (deletion policy host u archive).history⟩ := by
    simp only [o, archive, outcome_unpackInto, hplace, hf]
  obtain ⟨-, -, -, -, hsame⟩ := deletion_spec policy hp hu
  obtain ⟨hcount, hunbuilt⟩ := deletion_history policy hp hu (place workspace project)
  have htransient : policy = .transient := by
    cases policy with
    | transient => rfl
    | cached => cases hf
  rw [if_pos htransient] at hcount
  rw [ho]
  refine ⟨rfl, hsame, ?_, (isUnbuilt_of_mild (by simpa using cwd_unpackJob_ne) hmild).append
    hunbuilt⟩
  rw [Outcome.calls, count_append_of_mild hmild]
  exact hcount

/-- Where the archive was fetched but its content cannot be put in place, the checkout fails with
that failure, and there is neither a checkout nor a staging directory. Where the content is in place
and the archive cannot be deleted, the checkout fails with that, and the content stays. In both
cases a transient archive was to be deleted once, a cached one was left, and nothing was built. -/
theorem failed_placing_leaves_no_checkout (options : Options) {before : List Event}
    {result : Except Failure String}
    (hparse : ProjectId.parse? raw = some project)
    (hp : Paths host config project workspace)
    (hne : host.cwd.along workspace ≠
      host.cwd.along (Archive.place host.cwd config.archiveDir project))
    (hd : DownloadsToOutput host config project)
    (he : ExtractsToStaging host config project workspace)
    (hk : KeepsStaging host config project workspace)
    (hx : ∀ e ∈ config.exclusions, Path.IsPlain e.path) (ht : t.SymlinkFree)
    (hs : t.get? (host.cwd.along (staging workspace project)) = none ∨
      t.get? (host.cwd.along (staging workspace project)) = some .directory)
    (hw : t.isDirectory host.cwd workspace)
    (hfetch : fetching config project workspace options.archive host t = ⟨.ok archive, v, before⟩)
    (hrun : (checkout config raw workspace options).outcome host t = ⟨result, u, history⟩) :
    let placed := (putInPlace config project archive (staging workspace project)
      (place workspace project)).outcome host v
    let deleted := deletion options.archive host placed.files archive
    (∀ f, placed.result = .error f →
      result = .error f ∧
      u.exists? host.cwd (place workspace project) = false ∧
      u.exists? host.cwd (staging workspace project) = false ∧
      (history.filterMap (·.call?)).count (.removeFile archive) =
        (if options.archive = .transient then 1 else 0) ∧
      (options.archive = .cached → ∀ k, host.cwd.along archive <+: k → u.get? k = v.get? k) ∧
      IsUnbuilt config (place workspace project) history) ∧
    ∀ f, placed.result = .ok () → deleted.result = .error f →
      result = .error f ∧
      (∃ left n, Placed host config project workspace v left placed.files n) ∧
      (∀ k, k ≠ host.cwd.along archive → u.get? k = placed.files.get? k) ∧
      (history.filterMap (·.call?)).count (.removeFile archive) = 1 ∧
      IsUnbuilt config (place workspace project) history := by
  obtain ⟨rfl, hv, hmild, hdest, hstaging, hbelow⟩ := fetching_ok hp hd ht hne hw hfetch
  have hclear : IsClearable host project workspace v := by
    refine isClearable_of_get? hp.workspace_up hv ?_
    rcases hstaging with h | h
    · rwa [h]
    · exact .inl h
  have hmeets := putInPlace_meets hp he hk hx hv hclear
  have hbefore : IsUnbuilt config (place workspace project) before :=
    isUnbuilt_of_mild (by simpa using cwd_downloadJob_ne hp) hmild
  rw [outcome_checkout_of_isDirectory hparse hw, hfetch, Outcome.ok_andThen] at hrun
  obtain ⟨o, ho⟩ : ∃ o, (unpackInto config project options.archive
      (Archive.place host.cwd config.archiveDir project) (staging workspace project)
      (place workspace project)).outcome host v = o := ⟨_, rfl⟩
  rw [ho] at hrun
  -- Both failures are those of the unpacking, and the end of the run.
  have hends {f : Failure} (hf : o.result = .error f) :
      result = .error f ∧ u = o.files ∧ history = before ++ o.history := by
    rw [Outcome.eq_of_result hf, Outcome.error_andThen] at hrun
    obtain ⟨hr, hu, hh⟩ := Outcome.mk.inj hrun
    exact ⟨hr.symm, hu.symm, hh.symm⟩
  rcases hplace : (putInPlace config project (Archive.place host.cwd config.archiveDir project)
    (staging workspace project) (place workspace project)).outcome host v with ⟨r, w, after⟩
  rw [hplace] at hmeets
  refine ⟨fun f hf => ?_, fun f hok hf => ?_⟩
  · obtain rfl : r = .error f := hf
    have hunpacked := unpackInto_of_not_placed options.archive hp hplace (hmeets.error f rfl)
      hmeets.events hdest hbelow
    simp only [ho] at hunpacked
    obtain ⟨herror, hnodest, hnostaging, hcount, hcached, hunbuilt⟩ := hunpacked
    obtain ⟨rfl, rfl, rfl⟩ := hends herror
    refine ⟨rfl, hnodest, hnostaging, ?_, hcached, hbefore.append hunbuilt⟩
    rw [count_append_of_mild hmild]
    exact hcount
  · obtain rfl : r = .ok () := hok
    obtain ⟨-, left, -, n, -, -, hplaced⟩ := putInPlace_ok hp he hx hv hplace
    have hunpacked := unpackInto_of_not_deleted hp hplace hplaced.symlinkFree hmeets.events hf
    simp only [ho] at hunpacked
    obtain ⟨herror, hsame, hcount, hunbuilt⟩ := hunpacked
    obtain ⟨rfl, rfl, rfl⟩ := hends herror
    refine ⟨rfl, ⟨left, n, hplaced⟩, hsame, ?_, hbefore.append hunbuilt⟩
    rw [count_append_of_mild hmild]
    exact hcount

theorem keepsStaging_small (status : ExitStatus) :
    KeepsStaging (smallHost status) smallConfig lang10 "w" := by
  intro t ht hdir
  rw [along_staging_small] at hdir
  rw [launch_unpack_small, along_staging_small, get?_unpackedAt t (by decide)]
  exact .inr hdir

/-- The extractor of the small host fails behind what it unpacked. -/
theorem small_failure_leaves_no_checkout :
    ∃ u history,
      (checkout smallConfig "Lang_10" "w" ⟨true, .cached⟩).outcome (smallHost (.exited 1))
        smallTree = ⟨.error (.ofCause (.toolFailed "extract" (.exited 1))), u, history⟩ ∧
      u.exists? [] (place "w" lang10) = false ∧ u.exists? [] (staging "w" lang10) = false ∧
      (history.filterMap (·.call?)).count (.removeFile "/Lang-10.tar.gz") = 0 ∧
      IsUnbuilt smallConfig (place "w" lang10) history := by
  have hfetch := Outcome.eq_of_result (show (fetching smallConfig lang10 "w" .cached
    (smallHost (.exited 1)) smallTree).result = .ok "/Lang-10.tar.gz" by decide +kernel)
  have hrun := Outcome.eq_of_result (show ((checkout smallConfig "Lang_10" "w"
    ⟨true, .cached⟩).outcome (smallHost (.exited 1)) smallTree).result =
      .error (.ofCause (.toolFailed "extract" (.exited 1))) by decide +kernel)
  obtain ⟨-, hdest, hstaging, hcount, -, hunbuilt⟩ := (failed_placing_leaves_no_checkout
    ⟨true, .cached⟩ parse?_lang10 (paths_small _) (by
      show ¬ Location.along [] "w" = Location.along [] (Archive.place [] "." lang10)
      decide +kernel)
    (downloads_small _) (extracts_small _) (keepsStaging_small _) isPlain_smallConfig
    symlinkFree_smallTree (by rw [along_staging_small]; exact .inl (by decide +kernel))
    (by decide +kernel) hfetch hrun).1
    (.ofCause (.toolFailed "extract" (.exited 1))) (by decide +kernel)
  exact ⟨_, _, hrun, hdest, hstaging, hcount, hunbuilt⟩

/-- Two empty directories at the archive's path and at the path of its download, the latter with a
directory in it that is named like the checkout. -/
def shelteredTree : FileTree :=
  ((FileTree.empty.put [] "Lang-10.tar.gz" .directory).put [] "Lang-10.tar.gz.part" .directory).put
    ["Lang-10.tar.gz.part"] "Lang_10" .directory

/-- A workspace at the archive's path is what the download is moved to. What comes with it stays
there. -/
theorem directory_at_checkout_after_failure :
    ¬ ∀ (host : Host) (config : Config) (project : ProjectId) (raw workspace archive : String)
        (options : Options) (t v u : FileTree) (before history : List Event) (f : Failure),
      ProjectId.parse? raw = some project → Paths host config project workspace →
      DownloadsToOutput host config project → ExtractsToStaging host config project workspace →
      KeepsStaging host config project workspace →
      (∀ e ∈ config.exclusions, Path.IsPlain e.path) → t.SymlinkFree →
      t.get? (host.cwd.along (staging workspace project)) = none →
      t.isDirectory host.cwd workspace →
      fetching config project workspace options.archive host t = ⟨.ok archive, v, before⟩ →
      ((putInPlace config project archive (staging workspace project)
        (place workspace project)).outcome host v).result = .error f →
      (checkout config raw workspace options).outcome host t = ⟨.error f, u, history⟩ →
      u.exists? host.cwd (place workspace project) = false := by
  intro h
  have hfetch := Outcome.eq_of_result (show (fetching smallConfig lang10 "Lang-10.tar.gz" .cached
    idleHost shelteredTree).result = .ok "/Lang-10.tar.gz" by decide +kernel)
  have hrun := Outcome.eq_of_result (show ((checkout smallConfig "Lang_10" "Lang-10.tar.gz"
    ⟨false, .cached⟩).outcome idleHost shelteredTree).result =
      .error (.ofCause (.archiveLayout "/Lang-10.tar.gz")) by decide +kernel)
  have hgone := h idleHost smallConfig lang10 "Lang_10" "Lang-10.tar.gz" "/Lang-10.tar.gz"
    ⟨false, .cached⟩ shelteredTree _ _ _ _ _ parse?_lang10
    ⟨nofun, by decide +kernel, by decide +kernel, by decide +kernel, by decide +kernel⟩
    (fun t ht => ⟨ht, fun _ _ => rfl⟩) (fun t ht => ⟨ht, fun _ _ => rfl⟩)
    (fun t _ hdir => .inr hdir) isPlain_smallConfig
    (SymlinkFree.put (SymlinkFree.put (SymlinkFree.put symlinkFree_empty (by simp)) (by simp))
      (by simp))
    (by decide +kernel) (by decide +kernel) hfetch (by decide +kernel) hrun
  revert hgone
  decide +kernel

end Checkout

end BenchCheckout
