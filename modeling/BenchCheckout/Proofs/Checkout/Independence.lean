import BenchCheckout.Proofs.Checkout.Before
import BenchCheckout.Proofs.Files.Alike

/-!
# Two checkouts

A checkout does not depend on what an earlier one left. Two trees may differ in an earlier checkout
and an earlier staging directory. The one goes away before anything else is done, the other before
anything is unpacked, and in between the two runs are side by side, on trees that are `Alike` but for
the staging directory.

* `removeStale_agrees`, `fetch_agrees`, `unpackInto_agrees`: stage by stage.
* `checkout_agrees`: the whole checkout.
* `agreement_needs_workspace_off_archive`: where the workspace must not be.
-/

namespace BenchCheckout

open BenchCheckout.Action FileTree

/-! ## One stage in two runs -/

namespace Outcome

variable {α : Type} {R : FileTree → FileTree → Prop} {o o' : Outcome α}

theorem Agrees.mono {S : FileTree → FileTree → Prop} (h : o.Agrees R o')
    (hRS : R o.files o'.files → S o.files o'.files) : o.Agrees S o' :=
  ⟨h.result_eq, h.jobs_eq, hRS h.files⟩

/-- Two stages behind two that agree: the same stage, on the same files. -/
theorem Agrees.andThen_eq {β : Type} (h : o.Agrees Eq o') (next : α → FileTree → Outcome β) :
    (o.andThen next).Agrees Eq (o'.andThen next) :=
  h.andThen fun _ _ _ _ heq => heq ▸ .refl rfl

end Outcome

theorem Action.change_agrees {host : Host} {R : FileTree → FileTree → Prop} {t u : FileTree}
    (activity : Activity) {call : Call}
    (hr : (call.perform host.cwd t).1 = (call.perform host.cwd u).1)
    (hR : R (call.perform host.cwd t).2 (call.perform host.cwd u).2) :
    ((change activity call).outcome host t).Agrees R ((change activity call).outcome host u) := by
  rw [outcome_change, outcome_change, hr]
  exact ⟨rfl, rfl, hR⟩

theorem Path.IsUsable.of_join {p n : String} (hn : IsStep n) (h : IsUsable (join p n))
    (hp : p ≠ "") : IsUsable p := by
  obtain ⟨-, hz, hsize, hfits⟩ := h
  obtain ⟨s, hs⟩ := toList_join (a := p) hn
  refine ⟨hp, fun hc => hz (by simp [hs, hc]), Nat.le_trans (utf8ByteSize_le_join hn) hsize,
    fun m hm => hfits m ?_⟩
  simp [(ends_join (q := p) hn).steps_eq, hm]

namespace Checkout

variable {host : Host} {config : Config} {project : ProjectId} {policy : ArchivePolicy}
  {raw workspace : String} {options : Options} {t u : FileTree}

/-! ## What an earlier checkout leaves -/

/-- Nothing is at the path, or a directory that can be removed. -/
def IsRemovable (host : Host) (p : String) (t : FileTree) : Prop :=
  t.get? (host.cwd.along p) = none ∨
    t.get? (host.cwd.along p) = some .directory ∧ (t.removeTree host.cwd p).1 = .ok ()

/-- Two trees without links that are the same but for an earlier checkout and an earlier staging
directory. -/
structure DifferInLeftovers (host : Host) (project : ProjectId) (workspace : String)
    (t u : FileTree) : Prop where
  left : t.SymlinkFree
  right : u.SymlinkFree
  get?_eq : ∀ k, ¬ host.cwd.along (place workspace project) <+: k →
    ¬ host.cwd.along (staging workspace project) <+: k → t.get? k = u.get? k
  dest_left : IsRemovable host (place workspace project) t
  dest_right : IsRemovable host (place workspace project) u
  staging_left : IsRemovable host (staging workspace project) t
  staging_right : IsRemovable host (staging workspace project) u

/-- The downloader ends in the same way, and leaves the same files, whatever is in the staging
directory. -/
def IgnoresStaging (host : Host) (config : Config) (project : ProjectId) (workspace : String) :
    Prop :=
  ∀ t u, Alike (host.cwd.along (staging workspace project)) t u →
    (host.launch (Archive.downloadJob config project host.cwd) t).outcome =
      (host.launch (Archive.downloadJob config project host.cwd) u).outcome ∧
    Alike (host.cwd.along (staging workspace project))
      (host.launch (Archive.downloadJob config project host.cwd) t).files
      (host.launch (Archive.downloadJob config project host.cwd) u).files

/-- What can be removed is a directory for the system, too. -/
theorem IsRemovable.none_or_isDirectory {p q n : String} (h : IsRemovable host p t)
    (hp : Path.Ends p q n) (hup : ".." ∉ Path.steps p) (ht : t.SymlinkFree) :
    t.get? (host.cwd.along p) = none ∨ t.isDirectory host.cwd p := by
  refine h.imp_right fun ⟨_, hr⟩ => Classical.byContradiction fun hd => ?_
  obtain ⟨fault, hfail⟩ := removeTree_of_not_isDirectory ht hp hup hd
  rw [hfail] at hr
  cases hr

theorem IsRemovable.get?_eq_none_of_not_isUsable {p q n : String} (h : IsRemovable host p t)
    (hp : Path.Ends p q n) (hup : ".." ∉ Path.steps p) (ht : t.SymlinkFree)
    (husable : ¬ Path.IsUsable p) : t.get? (host.cwd.along p) = none :=
  (h.none_or_isDirectory hp hup ht).resolve_right fun hd =>
    husable ((isDirectory_iff ht hup).mp hd).1

/-- A path is cleared: what is there goes away, and nothing was started. -/
theorem clear_eq {p q n : String} (activity : Activity) (hp : Path.Ends p q n)
    (hup : ".." ∉ Path.steps p) (ht : t.SymlinkFree)
    (h : t.get? (host.cwd.along p) = none ∨ t.isDirectory host.cwd p) :
    ∃ history, (if t.exists? host.cwd p then (change activity (.removeTree p)).outcome host t
        else .value () t) = ⟨.ok (), t.prune (host.cwd.along p), history⟩ ∧
      history.filterMap (·.job?) = [] := by
  have hne : host.cwd.along p ≠ [] := by simp [Location.along_ends hp]
  rcases h with h | h
  · rw [if_neg (by simp [exists?_eq_false_of_get? ht hup h]), prune_of_get?_eq_none h]
    exact ⟨[], rfl, rfl⟩
  · have hx : t.exists? host.cwd p := by
      obtain ⟨husable, hd⟩ := (isDirectory_iff ht hup).mp h
      exact (exists?_iff ht hup).mpr ⟨husable, _, hd, fun _ => rfl⟩
    have hr : Call.perform host.cwd (.removeTree p) t = (.ok (), t.prune (host.cwd.along p)) :=
      removeTree_of_isDirectory ht hp hup h
    rw [if_pos hx, outcome_change, hr]
    exact ⟨_, rfl, rfl⟩

namespace DifferInLeftovers

/-- There is a workspace for both or for none. -/
theorem isDirectory_workspace_eq (h : DifferInLeftovers host project workspace t u)
    (hw : ".." ∉ Path.steps workspace) :
    t.isDirectory host.cwd workspace = u.isDirectory host.cwd workspace := by
  have hout (n : String) (k : Location) (hk : k <+: host.cwd.along workspace) :
      ¬ host.cwd.along workspace ++ [n] <+: k := fun hc => by
    have := (hc.trans hk).length_le
    rw [List.length_append, List.length_singleton] at this
    omega
  rw [FileTree.isDirectory, FileTree.isDirectory, find_congr h.left hw fun k hk => ?_]
  refine h.get?_eq k ?_ ?_
  · rw [along_dest]
    exact hout _ k hk
  · rw [along_staging]
    exact hout _ k hk

/-- What an earlier checkout left is in a workspace. -/
theorem get?_eq_none_of_not_isDirectory {n : String} (hn : IsName n) (ht : t.SymlinkFree)
    (hw : ".." ∉ Path.steps workspace) (hne : workspace ≠ "")
    (hr : IsRemovable host (Path.join workspace n) t)
    (hd : ¬ t.isDirectory host.cwd workspace) (k : Location)
    (hk : host.cwd.along (Path.join workspace n) <+: k) : t.get? k = none := by
  have hup := (Path.ends_join (q := workspace) hn.isStep).up_not_mem_steps hw hn.2.2.1
  have hnone : t.get? (host.cwd.along (Path.join workspace n)) = none := by
    refine (hr.none_or_isDirectory (Path.ends_join hn.isStep) hup ht).resolve_right fun hc => hd ?_
    obtain ⟨husable, he⟩ := (isDirectory_iff ht hup).mp hc
    rw [Location.along_join_step hn.isStep] at he
    exact (isDirectory_iff ht hw).mpr
      ⟨husable.of_join hn.isStep hne, get?_of_append he (by simp)⟩
  exact get?_eq_none_of_isPrefix hnone hk

/-- Without a workspace there is nothing to differ in. -/
theorem eq_of_not_isDirectory (h : DifferInLeftovers host project workspace t u)
    (hw : ".." ∉ Path.steps workspace) (hne : workspace ≠ "")
    (hd : ¬ t.isDirectory host.cwd workspace) : t = u := by
  have hd' : ¬ u.isDirectory host.cwd workspace := h.isDirectory_workspace_eq hw ▸ hd
  refine ext_get? fun k => ?_
  by_cases hdest : host.cwd.along (place workspace project) <+: k
  · rw [get?_eq_none_of_not_isDirectory project.isName_dirName h.left hw hne h.dest_left hd k hdest,
      get?_eq_none_of_not_isDirectory project.isName_dirName h.right hw hne h.dest_right hd' k hdest]
  by_cases hstaging : host.cwd.along (staging workspace project) <+: k
  · rw [get?_eq_none_of_not_isDirectory project.isName_stagingName h.left hw hne h.staging_left hd k
        hstaging,
      get?_eq_none_of_not_isDirectory project.isName_stagingName h.right hw hne h.staging_right hd' k
        hstaging]
  exact h.get?_eq k hdest hstaging

end DifferInLeftovers

/-! ## Stage by stage -/

/-- Once the earlier checkouts are gone, the trees differ in the staging directory alone. If its path
is not one that the system takes, nothing is there, and the trees are the same. -/
theorem removeStale_agrees (hw : ".." ∉ Path.steps workspace)
    (h : DifferInLeftovers host project workspace t u) :
    ((removeStale (place workspace project)).outcome host t).Agrees
      (fun v w => Alike (host.cwd.along (staging workspace project)) v w ∧
        (Path.IsUsable (staging workspace project) ∨ v = w))
      ((removeStale (place workspace project)).outcome host u) := by
  have hupd := dest_up project hw
  have hups := staging_up project hw
  have hne : host.cwd.along (place workspace project) ≠ [] := by simp [along_dest]
  obtain ⟨before, ho, hjobs⟩ := clear_eq (.removingStale (place workspace project)) ends_dest hupd
    h.left (h.dest_left.none_or_isDirectory ends_dest hupd h.left)
  obtain ⟨before', ho', hjobs'⟩ := clear_eq (.removingStale (place workspace project)) ends_dest hupd
    h.right (h.dest_right.none_or_isDirectory ends_dest hupd h.right)
  rw [outcome_removeStale, outcome_removeStale, ho, ho']
  have hout (k : Location) (hk : ¬ host.cwd.along (staging workspace project) <+: k) :
      (t.prune (host.cwd.along (place workspace project))).get? k =
        (u.prune (host.cwd.along (place workspace project))).get? k := by
    rw [get?_prune hne, get?_prune hne]
    split
    · rfl
    · rename_i hdest
      exact h.get?_eq k hdest hk
  have hkept (s : FileTree) (h : IsRemovable host (staging workspace project) s) :
      (s.prune (host.cwd.along (place workspace project))).get?
          (host.cwd.along (staging workspace project)) = none ∨
        (s.prune (host.cwd.along (place workspace project))).get?
          (host.cwd.along (staging workspace project)) = some .directory := by
    rw [get?_prune hne, if_neg not_dest_prefix_staging]
    exact h.imp_right And.left
  have halike : Alike (host.cwd.along (staging workspace project))
      (t.prune (host.cwd.along (place workspace project)))
      (u.prune (host.cwd.along (place workspace project))) :=
    ⟨h.left.prune hne, h.right.prune hne,
      .inr ⟨hout, hkept t h.staging_left, hkept u h.staging_right⟩⟩
  refine ⟨rfl, hjobs.trans hjobs'.symm, halike, ?_⟩
  by_cases husable : Path.IsUsable (staging workspace project)
  · exact .inl husable
  refine .inr (ext_get? fun k => ?_)
  by_cases hk : host.cwd.along (staging workspace project) <+: k
  · have hgone (s : FileTree) (hs : s.SymlinkFree)
        (h : IsRemovable host (staging workspace project) s) :
        (s.prune (host.cwd.along (place workspace project))).get? k = none := by
      rw [get?_prune hne, get?_eq_none_of_isPrefix
        (h.get?_eq_none_of_not_isUsable ends_staging hups hs husable) hk, ite_self]
    rw [hgone t h.left h.staging_left, hgone u h.right h.staging_right]
  · exact hout k hk

section Fetching

variable (hp : Paths host config project workspace)

include hp

theorem not_staging_prefix_archiveDir : ¬ host.cwd.along (staging workspace project) <+:
    host.cwd.along config.archiveDir := fun h =>
  hp.outside_staging (h.trans (by
    rw [(archive_locations hp).1]
    exact List.prefix_append _ _))

theorem not_staging_prefix_partialPlace : ¬ host.cwd.along (staging workspace project) <+:
    host.cwd.along (Archive.partialPlace host.cwd config.archiveDir project) := by
  rw [(archive_locations hp).2, List.prefix_concat_iff, not_or]
  refine ⟨fun heq => ?_, not_staging_prefix_archiveDir hp⟩
  rw [along_staging] at heq
  exact project.stagingName_ne_partialName project
    (List.append_singleton_inj.mp heq).2

variable (hne : host.cwd.along workspace ≠
    host.cwd.along (Archive.place host.cwd config.archiveDir project))
  (hpart : ¬ host.cwd.along (Archive.partialPlace host.cwd config.archiveDir project) <+:
    host.cwd.along workspace)
  (hi : IgnoresStaging host config project workspace)
  (h : Alike (host.cwd.along (staging workspace project)) t u)

include hne hpart h in
theorem rename_download_alike :
    EndAlike (host.cwd.along (staging workspace project))
      (t.rename host.cwd (Archive.partialPlace host.cwd config.archiveDir project)
        (Archive.place host.cwd config.archiveDir project))
      (u.rename host.cwd (Archive.partialPlace host.cwd config.archiveDir project)
        (Archive.place host.cwd config.archiveDir project)) := by
  refine rename_alike h (partialPlace_up hp) (archivePlace_up hp)
    (not_staging_prefix_partialPlace hp) hp.outside_staging (fun hc => ?_) fun m heq => ?_
  · rw [along_staging, List.prefix_concat_iff] at hc
    rcases hc with heq | hc
    · exact not_staging_prefix_partialPlace hp (by simp [along_staging, heq])
    · exact hpart hc
  · rw [along_staging] at heq
    exact hne (List.append_singleton_inj.mp heq).1

include hne hpart hi h in
/-- The download, next to two staging directories. -/
theorem downloaded_agrees :
    (Archive.downloaded config project host t).Agrees
      (Alike (host.cwd.along (staging workspace project)))
      (Archive.downloaded config project host u) := by
  unfold Archive.downloaded
  obtain ⟨hended, hleft⟩ := hi t u h
  generalize host.launch (Archive.downloadJob config project host.cwd) t = run at hended hleft
  generalize host.launch (Archive.downloadJob config project host.cwd) u = run' at hended hleft
  simp only [hended]
  cases config.downloader.verdict "download" run'.outcome with
  | error f =>
    have hend := removeFile_alike hleft (partialPlace_up hp) (not_staging_prefix_partialPlace hp)
    simp only [Call.perform_removeFile]
    generalize run.files.removeFile _ _ = r at hend ⊢
    generalize run'.files.removeFile _ _ = r' at hend ⊢
    cases hend with
    | ok hvw => exact ⟨rfl, rfl, hvw⟩
    | error fault => exact ⟨rfl, rfl, hleft⟩
  | ok =>
    have hend := rename_download_alike hp hne hpart hleft
    simp only [Call.perform_rename]
    generalize run.files.rename _ _ _ = r at hend ⊢
    generalize run'.files.rename _ _ _ = r' at hend ⊢
    cases hend with
    | ok hvw => exact ⟨rfl, rfl, hvw⟩
    | error fault => exact ⟨rfl, rfl, hleft⟩

include hne hpart hi h in
/-- The fetch, next to two staging directories. -/
theorem fetch_agrees :
    ((Archive.fetch config project policy).outcome host t).Agrees
      (Alike (host.cwd.along (staging workspace project)))
      ((Archive.fetch config project policy).outcome host u) := by
  have hstarts := h.hasStart_eq (not_staging_prefix_archiveDir hp)
  by_cases hstart : t.hasStart host.cwd config.archiveDir
  swap
  · rw [Archive.outcome_fetch_of_not_hasStart _ _ _ _ hstart,
      Archive.outcome_fetch_of_not_hasStart _ _ _ _ (hstarts ▸ hstart)]
    exact ⟨rfl, rfl, h⟩
  rw [Archive.outcome_fetch _ _ _ _ hp.isName_cwd hstart,
    Archive.outcome_fetch _ _ _ _ hp.isName_cwd (hstarts ▸ hstart),
    h.isFile_eq (archivePlace_up hp) hp.outside_staging]
  split
  · exact ⟨rfl, rfl, h⟩
  have hdir : ¬ host.cwd.along (staging workspace project) <+:
      host.cwd.along (Archive.dir host.cwd config.archiveDir) := by
    rw [Archive.along_dir hp.isName_cwd]
    exact not_staging_prefix_archiveDir hp
  have hcreate := createDirs_alike h (dir_up hp) hdir
  have hmade : ((change (.creatingArchiveDir (Archive.dir host.cwd config.archiveDir))
        (.createDirs (Archive.dir host.cwd config.archiveDir))).outcome host t).Agrees
      (Alike (host.cwd.along (staging workspace project)))
      ((change (.creatingArchiveDir (Archive.dir host.cwd config.archiveDir))
        (.createDirs (Archive.dir host.cwd config.archiveDir))).outcome host u) :=
    change_agrees _ hcreate.1 hcreate.2
  refine (hmade.andThen fun _ v w _ hvw => ?_).andThen fun _ v w _ hvw => ⟨rfl, rfl, hvw⟩
  exact downloaded_agrees hp hne hpart hi hvw

end Fetching

/-- A new staging directory is the same, whatever there was before. -/
theorem resetStaging_agrees (hw : ".." ∉ Path.steps workspace)
    (h : Alike (host.cwd.along (staging workspace project)) t u)
    (husable : Path.IsUsable (staging workspace project) ∨ t = u) :
    ((Archive.resetStaging (staging workspace project)).outcome host t).Agrees Eq
      ((Archive.resetStaging (staging workspace project)).outcome host u) := by
  rcases h.eq_or with rfl | hd
  · exact .refl rfl
  rcases husable with husable | rfl
  swap
  · exact .refl rfl
  have hup := staging_up project hw
  have hne : host.cwd.along (staging workspace project) ≠ [] := by simp [along_staging]
  have hsplit (s : FileTree) :
      (Archive.resetStaging (staging workspace project)).outcome host s =
        (if s.exists? host.cwd (staging workspace project) then
          (change (.clearingStaging (staging workspace project))
            (.removeTree (staging workspace project))).outcome host s
        else .value () s).andThen fun _ v =>
          (change (.creatingStaging (staging workspace project))
            (.createDirs (staging workspace project))).outcome host v := by
    rw [Archive.outcome_resetStaging]
    split
    · rfl
    · rw [Outcome.value_andThen]
  obtain ⟨before, ho, hjobs⟩ := clear_eq (.clearingStaging (staging workspace project)) ends_staging
    hup h.left (hd.left.imp_right fun he => (isDirectory_iff h.left hup).mpr ⟨husable, he⟩)
  obtain ⟨before', ho', hjobs'⟩ := clear_eq (.clearingStaging (staging workspace project))
    ends_staging hup h.right
    (hd.right.imp_right fun he => (isDirectory_iff h.right hup).mpr ⟨husable, he⟩)
  rw [hsplit, hsplit, ho, ho']
  have hcleared : (⟨.ok (), t.prune (host.cwd.along (staging workspace project)), before⟩ :
      Outcome Unit).Agrees Eq
        ⟨.ok (), u.prune (host.cwd.along (staging workspace project)), before'⟩ := by
    refine ⟨rfl, hjobs.trans hjobs'.symm, ext_get? fun k => ?_⟩
    rw [get?_prune hne, get?_prune hne]
    split
    · rfl
    · rename_i hk
      exact hd.get?_eq k hk
  exact hcleared.andThen_eq _

/-- From the reset on there is one run. -/
theorem unpackInto_agrees (config : Config) (policy : ArchivePolicy) (archive : String)
    (hw : ".." ∉ Path.steps workspace)
    (h : Alike (host.cwd.along (staging workspace project)) t u)
    (husable : Path.IsUsable (staging workspace project) ∨ t = u) :
    ((unpackInto config project policy archive (staging workspace project)
      (place workspace project)).outcome host t).Agrees Eq
    ((unpackInto config project policy archive (staging workspace project)
      (place workspace project)).outcome host u) := by
  have hplace : ((putInPlace config project archive (staging workspace project)
        (place workspace project)).outcome host t).Agrees Eq
      ((putInPlace config project archive (staging workspace project)
        (place workspace project)).outcome host u) := by
    rw [outcome_putInPlace, outcome_putInPlace, Archive.outcome_extract, Archive.outcome_extract]
    exact ((resetStaging_agrees hw h husable).andThen_eq _).andThen_eq _
  rw [outcome_unpackInto, outcome_unpackInto]
  generalize (putInPlace config project archive (staging workspace project)
    (place workspace project)).outcome host t = o at hplace
  generalize (putInPlace config project archive (staging workspace project)
    (place workspace project)).outcome host u = o' at hplace
  obtain ⟨r, v, before⟩ := o
  obtain ⟨r', v', before'⟩ := o'
  obtain rfl : r = r' := hplace.result_eq
  obtain rfl : v = v' := hplace.files
  have hjobs : before.filterMap (·.job?) = before'.filterMap (·.job?) := hplace.jobs_eq
  cases r with
  | ok => exact ⟨rfl, by simp [Outcome.jobs, hjobs], rfl⟩
  | error f => exact ⟨rfl, by simp [Outcome.jobs, hjobs], rfl⟩

/-! ## The whole checkout -/

/-- Two checkouts on trees that differ in what earlier ones left end with one result and start the
same jobs. Where the fetch succeeds they leave the same files, and else the same files but for the
staging directory. Without a workspace nothing is touched. -/
theorem checkout_agrees (options : Options) (hparse : ProjectId.parse? raw = some project)
    (hp : Paths host config project workspace)
    (hne : host.cwd.along workspace ≠
      host.cwd.along (Archive.place host.cwd config.archiveDir project))
    (hpart : ¬ host.cwd.along (Archive.partialPlace host.cwd config.archiveDir project) <+:
      host.cwd.along workspace)
    (hi : IgnoresStaging host config project workspace)
    (h : DifferInLeftovers host project workspace t u) :
    let o := (checkout config raw workspace options).outcome host t
    let o' := (checkout config raw workspace options).outcome host u
    o.result = o'.result ∧ o.jobs = o'.jobs ∧
    (workspace ≠ "" →
      (∀ k, ¬ host.cwd.along (staging workspace project) <+: k →
        o.files.get? k = o'.files.get? k) ∧
      ((t.isDirectory host.cwd workspace → ∃ archive,
          (fetching config project workspace options.archive host t).result = .ok archive) →
        o.files = o'.files)) := by
  have hw := hp.workspace_up
  have hdir := h.isDirectory_workspace_eq hw
  by_cases hd : t.isDirectory host.cwd workspace
  swap
  · rw [outcome_checkout, outcome_checkout, hparse]
    simp only
    rw [if_neg hd, if_neg (hdir ▸ hd)]
    refine ⟨rfl, rfl, fun hempty => ?_⟩
    obtain rfl := h.eq_of_not_isDirectory hw hempty hd
    exact ⟨fun _ _ => rfl, fun _ => rfl⟩
  rw [outcome_checkout_of_isDirectory hparse hd, outcome_checkout_of_isDirectory hparse (hdir ▸ hd)]
  have hfetching : (fetching config project workspace options.archive host t).Agrees
      (fun v w => Alike (host.cwd.along (staging workspace project)) v w ∧
        (Path.IsUsable (staging workspace project) ∨ v = w))
      (fetching config project workspace options.archive host u) := by
    refine (removeStale_agrees hw h).andThen fun _ v w _ ⟨hvw, hor⟩ => ?_
    have hfetch : ((Archive.fetch config project options.archive).outcome host v).Agrees
        (Alike (host.cwd.along (staging workspace project)))
        ((Archive.fetch config project options.archive).outcome host w) :=
      fetch_agrees hp hne hpart hi hvw
    rcases hor with husable | rfl
    · exact hfetch.mono fun hleft => ⟨hleft, .inl husable⟩
    · exact ⟨rfl, rfl, hfetch.files, .inr rfl⟩
  generalize fetching config project workspace options.archive host t = o at hfetching ⊢
  generalize fetching config project workspace options.archive host u = o' at hfetching
  obtain ⟨r, v, before⟩ := o
  obtain ⟨r', v', before'⟩ := o'
  obtain rfl : r = r' := hfetching.result_eq
  obtain ⟨hvw, husable⟩ := hfetching.files
  cases r with
  | error f =>
    refine ⟨rfl, hfetching.jobs_eq, fun _ => ⟨fun k hk => hvw.get?_eq hk, fun hok => ?_⟩⟩
    obtain ⟨archive, hok⟩ := hok hd
    cases hok
  | ok archive =>
    have hrest := (unpackInto_agrees config options.archive archive hw hvw husable).andThen_eq
      fun _ w =>
        if options.build then
          ((buildInto config project (place workspace project)).outcome host w).andThen
            fun _ x => .value (place workspace project) x
        else .value (place workspace project) w
    have hjobs : before.filterMap (·.job?) = before'.filterMap (·.job?) := hfetching.jobs_eq
    have hafter := hrest.jobs_eq
    rw [Outcome.jobs, Outcome.jobs] at hafter
    rw [Outcome.ok_andThen, Outcome.ok_andThen]
    dsimp only
    refine ⟨hrest.result_eq, ?_, fun _ => ⟨fun k _ => ?_, fun _ => hrest.files⟩⟩
    · rw [Outcome.jobs, Outcome.jobs, List.filterMap_append, List.filterMap_append, hjobs, hafter]
    · rw [hrest.files]

/-- The small tree with an earlier checkout and an earlier staging directory. -/
def staleTree : FileTree :=
  ((smallTree.put ["w"] "Lang_10" .directory).put ["w", "Lang_10"] "old"
    (.file "o".toUTF8 false none)).put ["w"] ".Lang_10.extract" .directory

theorem differInLeftovers_stale (status : ExitStatus) :
    DifferInLeftovers (smallHost status) lang10 "w" smallTree staleTree where
  left := symlinkFree_smallTree
  right := ((symlinkFree_smallTree.put (by simp)).put (by simp)).put (by simp)
  get?_eq := by
    rw [along_staging_small, show (smallHost status).cwd.along (place "w" lang10) = ["w", "Lang_10"]
      from (by decide +kernel : Location.along [] (place "w" lang10) = ["w", "Lang_10"])]
    intro k hdest hstaging
    have hne {l : Location} {n : String} (h : ¬ l ++ [n] <+: k) : k ≠ l ++ [n] :=
      fun hk => h (hk ▸ List.prefix_refl _)
    rw [staleTree, get?_put_of_ne _ (hne (l := ["w"]) hstaging),
      get?_put_of_ne _ (hne fun hk => hdest ((List.prefix_append ["w", "Lang_10"] ["old"]).trans hk)),
      get?_put_of_ne _ (hne (l := ["w"]) hdest)]
  dest_left := .inl (by
    show smallTree.get? (Location.along [] (place "w" lang10)) = none
    decide +kernel)
  dest_right := .inr (by
    show staleTree.get? (Location.along [] (place "w" lang10)) = some .directory ∧
      (staleTree.removeTree [] (place "w" lang10)).1 = .ok ()
    decide +kernel)
  staging_left := .inl (by
    show smallTree.get? (Location.along [] (staging "w" lang10)) = none
    decide +kernel)
  staging_right := .inr (by
    show staleTree.get? (Location.along [] (staging "w" lang10)) = some .directory ∧
      (staleTree.removeTree [] (staging "w" lang10)).1 = .ok ()
    decide +kernel)

theorem small_checkout_agrees_with_stale :
    let o := (checkout smallConfig "Lang_10" "w" ⟨false, .cached⟩).outcome (smallHost (.exited 0))
      smallTree
    let o' := (checkout smallConfig "Lang_10" "w" ⟨false, .cached⟩).outcome (smallHost (.exited 0))
      staleTree
    o.result = .ok "w/Lang_10" ∧ o.result = o'.result ∧ o.jobs = o'.jobs ∧ o.files = o'.files := by
  obtain ⟨hresult, hjobs, hfiles⟩ := checkout_agrees ⟨false, .cached⟩ parse?_lang10
    (paths_small _)
    (by
      show ¬ Location.along [] "w" = Location.along [] (Archive.place [] "." lang10)
      decide +kernel)
    (by
      show ¬ Location.along [] (Archive.partialPlace [] "." lang10) <+: Location.along [] "w"
      decide +kernel)
    (fun t u h => by rw [launch_download_small, launch_download_small]; exact ⟨rfl, h⟩)
    (differInLeftovers_stale (.exited 0))
  exact ⟨by decide +kernel, hresult, hjobs,
    (hfiles (by decide)).2 fun _ => ⟨"/Lang-10.tar.gz", by decide +kernel⟩⟩

/-! ## What the workspace must not be -/

theorem ignoresStaging_idle : IgnoresStaging idleHost config project workspace :=
  fun _ _ h => ⟨rfl, h⟩

/-- Empty directories at the path of the archive and at the path of its download. -/
def heldTree : FileTree :=
  (FileTree.empty.put [] "Lang-10.tar.gz" .directory).put [] "Lang-10.tar.gz.part" .directory

theorem symlinkFree_heldTree : heldTree.SymlinkFree :=
  (symlinkFree_empty.put (by simp)).put (by simp)

/-- A new, empty directory at the place of one leftover. -/
theorem differInLeftovers_put (workspace : String) {n : String}
    (hn : n = project.dirName ∨ n = project.stagingName)
    (ht : t.SymlinkFree)
    (hdest : t.get? (host.cwd.along (place workspace project)) = none)
    (hstaging : t.get? (host.cwd.along (staging workspace project)) = none)
    (hput : let u := t.put (host.cwd.along workspace) n .directory
      u.get? (host.cwd.along (Path.join workspace n)) = some .directory ∧
        (u.removeTree host.cwd (Path.join workspace n)).1 = .ok ()) :
    DifferInLeftovers host project workspace t
      (t.put (host.cwd.along workspace) n .directory) := by
  have hother {m : String} (hm : IsName m) (hne : m ≠ n)
      (h : t.get? (host.cwd.along (Path.join workspace m)) = none) :
      IsRemovable host (Path.join workspace m) (t.put (host.cwd.along workspace) n .directory) := by
    refine .inl ?_
    rw [Location.along_join_step hm.isStep] at h ⊢
    rwa [get?_put_of_ne _ (by simpa using hne)]
  have hnames := project.dirName_ne_stagingName project
  have hout (k : Location) (hd : ¬ host.cwd.along (place workspace project) <+: k)
      (hs : ¬ host.cwd.along (staging workspace project) <+: k) :
      k ≠ host.cwd.along workspace ++ [n] := by
    rintro rfl
    rcases hn with rfl | rfl
    · exact hd (by simp [along_dest])
    · exact hs (by simp [along_staging])
  refine ⟨ht, ht.put (by simp), fun k hd hs => (get?_put_of_ne _ (hout k hd hs)).symm, .inl hdest,
    ?_, .inl hstaging, ?_⟩
  · rcases hn with rfl | rfl
    · exact .inr hput
    · exact hother project.isName_dirName hnames hdest
  · rcases hn with rfl | rfl
    · exact hother project.isName_stagingName hnames.symm hstaging
    · exact .inr hput

/-- A workspace at the archive's path has to be empty for the download to be moved there. -/
theorem agreement_needs_workspace_off_archive :
    ¬ ∀ (host : Host) (config : Config) (project : ProjectId) (raw workspace : String)
        (options : Options) (t u : FileTree),
      ProjectId.parse? raw = some project → Paths host config project workspace →
      ¬ host.cwd.along (Archive.partialPlace host.cwd config.archiveDir project) <+:
        host.cwd.along workspace →
      IgnoresStaging host config project workspace →
      DifferInLeftovers host project workspace t u →
      ((checkout config raw workspace options).outcome host t).result =
        ((checkout config raw workspace options).outcome host u).result := by
  intro h
  have heq := h idleHost smallConfig lang10 "Lang_10" "Lang-10.tar.gz" ⟨false, .cached⟩ heldTree
    (heldTree.put ["Lang-10.tar.gz"] ".Lang_10.extract" .directory) parse?_lang10
    ⟨nofun, by decide +kernel, by decide +kernel, by decide +kernel, by decide +kernel⟩
    (by decide +kernel) ignoresStaging_idle
    (differInLeftovers_put "Lang-10.tar.gz" (.inr (by decide +kernel))
      symlinkFree_heldTree (by decide +kernel) (by decide +kernel) (by decide +kernel))
  revert heq
  decide +kernel

end Checkout

end BenchCheckout
