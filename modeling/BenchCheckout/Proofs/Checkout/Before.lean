import BenchCheckout.Proofs.Checkout.Setting

/-!
# Before the unpacking

What removing a stale checkout and fetching the archive leave, in trees without links.

* `removeStale_ok`: nothing is at the checkout's place, and all else is as it was.
* `fetch_ok`: an archive is at its place, and all else is as it was but for the place of the
  download and directories above the archive.
-/

namespace BenchCheckout

open BenchCheckout.Action

namespace Checkout

variable {host : Host} {config : Config} {project : ProjectId} {workspace : String}
  {t u : FileTree} {history : List Event}

/-! ## Removing a stale checkout -/

/-- Nothing is at the checkout's place any more, as far as the path can be looked up. -/
theorem removeStale_ok (hw : ".." ∉ Path.steps workspace) (ht : t.SymlinkFree)
    (h : (removeStale (place workspace project)).outcome host t = ⟨.ok (), u, history⟩) :
    u.SymlinkFree ∧
    (∀ k, ¬ host.cwd.along (place workspace project) <+: k → u.get? k = t.get? k) ∧
    (Path.IsUsable (place workspace project) →
      ∀ k, host.cwd.along (place workspace project) <+: k → u.get? k = none) ∧
    history.filterMap (·.job?) = [] ∧
    ∀ c ∈ history.filterMap (·.call?), c = .removeTree (place workspace project) := by
  have hup := dest_up project hw
  have hne : host.cwd.along (place workspace project) ≠ [] := by simp [along_dest]
  rw [outcome_removeStale] at h
  split at h
  · rw [outcome_change] at h
    have hp : Call.perform host.cwd (.removeTree (place workspace project)) t =
      t.removeTree host.cwd (place workspace project) := rfl
    rw [hp] at h
    by_cases hd : t.isDirectory host.cwd (place workspace project)
    · rw [FileTree.removeTree_of_isDirectory ht ends_dest hup hd] at h
      obtain ⟨-, rfl, rfl⟩ := Outcome.mk.inj h
      refine ⟨ht.prune hne, fun k hk => ?_, fun _ k hk => ?_, by simp [Event.job?],
        by simp [Event.call?]⟩
      · rw [FileTree.get?_prune hne, if_neg hk]
      · rw [FileTree.get?_prune hne, if_pos hk]
    · obtain ⟨fault, hr⟩ := FileTree.removeTree_of_not_isDirectory ht ends_dest hup hd
      rw [hr] at h
      cases (Outcome.mk.inj h).1
  · rename_i hx
    obtain ⟨-, rfl, rfl⟩ := Outcome.mk.inj h
    refine ⟨ht, fun _ _ => rfl, fun hu k hk => ?_, rfl, by simp⟩
    have hx : t.exists? host.cwd (place workspace project) = false := by simpa using hx
    exact FileTree.get?_eq_none_of_isPrefix
      (FileTree.get?_join_eq_none ht hw project.isName_dirName hu hx) hk

/-! ## Fetching the archive -/

section Fetching

variable {policy : ArchivePolicy} {archive : String}

/-- Where an archive is, and where it is while it is being downloaded. -/
theorem archive_locations (hp : Paths host config project workspace) :
    host.cwd.along (Archive.place host.cwd config.archiveDir project) =
      host.cwd.along config.archiveDir ++ [project.archiveName] ∧
    host.cwd.along (Archive.partialPlace host.cwd config.archiveDir project) =
      host.cwd.along config.archiveDir ++ [project.partialName] :=
  ⟨Archive.along_place hp.isName_cwd, Archive.along_partialPlace hp.isName_cwd⟩

/-- What is in place after a fetch that succeeds: the tree as it was, where the archive was there;
or else what a move from the place of the download left. -/
def FetchedFrom (t u : FileTree) (home part archive : Location) : Prop :=
  (u = t ∧ ∃ e, t.get? archive = some e ∧ e ≠ .directory) ∨
  ∃ v e, v.SymlinkFree ∧
    (∀ k, ¬ part <+: k → v.get? k = t.get? k ∨
      k <+: home ∧ t.get? k = none ∧ v.get? k = some .directory) ∧
    v.get? part = some e ∧ (∀ k, k ≠ [] → v.get? (archive ++ k) = none) ∧
    ((u = v ∧ e ≠ .directory ∧ ∃ d, v.get? archive = some d) ∨
      ∀ k, u.get? k = if archive <+: k then v.get? (part ++ k.drop archive.length)
        else if part <+: k then none else v.get? k)

/-- An archive that was fetched is not above a directory that was there before. -/
theorem FetchedFrom.not_prefix {home part archive l : Location}
    (h : FetchedFrom t u home part archive) (hpart : ¬ part <+: archive) (hpart' : ¬ archive <+: part)
    (hl : t.get? l = some .directory) (hne : l ≠ archive) : ¬ archive <+: l := by
  rintro ⟨j, rfl⟩
  have hj : j ≠ [] := fun h => hne (by simp [h])
  rcases h with ⟨-, e, he, hdir⟩ | ⟨v, -, -, hframe, -, hempty, -⟩
  · exact hdir (Option.some.inj (he.symm.trans (FileTree.get?_of_append hl hj)))
  · have hout : ¬ part <+: archive ++ j := fun hc =>
      (List.prefix_or_prefix_of_prefix hc (List.prefix_append _ _)).elim hpart hpart'
    have hv := hframe _ hout
    rw [hempty j hj, hl] at hv
    rcases hv with hv | ⟨-, hv, -⟩ <;> cases hv

/-- What is in a directory that was there before stays as it was, or goes away with the place of the
download. -/
theorem FetchedFrom.get?_eq_or_none {home l : Location} {n m x : String}
    (h : FetchedFrom t u home (home ++ [m]) (home ++ [n])) (hnm : n ≠ m) (hxm : x ≠ m)
    (hl : t.get? l = some .directory) (hne : l ≠ home ++ [n])
    (hout : ¬ l ++ [x] <+: home ++ [n]) :
    u.get? (l ++ [x]) = t.get? (l ++ [x]) ∨ u.get? (l ++ [x]) = none := by
  have hhome : ¬ l ++ [x] <+: home := fun hc => hout (hc.trans (List.prefix_append _ _))
  have harchive : ¬ home ++ [n] <+: l ++ [x] := by
    rw [List.prefix_concat_iff, not_or]
    refine ⟨fun heq => hout (heq ▸ List.prefix_refl _), h.not_prefix ?_ ?_ hl hne⟩
    · simpa [List.prefix_append_right_inj] using Ne.symm hnm
    · simpa [List.prefix_append_right_inj] using hnm
  rcases h with ⟨rfl, -⟩ | ⟨v, e, -, hframe, he, -, hmoved⟩
  · exact .inl rfl
  by_cases hpart : home ++ [m] <+: l ++ [x]
  · right
    rcases hmoved with ⟨rfl, hdir, -⟩ | hu
    · rcases List.prefix_concat_iff.mp hpart with heq | ⟨j, rfl⟩
      · exact absurd (List.append_singleton_inj.mp heq).2.symm hxm
      · rw [List.append_assoc]
        exact FileTree.get?_below_of_ne_directory (by simpa [he] using hdir) (by simp)
    · rw [hu, if_neg harchive, if_pos hpart]
  · left
    have hv : v.get? (l ++ [x]) = t.get? (l ++ [x]) :=
      (hframe _ hpart).resolve_right fun hc => hhome hc.1
    rcases hmoved with ⟨rfl, -⟩ | hu
    · exact hv
    · rw [hu, if_neg harchive, if_neg hpart, hv]

theorem home_up (hp : Paths host config project workspace) :
    ".." ∉ Path.steps (Archive.home host.cwd config.archiveDir) :=
  Archive.up_not_mem_steps_home hp.isName_cwd hp.archiveDir_up

theorem dir_up (hp : Paths host config project workspace) :
    ".." ∉ Path.steps (Archive.dir host.cwd config.archiveDir) :=
  Archive.up_not_mem_steps_dir hp.isName_cwd hp.archiveDir_up

theorem partialPlace_up (hp : Paths host config project workspace) :
    ".." ∉ Path.steps (Archive.partialPlace host.cwd config.archiveDir project) :=
  Archive.up_not_mem_steps_partialPlace hp.isName_cwd hp.archiveDir_up

theorem archivePlace_up (hp : Paths host config project workspace) :
    ".." ∉ Path.steps (Archive.place host.cwd config.archiveDir project) :=
  Archive.up_not_mem_steps_place hp.isName_cwd hp.archiveDir_up

theorem fetch_ok (hp : Paths host config project workspace)
    (hd : DownloadsToOutput host config project) (ht : t.SymlinkFree)
    (h : (Archive.fetch config project policy).outcome host t = ⟨.ok archive, u, history⟩) :
    archive = Archive.place host.cwd config.archiveDir project ∧ u.SymlinkFree ∧
    FetchedFrom t u (host.cwd.along config.archiveDir)
      (host.cwd.along (Archive.partialPlace host.cwd config.archiveDir project))
      (host.cwd.along (Archive.place host.cwd config.archiveDir project)) := by
  have hhome := home_up hp
  have hf := Archive.fetched config project policy host hp.isName_cwd t
  rw [h] at hf
  obtain ⟨hA, hP⟩ := archive_locations hp
  generalize ho : (⟨.ok archive, u, history⟩ : Outcome String) = o at hf
  cases hf with
  | reused hc =>
    obtain ⟨ha, rfl, -⟩ := Outcome.mk.inj ho
    obtain ⟨-, -, bytes, x, number, he⟩ := (FileTree.isFile_iff ht (archivePlace_up hp)).mp hc.2
    exact ⟨Except.ok.inj ha, ht, .inl ⟨rfl, _, he, by simp⟩⟩
  | pathless | homeless | failed => cases ho
  | @ended u₀ w run moved hu hr hs hv =>
    subst hr
    obtain ⟨ha, rfl, -⟩ := Outcome.mk.inj ho
    cases moved with
    | error fault => cases ha
    | ok =>
      have hadds := FileTree.createDirs_adds_along host.cwd ht (dir_up hp)
      rw [hu, Archive.along_dir hp.isName_cwd] at hadds
      have ht₀ := hadds.symlinkFree ht
      obtain ⟨hv₀, hrun⟩ := hd u₀ ht₀
      generalize (host.launch (Archive.downloadJob config project host.cwd) u₀).files = v at hv hv₀ hrun
      rw [Call.perform_rename] at hv
      split at hv
      · rename_i w' hw
        obtain rfl := (Prod.mk.inj hv).2
        refine ⟨Except.ok.inj ha, hv₀.rename hw, .inr ?_⟩
        obtain ⟨a, b, e, hsa, hsb, -, -, he, -, -, -, hmoved⟩ := FileTree.rename_eq_ok hw
        obtain rfl := ((FileTree.spot_iff hv₀
          (Path.ends_join project.isName_partialName.isStep) hhome).mp hsa).1
        obtain rfl := ((FileTree.spot_iff hv₀
          (Path.ends_join project.isName_archiveName.isStep) hhome).mp hsb).1
        simp only [Spot.location, Archive.along_home hp.isName_cwd, ← hA, ← hP] at he hmoved
        refine ⟨v, e, hv₀, fun k hk => ?_, he, ?_⟩
        · rw [hrun k hk]
          exact hadds k
        · rcases hmoved with ⟨hsame, rfl⟩ | ⟨-, hempty, hu⟩
          · obtain ⟨hne, d, hd, hdne⟩ := FileTree.files_of_isSameFile he hsame (by simp [hA, hP,
              Ne.symm (ProjectId.archiveName_ne_partialName project project)])
            exact ⟨fun k hk => FileTree.get?_below_of_ne_directory (by simpa [hd] using hdne) hk,
              .inl ⟨rfl, hne, d, hd⟩⟩
          · exact ⟨hempty, .inr hu⟩
      · cases (Prod.mk.inj hv).1

end Fetching

/-! ## Both together -/

/-- An earlier checkout is removed, and the archive is fetched. -/
def fetching (config : Config) (project : ProjectId) (workspace : String) (policy : ArchivePolicy)
    (host : Host) (t : FileTree) : Outcome String :=
  ((removeStale (place workspace project)).outcome host t).andThen fun _ u =>
    (Archive.fetch config project policy).outcome host u

/-- A checkout in a workspace that is there: from the fetch on, the archive is unpacked and the
checkout built. -/
theorem outcome_checkout_of_isDirectory {raw : String} {options : Options}
    (hparse : ProjectId.parse? raw = some project) (hw : t.isDirectory host.cwd workspace) :
    (checkout config raw workspace options).outcome host t =
      (fetching config project workspace options.archive host t).andThen fun archive v =>
        ((unpackInto config project options.archive archive (staging workspace project)
          (place workspace project)).outcome host v).andThen fun _ w =>
            if options.build then
              ((buildInto config project (place workspace project)).outcome host w).andThen
                fun _ x => .value (place workspace project) x
            else .value (place workspace project) w := by
  rw [outcome_checkout, hparse]
  simp only
  rw [if_pos hw, outcome_run, ← Outcome.andThen_assoc]
  rfl

end Checkout

end BenchCheckout
