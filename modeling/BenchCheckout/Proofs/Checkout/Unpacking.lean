import BenchCheckout.Proofs.Archive.Extraction

/-!
# Unpacking and moving into place

The stages behind the fetch, in trees without links.

* `resetStaging_cases`, `resetStaging_ok`: the staging directory is new and empty.
* `rootIn_eq_ok`: the project's root is the directory named after the bug, or else the only entry.
* `removeAllExcluded_spec`: what is excluded goes away with all that lies below it.
-/

namespace BenchCheckout.Checkout

open BenchCheckout.Action FileTree

variable {host : Host} {config : Config} {project : ProjectId} {workspace : String}
  {t u : FileTree} {history : List Event}

/-! ## A new staging directory -/

/-- `v` is `t` without what was in the staging directory, as far as that can be looked up. -/
structure Cleared (host : Host) (project : ProjectId) (workspace : String) (t v : FileTree) :
    Prop where
  symlinkFree : v.SymlinkFree
  get?_eq : ∀ k, ¬ host.cwd.along (staging workspace project) <+: k → v.get? k = t.get? k
  get?_eq_none : Path.IsUsable (staging workspace project) ∨
      t.get? (host.cwd.along (staging workspace project)) = none →
    ∀ k, host.cwd.along (staging workspace project) <+: k → v.get? k = none

/-- The staging directory is cleared where it is a directory, and then made. -/
theorem resetStaging_cases (host : Host) (project : ProjectId)
    (hw : ".." ∉ Path.steps workspace) (ht : t.SymlinkFree) :
    (t.exists? host.cwd (staging workspace project) ∧
      ¬ t.isDirectory host.cwd (staging workspace project) ∧
      ∃ f, (Archive.resetStaging (staging workspace project)).outcome host t = ⟨.error f, t,
        [.changed (.removeTree (staging workspace project))
          (t.removeTree host.cwd (staging workspace project)).1 t]⟩) ∨
    ∃ v before, Cleared host project workspace t v ∧ before.filterMap (·.job?) = [] ∧
      (∀ c ∈ before.filterMap (·.call?), c = .removeTree (staging workspace project)) ∧
      (Archive.resetStaging (staging workspace project)).outcome host t =
        ⟨(v.createDirs host.cwd (staging workspace project)).1.mapError fun fault =>
            .during (.creatingStaging (staging workspace project)) (.file fault),
          (v.createDirs host.cwd (staging workspace project)).2,
          before ++ [.changed (.createDirs (staging workspace project))
            (v.createDirs host.cwd (staging workspace project)).1
            (v.createDirs host.cwd (staging workspace project)).2]⟩ := by
  have hup := staging_up project hw
  have hne : host.cwd.along (staging workspace project) ≠ [] := by simp [along_staging]
  have hcreate (v : FileTree) :
      Call.perform host.cwd (.createDirs (staging workspace project)) v =
        v.createDirs host.cwd (staging workspace project) := rfl
  have hremove : Call.perform host.cwd (.removeTree (staging workspace project)) t =
      t.removeTree host.cwd (staging workspace project) := rfl
  rw [Archive.outcome_resetStaging]
  by_cases hx : t.exists? host.cwd (staging workspace project)
  · rw [if_pos hx, outcome_change, hremove]
    by_cases hd : t.isDirectory host.cwd (staging workspace project)
    · have hr := removeTree_of_isDirectory ht ends_staging hup hd
      refine .inr ⟨t.prune (host.cwd.along (staging workspace project)),
        [.changed (.removeTree (staging workspace project)) (.ok ())
          (t.prune (host.cwd.along (staging workspace project)))],
        ⟨ht.prune hne, fun k hk => by rw [get?_prune hne, if_neg hk],
          fun _ k hk => by rw [get?_prune hne, if_pos hk]⟩,
        by simp [Event.job?], by simp [Event.call?], ?_⟩
      rw [hr]
      show Outcome.andThen ⟨.ok (), _, _⟩ _ = _
      rw [Outcome.ok_andThen, outcome_change, hcreate]
    · obtain ⟨fault, hr⟩ := removeTree_of_not_isDirectory ht ends_staging hup hd
      exact .inl ⟨hx, hd, _, by rw [hr]; rfl⟩
  · refine .inr ⟨t, [], ⟨ht, fun _ _ => rfl, fun hu k hk => ?_⟩, rfl, by simp, ?_⟩
    · have hx : t.exists? host.cwd (staging workspace project) = false := by simpa using hx
      have hnone : t.get? (host.cwd.along (staging workspace project)) = none :=
        hu.elim (fun hu => get?_join_eq_none ht hw project.isName_stagingName hu hx) id
      exact get?_eq_none_of_isPrefix hnone hk
    · rw [if_neg hx, outcome_change, hcreate]
      rfl

/-- A staging directory that was made is empty, and nothing else changed but directories on the way
to it. -/
theorem resetStaging_ok (hw : ".." ∉ Path.steps workspace) (ht : t.SymlinkFree)
    (h : (Archive.resetStaging (staging workspace project)).outcome host t =
      ⟨.ok (), u, history⟩) :
    u.SymlinkFree ∧ u.isDirectory host.cwd (staging workspace project) ∧
    (∀ k, k ≠ [] → u.get? (host.cwd.along (staging workspace project) ++ k) = none) ∧
    (∀ k, ¬ host.cwd.along (staging workspace project) <+: k → u.get? k = t.get? k ∨
      k <+: host.cwd.along (staging workspace project) ∧ t.get? k = none ∧
        u.get? k = some .directory) ∧
    history.filterMap (·.job?) = [] := by
  have hup := staging_up project hw
  rcases resetStaging_cases host project hw ht with ⟨-, -, f, ho⟩ |
    ⟨v, before, hv, hjobs, -, ho⟩
  · rw [ho] at h
    cases (Outcome.mk.inj h).1
  · rw [ho] at h
    obtain ⟨hr, hu, rfl⟩ := Outcome.mk.inj h
    have hadds := createDirs_adds_along host.cwd hv.symlinkFree hup
    have hok : v.createDirs host.cwd (staging workspace project) = (.ok (), u) := by
      rcases hc : v.createDirs host.cwd (staging workspace project) with ⟨r, w⟩
      rw [hc] at hr hu
      cases r with
      | error fault => cases hr
      | ok => rw [← hu]
    rw [hu] at hadds
    have hd := isDirectory_of_createDirs hv.symlinkFree ends_staging.ne_empty hok
    have husf := hadds.symlinkFree hv.symlinkFree
    refine ⟨husf, hd, fun k hk => ?_, fun k hk => ?_, by rw [List.filterMap_append, hjobs]; rfl⟩
    · rw [hadds.get?_of_not fun hp => ?_]
      · exact hv.get?_eq_none (.inl ((isDirectory_iff husf hup).mp hd).1) _ (List.prefix_append _ _)
      · have := hp.length_le
        rw [List.length_append] at this
        have := List.length_pos_iff.mpr hk
        omega
    · rw [← hv.get?_eq k hk]
      exact hadds k

/-! ## The project's root -/

/-- The project's root in the staging directory at `l`: the directory named after the bug, or else
the only entry, if that is a directory. -/
def IsRoot (t : FileTree) (l : Location) (project : ProjectId) (n : String) : Prop :=
  t.get? (l ++ [n]) = some .directory ∧
    (t.get? (l ++ [project.bugId]) = some .directory ∧ n = project.bugId ∨
      t.get? (l ++ [project.bugId]) ≠ some .directory ∧ t.names l = [n])

theorem rootIn_eq_ok {archive root : String} (hw : ".." ∉ Path.steps workspace)
    (ht : t.SymlinkFree)
    (h : Archive.rootIn project archive (staging workspace project) t host.cwd = .ok root) :
    ∃ n, IsName n ∧ root = Path.join (staging workspace project) n ∧
      IsRoot t (host.cwd.along (staging workspace project)) project n := by
  have hreach : host.cwd.reach (staging workspace project) =
      host.cwd.along (staging workspace project) := Location.reach_of_not_mem (staging_up project hw)
  have hdir {n : String} (hn : IsName n)
      (hd : t.isDirectory host.cwd (Path.join (staging workspace project) n)) :
      t.get? (host.cwd.along (staging workspace project) ++ [n]) = some .directory := by
    rw [isDirectory_join_iff ht ends_staging.ne_empty hn.isStep hn.2.2.1, hreach] at hd
    exact hd.2.1
  have hbug := project.isName_bugId
  have hempty : staging workspace project ≠ "" := ends_staging.ne_empty
  rcases Archive.rootIn_cases project archive host.cwd t hempty with
    ⟨-, fault, hr⟩ | ⟨-, n, ⟨hd, hcase⟩, hr⟩ | ⟨-, -, hr⟩ <;> rw [hr] at h
  · cases h
  · cases h
    rcases hcase with rfl | ⟨hno, l, hl, honly⟩
    · exact ⟨_, hbug, rfl, hdir hbug hd, .inl ⟨hdir hbug hd, rfl⟩⟩
    · obtain rfl : l = host.cwd.along (staging workspace project) :=
        hreach ▸ resolve_reach ht (find_eq_ok.mp hl).1
      obtain ⟨e, he⟩ := Option.isSome_iff_exists.mp ((honly n).mpr rfl)
      have hn : IsName n := isName_of_get? he (by simp)
      have hnames : t.names (host.cwd.along (staging workspace project)) = [n] := by
        rw [Archive.eq_singleton_iff_of_nodup (t.nodup_names _)]
        simpa only [mem_names] using honly
      refine ⟨n, hn, rfl, hdir hn hd, .inr ⟨fun hb => hno ?_, hnames⟩⟩
      -- A directory named after the bug would be the only entry.
      rwa [(honly project.bugId).mp (by simp [hb])]
  · cases h

/-- An extraction that succeeds: one job in a new staging directory, and the choice of the root. -/
theorem extract_ok {root : String} (hp : Paths host config project workspace)
    (he : ExtractsToStaging host config project workspace) (ht : t.SymlinkFree)
    (h : (Archive.extract config project (Archive.place host.cwd config.archiveDir project)
      (staging workspace project)).outcome host t = ⟨.ok root, u, history⟩) :
    ∃ before n,
      history = before ++ [.launched (unpackJob host config project workspace)
        (.ok (.exited 0)) u] ∧
      before.filterMap (·.job?) = [] ∧ IsName n ∧
      root = Path.join (staging workspace project) n ∧
      IsRoot u (host.cwd.along (staging workspace project)) project n ∧ u.SymlinkFree ∧
      ∀ k, ¬ host.cwd.along (staging workspace project) <+: k → u.get? k = t.get? k ∨
        k <+: host.cwd.along (staging workspace project) ∧ t.get? k = none ∧
          u.get? k = some .directory := by
  rw [Archive.outcome_extract] at h
  obtain ⟨⟨⟩, t₁, before, h₁, hreset, hunpack, rfl⟩ := Outcome.andThen_eq_ok h
  have hunpack := Outcome.andThen_eq_ok hunpack
  obtain ⟨⟨⟩, left, h₂, h₃, hjob, hroot, rfl⟩ := hunpack
  obtain ⟨ht₁, -, -, hframe, hjobs⟩ := resetStaging_ok hp.workspace_up ht hreset
  obtain ⟨hverdict, hleft, rfl⟩ := Outcome.mk.inj hjob
  obtain ⟨hok, rfl, rfl⟩ := Outcome.mk.inj hroot
  rw [ToolCommand.verdict_eq_ok_iff] at hverdict
  obtain ⟨hsf, hkeep⟩ := he t₁ ht₁
  rw [unpackJob, hleft] at hsf hkeep
  obtain ⟨n, hn, rfl, hisroot⟩ := rootIn_eq_ok hp.workspace_up hsf hok
  refine ⟨before, n, ?_, hjobs, hn, rfl, hisroot, hsf, fun k hk => ?_⟩
  · rw [hverdict, hleft, List.append_nil]
    rfl
  · rw [hkeep k hk]
    exact hframe k hk

/-! ## Exclusions -/

section Exclusions

variable {q n root path : String}

/-- What is removed is the excluded path with all that lies below it. -/
theorem removeExcluded_spec (hroot : root = Path.join q n) (hn : Path.IsStep n)
    (hup : ".." ∉ Path.steps root) (hpath : Path.IsPlain path) (ht : t.SymlinkFree)
    (hdir : ∀ e, t.get? (host.cwd.along root) = some e → e = .directory) :
    ∃ b u history, (Archive.removeExcluded root path).outcome host t = ⟨.ok b, u, history⟩ ∧
      u.SymlinkFree ∧
      (∀ k, u.get? k =
        if Path.IsUsable (Path.join root path) ∧ host.cwd.along root ++ Path.steps path <+: k
          then none else t.get? k) ∧
      history.filterMap (·.job?) = [] ∧
      ∀ c ∈ history.filterMap (·.call?),
        c = .removeTree (Path.join root path) ∨ c = .removeFile (Path.join root path) := by
  obtain ⟨q', m, hends, hslash⟩ := hpath.ends_join (q := q) hn
  rw [← hroot] at hends hslash
  have halong : host.cwd.along (Path.join root path) = host.cwd.along root ++ Path.steps path :=
    Location.along_join hpath.startsAtRoot_eq
  have hupt : ".." ∉ Path.steps (Path.join root path) := by
    rw [Path.steps_join hpath.startsAtRoot_eq, List.mem_append, not_or]
    exact ⟨hup, hpath.not_mem_steps⟩
  have hne : host.cwd.along (Path.join root path) ≠ [] := by simp [Location.along_ends hends]
  have hpruned (hu : Path.IsUsable (Path.join root path)) (k : Location) :
      (t.prune (host.cwd.along (Path.join root path))).get? k =
        if Path.IsUsable (Path.join root path) ∧ host.cwd.along root ++ Path.steps path <+: k
          then none else t.get? k := by
    rw [get?_prune hne, halong]
    simp [hu]
  rw [Archive.outcome_removeExcluded]
  by_cases hd : t.isDirectory host.cwd (Path.join root path)
  · have hp : Call.perform host.cwd (.removeTree (Path.join root path)) t =
        (.ok (), t.prune (host.cwd.along (Path.join root path))) :=
      removeTree_of_isDirectory ht hends hupt hd
    rw [if_pos hd, outcome_change, hp]
    exact ⟨_, _, _, rfl, ht.prune hne, hpruned ((isDirectory_iff ht hupt).mp hd).1,
      by simp [Event.job?, Outcome.value], by simp [Event.call?, Outcome.value]⟩
  rw [if_neg hd]
  by_cases hx : t.exists? host.cwd (Path.join root path)
  · have hf := isFile_of_exists? ht hupt hx hd
    have hp : Call.perform host.cwd (.removeFile (Path.join root path)) t =
        (.ok (), t.prune (host.cwd.along (Path.join root path))) := by
      rw [Call.perform_removeFile, removeFile_of_isFile ht hends hupt hf]
    rw [if_pos hx, outcome_change, hp]
    exact ⟨_, _, _, rfl, ht.prune hne, hpruned ((exists?_iff ht hupt).mp hx).1,
      by simp [Event.job?, Outcome.value], by simp [Event.call?, Outcome.value]⟩
  · rw [if_neg hx]
    refine ⟨_, _, _, rfl, ht, fun k => ?_, rfl, by simp⟩
    split
    · rename_i hk
      refine get?_eq_none_of_isPrefix (halong ▸ get?_eq_none_of_exists?_eq_false ht hupt hk.1
        (fun e he hi => ?_) (by simpa using hx)) hk.2
      rw [halong, hslash (hends.endsIdle_iff.mp hi), List.append_nil] at he
      exact hdir e he
    · rfl

/-- Everything excluded goes away, with all that lies below it. -/
theorem removeAllExcluded_spec (host : Host) {paths : List String} (hroot : root = Path.join q n)
    (hn : Path.IsStep n) (hup : ".." ∉ Path.steps root)
    (hpaths : ∀ path ∈ paths, Path.IsPlain path) (ht : t.SymlinkFree)
    (hdir : ∀ e, t.get? (host.cwd.along root) = some e → e = .directory) :
    ∃ u history, (removeAllExcluded root paths).outcome host t = ⟨.ok (), u, history⟩ ∧
      u.SymlinkFree ∧
      (∀ k, u.get? k =
        if ∃ path ∈ paths, Path.IsUsable (Path.join root path) ∧
            host.cwd.along root ++ Path.steps path <+: k then none else t.get? k) ∧
      history.filterMap (·.job?) = [] ∧
      ∀ c ∈ history.filterMap (·.call?), ∃ path ∈ paths,
        c = .removeTree (Path.join root path) ∨ c = .removeFile (Path.join root path) := by
  induction paths generalizing t with
  | nil => exact ⟨t, [], rfl, ht, by simp, rfl, by simp⟩
  | cons path paths ih =>
    obtain ⟨b, v, before, ho, hv, hget, hjobs, hcalls⟩ :=
      removeExcluded_spec hroot hn hup (hpaths path List.mem_cons_self) ht hdir
    obtain ⟨u, after, ho', hu, hget', hjobs', hcalls'⟩ :=
      ih (fun p hp => hpaths p (List.mem_cons_of_mem path hp)) hv fun e he => by
        rw [hget] at he
        split at he
        · cases he
        · exact hdir e he
    refine ⟨u, before ++ after, ?_, hu, fun k => ?_, by simp [hjobs, hjobs'], fun c hc => ?_⟩
    · rw [outcome_removeAllExcluded_cons, ho, Outcome.ok_andThen, ho']
    · rw [hget', hget]
      by_cases h1 : ∃ p ∈ paths, Path.IsUsable (Path.join root p) ∧
          host.cwd.along root ++ Path.steps p <+: k
      · obtain ⟨p, hp, h⟩ := h1
        rw [if_pos ⟨p, hp, h⟩, if_pos ⟨p, List.mem_cons_of_mem path hp, h⟩]
      · rw [if_neg h1]
        by_cases h2 : Path.IsUsable (Path.join root path) ∧
            host.cwd.along root ++ Path.steps path <+: k
        · rw [if_pos h2, if_pos ⟨path, List.mem_cons_self, h2⟩]
        · rw [if_neg h2, if_neg]
          rintro ⟨p, hp, h⟩
          rcases List.mem_cons.mp hp with rfl | hp
          · exact h2 h
          · exact h1 ⟨p, hp, h⟩
    · rw [List.filterMap_append, List.mem_append] at hc
      rcases hc with hc | hc
      · exact ⟨path, List.mem_cons_self, hcalls c hc⟩
      · obtain ⟨p, hp, h⟩ := hcalls' c hc
        exact ⟨p, List.mem_cons_of_mem path hp, h⟩

end Exclusions

/-! ## Moving into place -/

section Moving

variable {n : String}

/-- A move of the root into place. The staging directory stays. -/
theorem rename_root_ok (hw : ".." ∉ Path.steps workspace) (hn : IsName n) (ht : t.SymlinkFree)
    (hdir : ∀ e, t.get? (host.cwd.along (staging workspace project) ++ [n]) = some e →
      e = .directory)
    (h : t.rename host.cwd (Path.join (staging workspace project) n) (place workspace project) =
      .ok u) :
    u.SymlinkFree ∧ u.isDirectory host.cwd (staging workspace project) ∧
    t.get? (host.cwd.along (staging workspace project) ++ [n]) = some .directory ∧
    ∀ k, u.get? k =
      if host.cwd.along (place workspace project) <+: k then
        t.get? (host.cwd.along (staging workspace project) ++
          n :: k.drop (host.cwd.along (place workspace project)).length)
      else if host.cwd.along (staging workspace project) ++ [n] <+: k then none
      else t.get? k := by
  have hup := staging_up project hw
  have husf := ht.rename h
  obtain ⟨a, b, e, ha, hb, -, -, he, -, -, -, hmoved⟩ := rename_eq_ok h
  obtain ⟨rfl, hz, hsize, hfits, hd⟩ :=
    (spot_iff ht (Path.ends_join hn.isStep) hup).mp ha
  obtain rfl := ((spot_iff ht ends_dest hw).mp hb).1
  simp only [Spot.location] at he hmoved
  obtain rfl := hdir e he
  have hmoved := hmoved.resolve_left fun hsame => by
    refine (files_of_isSameFile he hsame.1 fun heq => ?_).1 rfl
    have := congrArg List.length heq
    simp [along_staging] at this
  have hget : ∀ k, u.get? k =
      if host.cwd.along (place workspace project) <+: k then
        t.get? (host.cwd.along (staging workspace project) ++
          n :: k.drop (host.cwd.along (place workspace project)).length)
      else if host.cwd.along (staging workspace project) ++ [n] <+: k then none
      else t.get? k := by
    intro k
    simp only [hmoved.2.2 k, along_dest, List.append_assoc, List.singleton_append]
    rfl
  refine ⟨husf, (isDirectory_iff husf hup).mpr ⟨?_, ?_⟩, he, hget⟩
  · obtain ⟨s, hs⟩ := Path.toList_join (a := staging workspace project) hn.isStep
    exact ⟨ends_staging.ne_empty, fun hc => hz (by simp [hs, hc]),
      Nat.le_trans (Path.utf8ByteSize_le_join hn.isStep) hsize, hfits⟩
  · have hbelow : ¬ host.cwd.along (staging workspace project) ++ [n] <+:
        host.cwd.along (staging workspace project) := by
      intro hc
      have := hc.length_le
      rw [List.length_append, List.length_singleton] at this
      omega
    rw [hget, if_neg not_dest_prefix_staging, if_neg hbelow, hd]

/-- Nothing stands in the way of a move to where there is nothing. -/
theorem rename_root_succeeds (hw : ".." ∉ Path.steps workspace) (hn : IsName n)
    (ht : t.SymlinkFree) (husable : Path.IsUsable (Path.join (staging workspace project) n))
    (husable' : Path.IsUsable (place workspace project))
    (hroot : t.get? (host.cwd.along (staging workspace project) ++ [n]) = some .directory)
    (hdest : t.get? (host.cwd.along (place workspace project)) = none) :
    ∃ u, t.rename host.cwd (Path.join (staging workspace project) n) (place workspace project) =
      .ok u := by
  have hends := Path.ends_join (q := staging workspace project) hn.isStep
  have hstaging := get?_of_append hroot (by simp)
  have hworkspace : t.get? (host.cwd.along workspace) = some .directory := by
    rw [along_staging] at hstaging
    exact get?_of_append hstaging (by simp)
  have hspot := spot_of_get? ht hends (staging_up project hw) husable
    (by rw [Location.along_join_step hn.isStep]; exact hroot)
  have hspot' : t.spot host.cwd (place workspace project) =
      .ok ⟨host.cwd.along workspace, project.dirName,
        Path.endsWithSlash (place workspace project)⟩ := by
    refine (spot_iff ht ends_dest hw).mpr
      ⟨rfl, husable'.2.1, husable'.2.2.1, fun m hm => husable'.2.2.2 m ?_, hworkspace⟩
    simp [ends_dest.steps_eq, hm]
  have hlength : ¬ host.cwd.along (staging workspace project) ++ [n] <+:
      host.cwd.along workspace := fun hc => by
    have := hc.length_le
    simp only [along_staging, List.length_append, List.length_singleton] at this
    omega
  have habove : ¬ host.cwd.along workspace ++ [project.dirName] <+:
      host.cwd.along (staging workspace project) := along_dest ▸ not_dest_prefix_staging
  have hsame : t.isSameFile (host.cwd.along (staging workspace project) ++ [n])
      (host.cwd.along workspace ++ [project.dirName]) = false := by
    refine Bool.eq_false_iff.mpr fun hc => (files_of_isSameFile hroot hc fun heq => ?_).1 rfl
    have := congrArg List.length heq
    simp [along_staging] at this
  unfold rename
  rw [hspot, hspot']
  simp only [bind, Except.bind, lookUp_of_isUsable hends husable,
    lookUp_of_isUsable ends_dest husable', Location.along_join_step hn.isStep, hroot, hdest]
  rw [if_neg (by simp [hn, project.isName_dirName]), if_neg (by simp [Entry.isDirectory])]
  split
  · exact absurd ‹_› hlength
  split
  · exact absurd ‹_› habove
  split
  · rename_i hc
    exact absurd (hsame.symm.trans hc) (by simp)
  exact ⟨_, rfl⟩

/-- The move into place and the removal of the staging directory. -/
def moving (host : Host) (project : ProjectId) (workspace root : String) (t : FileTree) :
    Outcome Unit :=
  ((change (.movingCheckout root (place workspace project))
    (.rename root (place workspace project))).outcome host t).andThen fun _ u =>
      (change (.removingStaging (staging workspace project))
        (.removeTree (staging workspace project))).outcome host u

/-- Either the move fails and nothing changes, or the checkout is in place and the staging directory
is gone. -/
theorem moving_cases (host : Host) (project : ProjectId) (hw : ".." ∉ Path.steps workspace)
    (hn : IsName n) (ht : t.SymlinkFree)
    (hdir : ∀ e, t.get? (host.cwd.along (staging workspace project) ++ [n]) = some e →
      e = .directory) :
    (∃ f event, moving host project workspace (Path.join (staging workspace project) n) t =
        ⟨.error f, t, [event]⟩ ∧
      event.call? = some
        (.rename (Path.join (staging workspace project) n) (place workspace project))) ∨
    ∃ u first second, moving host project workspace (Path.join (staging workspace project) n) t =
        ⟨.ok (), u, [first, second]⟩ ∧
      first.call? = some
        (.rename (Path.join (staging workspace project) n) (place workspace project)) ∧
      second.call? = some (.removeTree (staging workspace project)) ∧ u.SymlinkFree ∧
      (∀ k, u.get? (host.cwd.along (place workspace project) ++ k) =
        t.get? (host.cwd.along (staging workspace project) ++ n :: k)) ∧
      (∀ k, host.cwd.along (staging workspace project) <+: k → u.get? k = none) ∧
      ∀ k, ¬ host.cwd.along (place workspace project) <+: k →
        ¬ host.cwd.along (staging workspace project) <+: k → u.get? k = t.get? k := by
  have hup := staging_up project hw
  have hne : host.cwd.along (staging workspace project) ≠ [] := by simp [along_staging]
  rw [moving, outcome_change, Call.perform_rename]
  cases h : t.rename host.cwd (Path.join (staging workspace project) n)
    (place workspace project) with
  | error fault => exact .inl ⟨_, _, rfl, rfl⟩
  | ok w =>
    obtain ⟨hwsf, hd, -, hget⟩ := rename_root_ok hw hn ht hdir h
    have hremove : Call.perform host.cwd (.removeTree (staging workspace project)) w =
        (.ok (), w.prune (host.cwd.along (staging workspace project))) :=
      removeTree_of_isDirectory hwsf ends_staging hup hd
    refine .inr ⟨w.prune (host.cwd.along (staging workspace project)),
      .changed (.rename (Path.join (staging workspace project) n) (place workspace project))
        (.ok ()) w,
      .changed (.removeTree (staging workspace project)) (.ok ())
        (w.prune (host.cwd.along (staging workspace project))), ?_, rfl, rfl, hwsf.prune hne,
      fun k => ?_, fun k hk => ?_, fun k hk hk' => ?_⟩
    · simp only [Except.mapError, Outcome.ok_andThen, outcome_change, hremove,
        List.singleton_append]
    · rw [get?_prune hne, if_neg, hget, if_pos (List.prefix_append _ _), List.drop_left]
      intro hc
      have := List.prefix_of_prefix_length_le hc (List.prefix_append _ k)
        (by simp [along_dest, along_staging])
      exact not_staging_prefix_dest this
    · rw [get?_prune hne, if_pos hk]
    · rw [get?_prune hne, if_neg hk', hget, if_neg hk, if_neg fun hc =>
        hk' ((List.prefix_append _ _).trans hc)]

end Moving

end BenchCheckout.Checkout
