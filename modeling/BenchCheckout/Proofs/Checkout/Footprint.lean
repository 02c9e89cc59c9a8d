import BenchCheckout.Proofs.Build
import BenchCheckout.Proofs.Checkout.Setting

/-!
# What a checkout changes

Whatever the text is that a checkout is asked for, the changes that it makes itself are those of
`IsOwn`: of the checkout's own directory and staging directory, of two files in the archive
directory, of the paths that are left out below the project's root, and of the manifest.

* `Outcome.Makes.andThen`: the changes of two actions in a row are those of the one and the other.
* `Checkout.checkout_makes_own`: a checkout makes no other changes, and none at all for a text that
  is no id or a workspace that is no directory.
-/

namespace BenchCheckout

open BenchCheckout.Action

/-! ## The changes of an outcome -/

namespace Outcome

variable {α β : Type} {own : Call → Prop}

/-- Every change that the program makes itself is `own`. -/
def Makes (own : Call → Prop) (o : Outcome α) : Prop := ∀ c ∈ o.calls, own c

theorem makes_value (a : α) (t : FileTree) : (value a t).Makes own := nofun

theorem Makes.andThen {o : Outcome α} {next : α → FileTree → Outcome β} (h : o.Makes own)
    (hnext : ∀ a, o.result = .ok a → (next a o.files).Makes own) : (o.andThen next).Makes own := by
  obtain ⟨r, t, history⟩ := o
  cases r with
  | error f => exact h
  | ok a =>
    intro c hc
    rw [ok_andThen, calls, List.filterMap_append, List.mem_append] at hc
    exact hc.elim (h c) (hnext a rfl c)

theorem makes_change {call : Call} (h : own call) (activity : Activity) (host : Host)
    (t : FileTree) : ((change activity call).outcome host t).Makes own := by
  rw [outcome_change]
  intro c hc
  rw [List.mem_singleton.mp hc]
  exact h

end Outcome

namespace Checkout

/-- The changes that a checkout of the bug `bugId` of `subject` may make, with the project's root in
the staging directory named `root`. -/
inductive IsOwn (cwd : Location) (config : Config) (workspace subject bugId root : String) :
    Call → Prop where
  | removeCheckout : IsOwn cwd config workspace subject bugId root
      (.removeTree (Path.join workspace (subject ++ "_" ++ bugId)))
  | removeStaging : IsOwn cwd config workspace subject bugId root
      (.removeTree (Path.join workspace ("." ++ (subject ++ "_" ++ bugId) ++ ".extract")))
  | makeStaging : IsOwn cwd config workspace subject bugId root
      (.createDirs (Path.join workspace ("." ++ (subject ++ "_" ++ bugId) ++ ".extract")))
  | makeArchiveDir : IsOwn cwd config workspace subject bugId root
      (.createDirs (Archive.dir cwd config.archiveDir))
  | moveDownload : IsOwn cwd config workspace subject bugId root
      (.rename
        (Path.join (Archive.home cwd config.archiveDir)
          (subject ++ "-" ++ bugId ++ ".tar.gz.part"))
        (Path.join (Archive.home cwd config.archiveDir) (subject ++ "-" ++ bugId ++ ".tar.gz")))
  | removePartial : IsOwn cwd config workspace subject bugId root
      (.removeFile (Path.join (Archive.home cwd config.archiveDir)
        (subject ++ "-" ++ bugId ++ ".tar.gz.part")))
  | removeArchive : IsOwn cwd config workspace subject bugId root
      (.removeFile (Path.join (Archive.home cwd config.archiveDir)
        (subject ++ "-" ++ bugId ++ ".tar.gz")))
  | excludeTree {path : String} (excluded : ⟨subject, path⟩ ∈ config.exclusions) :
      IsOwn cwd config workspace subject bugId root
        (.removeTree (Path.join (Path.join (Path.join workspace
          ("." ++ (subject ++ "_" ++ bugId) ++ ".extract")) root) path))
  | excludeFile {path : String} (excluded : ⟨subject, path⟩ ∈ config.exclusions) :
      IsOwn cwd config workspace subject bugId root
        (.removeFile (Path.join (Path.join (Path.join workspace
          ("." ++ (subject ++ "_" ++ bugId) ++ ".extract")) root) path))
  | moveRoot : IsOwn cwd config workspace subject bugId root
      (.rename
        (Path.join (Path.join workspace ("." ++ (subject ++ "_" ++ bugId) ++ ".extract")) root)
        (Path.join workspace (subject ++ "_" ++ bugId)))
  | patchManifest (text : String) : IsOwn cwd config workspace subject bugId root
      (.write (Path.join (Path.join workspace (subject ++ "_" ++ bugId)) config.build.manifestFile)
        text)

variable {config : Config} {project : ProjectId} {workspace : String} {host : Host}

/-- The changes that a checkout of a project may make. -/
abbrev IsOwnOf (host : Host) (config : Config) (project : ProjectId) (workspace root : String) :
    Call → Prop :=
  IsOwn host.cwd config workspace project.subject project.bugId root

/-! ## Stage by stage -/

theorem partialName_eq (p : ProjectId) :
    p.partialName = p.subject ++ "-" ++ p.bugId ++ ".tar.gz.part" := by
  apply String.toList_injective
  rw [ProjectId.toList_partialName]
  simp

theorem removeStale_makes (root : String) (t : FileTree) :
    ((removeStale (place workspace project)).outcome host t).Makes
      (IsOwnOf host config project workspace root) := by
  rw [outcome_removeStale]
  split
  · exact Outcome.makes_change .removeCheckout _ _ _
  · exact Outcome.makes_value _ _

theorem fetch_makes (policy : ArchivePolicy) (hcwd : ∀ n ∈ host.cwd, IsName n) (root : String)
    (t : FileTree) :
    ((Archive.fetch config project policy).outcome host t).Makes
      (IsOwnOf host config project workspace root) := by
  have hdir : IsOwnOf host config project workspace root
      (.createDirs (Archive.dir host.cwd config.archiveDir)) := .makeArchiveDir
  have hremove : IsOwnOf host config project workspace root
      (.removeFile (Archive.partialPlace host.cwd config.archiveDir project)) := by
    rw [Archive.partialPlace, partialName_eq]
    exact .removePartial
  have hmove : IsOwnOf host config project workspace root
      (.rename (Archive.partialPlace host.cwd config.archiveDir project)
        (Archive.place host.cwd config.archiveDir project)) := by
    rw [Archive.partialPlace, partialName_eq]
    exact .moveDownload
  have hf := Archive.fetched config project policy host hcwd t
  generalize (Archive.fetch config project policy).outcome host t = o at hf ⊢
  intro c hc
  cases hf with
  | pathless | reused => cases hc
  | homeless =>
    obtain rfl := List.mem_singleton.mp hc
    exact hdir
  | failed =>
    rcases List.mem_cons.mp hc with rfl | hc
    · exact hdir
    · obtain rfl := List.mem_singleton.mp hc
      exact hremove
  | ended =>
    rcases List.mem_cons.mp hc with rfl | hc
    · exact hdir
    · obtain rfl := List.mem_singleton.mp hc
      exact hmove

/-- The root that is found is named after the bug or is an entry of the staging directory. -/
theorem exists_root_of_rootIn {archive staging root : String} {t : FileTree} {cwd : Location}
    (h : Archive.rootIn project archive staging t cwd = .ok root) :
    ∃ n, IsName n ∧ root = Path.join staging n := by
  unfold Archive.rootIn at h
  split at h
  · exact ⟨_, ProjectId.isName_bugId project, (Except.ok.inj h).symm⟩
  split at h
  · cases h
  · rename_i name hlist
    split at h
    · refine ⟨name, ?_, (Except.ok.inj h).symm⟩
      have hmem : ∃ l, name ∈ t.names l := by
        unfold FileTree.list at hlist
        rcases hfind : t.find cwd staging with fault | ⟨l, e⟩
        · rw [hfind] at hlist
          cases hlist
        · rw [hfind] at hlist
          cases e with
          | directory =>
            refine ⟨l, ?_⟩
            rw [Except.ok.inj hlist]
            exact List.mem_singleton_self name
          | _ => cases hlist
      obtain ⟨l, hl⟩ := hmem
      obtain ⟨e, he⟩ := Option.isSome_iff_exists.mp (FileTree.mem_names.mp hl)
      exact FileTree.isName_of_get? he (List.mem_append_right l (List.mem_singleton_self name))
    · cases h
  · cases h

theorem removeExcluded_makes {root path : String} (h : path ∈ config.exclusionsFor project.subject)
    (t : FileTree) :
    ((Archive.removeExcluded (Path.join (staging workspace project) root) path).outcome host t).Makes
      (IsOwnOf host config project workspace root) := by
  have hexcluded : ⟨project.subject, path⟩ ∈ config.exclusions := by
    obtain ⟨⟨subject, path⟩, he, rfl⟩ := List.mem_map.mp h
    obtain ⟨he, hs⟩ := List.mem_filter.mp he
    rwa [← eq_of_beq hs]
  rw [Archive.outcome_removeExcluded]
  split
  · exact .andThen (Outcome.makes_change (.excludeTree hexcluded) _ _ _) fun _ _ =>
      Outcome.makes_value _ _
  split
  · exact .andThen (Outcome.makes_change (.excludeFile hexcluded) _ _ _) fun _ _ =>
      Outcome.makes_value _ _
  · exact Outcome.makes_value _ _

theorem removeAllExcluded_makes {root : String} {paths : List String}
    (h : ∀ path ∈ paths, path ∈ config.exclusionsFor project.subject) (t : FileTree) :
    ((removeAllExcluded (Path.join (staging workspace project) root) paths).outcome host t).Makes
      (IsOwnOf host config project workspace root) := by
  induction paths generalizing t with
  | nil => exact Outcome.makes_value _ _
  | cons path paths ih =>
    have hrest := ih fun q hq => h q (List.mem_cons_of_mem path hq)
    rw [outcome_removeAllExcluded_cons]
    exact .andThen (removeExcluded_makes (h path List.mem_cons_self) t) fun _ _ => hrest _

theorem deletion_makes (policy : ArchivePolicy) (root : String) (t : FileTree) :
    (deletion policy host t (Archive.place host.cwd config.archiveDir project)).Makes
      (IsOwnOf host config project workspace root) := by
  cases policy with
  | cached => exact Outcome.makes_value _ _
  | transient => exact Outcome.makes_change .removeArchive _ _ _

section Unpacking

variable (config project workspace host)

theorem extract_makes (archive root : String) (t : FileTree) :
    ((Archive.extract config project archive (staging workspace project)).outcome host t).Makes
      (IsOwnOf host config project workspace root) := by
  rw [Archive.outcome_extract, Archive.outcome_resetStaging]
  refine .andThen ?_ fun _ _ => ?_
  · split
    · exact .andThen (Outcome.makes_change .removeStaging _ _ _) fun _ _ =>
        Outcome.makes_change .makeStaging _ _ _
    · exact Outcome.makes_change .makeStaging _ _ _
  · exact .andThen nofun fun _ _ => nofun

/-- Where the project's root is found, all changes are those for this root. -/
theorem putInPlace_makes (archive : String) (t : FileTree) :
    ∃ root, IsName root ∧ ((putInPlace config project archive (staging workspace project)
      (place workspace project)).outcome host t).Makes
        (IsOwnOf host config project workspace root) := by
  rw [outcome_putInPlace]
  have hextract := extract_makes config project workspace host archive
  cases hr : ((Archive.extract config project archive
      (staging workspace project)).outcome host t).result with
  | error f =>
    refine ⟨project.bugId, ProjectId.isName_bugId project, .andThen (hextract _ t) fun a ha => ?_⟩
    cases hr.symm.trans ha
  | ok root =>
    obtain ⟨n, hn, rfl⟩ : ∃ n, IsName n ∧ root = Path.join (staging workspace project) n := by
      rw [Archive.outcome_extract] at hr
      obtain ⟨_, u, _, _, -, hr, -⟩ := Outcome.andThen_eq_ok (Outcome.eq_of_result hr)
      obtain ⟨_, v, _, _, -, hr, -⟩ := Outcome.andThen_eq_ok hr
      exact exists_root_of_rootIn (Outcome.mk.inj hr).1
    refine ⟨n, hn, .andThen (hextract n t) fun a ha => ?_⟩
    obtain rfl := Except.ok.inj (hr.symm.trans ha)
    exact .andThen (removeAllExcluded_makes (fun _ h => h) _) fun _ _ =>
      .andThen (Outcome.makes_change .moveRoot _ _ _) fun _ _ =>
        Outcome.makes_change .removeStaging _ _ _

theorem unpackInto_makes (policy : ArchivePolicy) (t : FileTree) :
    ∃ root, IsName root ∧ ((unpackInto config project policy
      (Archive.place host.cwd config.archiveDir project) (staging workspace project)
      (place workspace project)).outcome host t).Makes
        (IsOwnOf host config project workspace root) := by
  obtain ⟨root, hroot, hmakes⟩ := putInPlace_makes config project workspace host
    (Archive.place host.cwd config.archiveDir project) t
  refine ⟨root, hroot, ?_⟩
  rw [outcome_unpackInto]
  generalize (putInPlace config project (Archive.place host.cwd config.archiveDir project)
    (staging workspace project) (place workspace project)).outcome host t = o at hmakes
  obtain ⟨r | _, u, history⟩ := o
  · intro c hc
    simp only [Outcome.calls, List.filterMap_append, List.mem_append] at hc
    rcases hc with hc | hc
    · exact hmakes c hc
    · rcases List.mem_cons.mp hc with rfl | hc
      · exact .removeStaging
      · exact deletion_makes policy root _ c hc
  · intro c hc
    simp only [Outcome.calls, List.filterMap_append, List.mem_append] at hc
    exact hc.elim (hmakes c) (deletion_makes policy root u c)

end Unpacking

theorem buildInto_makes (root : String) (t : FileTree) :
    ((buildInto config project (place workspace project)).outcome host t).Makes
      (IsOwnOf host config project workspace root) := by
  rw [outcome_buildInto]
  refine .andThen (fun c hc => ?_) fun _ _ => Outcome.makes_value _ _
  rcases Build.outcome_build_cases config project (place workspace project) host t with
    ⟨-, ho⟩ | ⟨more, -, ho⟩
  · rw [ho] at hc
    cases hc
  · rw [ho] at hc
    obtain ⟨content, rfl⟩ :=
      (Build.ends config.build project (place workspace project) host more 1 t).call_eq c hc
    exact .patchManifest _

/-- A fetch that succeeds tells the archive's place. -/
theorem fetch_eq_ok (policy : ArchivePolicy) (hcwd : ∀ n ∈ host.cwd, IsName n) {t : FileTree}
    {archive : String}
    (h : ((Archive.fetch config project policy).outcome host t).result = .ok archive) :
    archive = Archive.place host.cwd config.archiveDir project := by
  have hf := Archive.fetched config project policy host hcwd t
  generalize (Archive.fetch config project policy).outcome host t = o at h hf
  cases hf with
  | reused => exact (Except.ok.inj h).symm
  | pathless | homeless | failed => cases h
  | @ended _ _ _ moved =>
    cases moved with
    | error => cases h
    | ok => exact (Except.ok.inj h).symm

theorem run_makes (options : Options) (hcwd : ∀ n ∈ host.cwd, IsName n) (t : FileTree) :
    ∃ root, IsName root ∧ ((run config project workspace options).outcome host t).Makes
      (IsOwnOf host config project workspace root) := by
  rw [outcome_run]
  -- The root is chosen by the files that the unpacking starts from.
  obtain ⟨root, hroot, hmakes⟩ := unpackInto_makes config project workspace host options.archive
    ((Archive.fetch config project options.archive).outcome host
      ((removeStale (place workspace project)).outcome host t).files).files
  refine ⟨root, hroot, .andThen (removeStale_makes root t) fun _ _ =>
    .andThen (fetch_makes options.archive hcwd root _) fun archive ha => ?_⟩
  rw [fetch_eq_ok options.archive hcwd ha]
  refine .andThen hmakes fun _ _ => ?_
  split
  · exact .andThen (buildInto_makes root _) fun _ _ => Outcome.makes_value _ _
  · exact Outcome.makes_value _ _

/-! ## Main statement -/

theorem count_text (p : ProjectId) : p.text.toList.count '_' = 1 := by
  have hs : '_' ∉ p.subject.toList := ProjectId.not_mem_of_isSubject p.isSubject
  have hb : '_' ∉ p.bugId.toList := fun h =>
    ProjectId.ne_of_isAlphanum (ProjectId.isAlphanum_of_mem_bugId h) (by decide) rfl
  simp [ProjectId.text, List.count_append, List.count_eq_zero.mpr hs, List.count_eq_zero.mpr hb]

/-- A checkout makes the changes that are its own, and no others: those of the id that it was asked
for, whose text is one name. For a text that is no id, or without a workspace, it makes none and
starts nothing. -/
theorem checkout_makes_own (config : Config) (raw workspace : String) (options : Options)
    (host : Host) (t : FileTree) (hcwd : ∀ n ∈ host.cwd, IsName n) :
    ((¬ ∃ subject bugId, IsSubject subject ∧ IsBugId bugId ∧ raw = subject ++ "_" ++ bugId) ∨
      t.isDirectory host.cwd workspace = false →
        ((checkout config raw workspace options).outcome host t).history = [] ∧
          ((checkout config raw workspace options).outcome host t).files = t) ∧
    ∀ subject bugId, IsSubject subject → IsBugId bugId → raw = subject ++ "_" ++ bugId →
      (IsName raw ∧ IsName ("." ++ raw ++ ".extract") ∧ raw.toList.count '_' = 1 ∧
        ∀ c ∈ raw.toList, c.isAlphanum ∨ c = '_') ∧
      (Path.startsAtRoot (Archive.dir host.cwd config.archiveDir) ∧
        Path.steps (Archive.dir host.cwd config.archiveDir) =
          host.cwd.along config.archiveDir ∧
        ∀ name ∈ [subject ++ "-" ++ bugId ++ ".tar.gz", subject ++ "-" ++ bugId ++ ".tar.gz.part"],
          IsName name ∧ Path.parent? (Path.join (Archive.home host.cwd config.archiveDir) name) =
            some (Archive.dir host.cwd config.archiveDir)) ∧
      ∃ root, IsName root ∧ ∀ call ∈ ((checkout config raw workspace options).outcome host t).calls,
        IsOwn host.cwd config workspace subject bugId root call := by
  rw [outcome_checkout]
  refine ⟨fun h => ?_, fun subject bugId hsubject hbug hraw => ?_⟩
  · cases hp : ProjectId.parse? raw with
    | none => exact ⟨rfl, rfl⟩
    | some p =>
      have hvalid : ∃ subject bugId, IsSubject subject ∧ IsBugId bugId ∧
          raw = subject ++ "_" ++ bugId :=
        ⟨p.subject, p.bugId, p.isSubject, p.isBugId, ProjectId.parse?_eq_some_iff.mp hp⟩
      simp only [h.resolve_left (not_not_intro hvalid), Bool.false_eq_true, if_false]
      exact ⟨rfl, rfl⟩
  let p : ProjectId := ⟨subject, bugId, hsubject, hbug⟩
  obtain rfl : raw = p.text := hraw
  have hparent {n : String} (hn : IsName n) :
      Path.parent? (Path.join (Archive.home host.cwd config.archiveDir) n) =
        some (Archive.dir host.cwd config.archiveDir) :=
    Path.parent?_join (Archive.isNormal_home _ hcwd) hn.isStep
  refine ⟨⟨p.isName_dirName, p.isName_stagingName, count_text p, fun c => ProjectId.mem_dirName⟩,
    ⟨(Archive.isNormal_dir _ hcwd).startsAtRoot_eq, Archive.steps_dir hcwd, ?_⟩, ?_⟩
  · intro name hname
    rcases List.mem_cons.mp hname with rfl | hname
    · exact ⟨p.isName_archiveName, hparent p.isName_archiveName⟩
    · obtain rfl : name = p.partialName :=
        (List.mem_singleton.mp hname).trans (partialName_eq p).symm
      exact ⟨p.isName_partialName, hparent p.isName_partialName⟩
  rw [ProjectId.parse?_text]
  simp only
  split
  · exact run_makes options hcwd t
  · exact ⟨p.bugId, p.isName_bugId, nofun⟩

theorem own_calls_of_small_checkout :
    (∀ n ∈ (smallHost (.exited 0)).cwd, IsName n) ∧
      ∃ root, IsName root ∧
        ∀ call ∈ ((checkout smallConfig "Lang_10" "w" ⟨true, .transient⟩).outcome
          (smallHost (.exited 0)) smallTree).calls,
          IsOwn [] smallConfig "w" "Lang" "10" root call := by
  have hcwd : ∀ n ∈ (smallHost (.exited 0)).cwd, IsName n := nofun
  exact ⟨hcwd, ((checkout_makes_own smallConfig "Lang_10" "w" ⟨true, .transient⟩
    (smallHost (.exited 0)) smallTree hcwd).2 "Lang" "10" (by decide) (by decide)
    (by decide)).2.2⟩

end Checkout

end BenchCheckout
