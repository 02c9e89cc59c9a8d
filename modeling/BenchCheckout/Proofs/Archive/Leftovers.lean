import BenchCheckout.Proofs.Archive.Interruption
import BenchCheckout.Proofs.Files.Entries
import BenchCheckout.Proofs.Files.Landing

/-!
# What a fetch that fails leaves of its download

Whatever the reason is that a fetch fails for, nothing is at the download's place afterwards, with
two exceptions (`Attempt.Leaves`): a download that cannot be moved into place, because a directory
is there, stays; and a directory that an archive directory with `..` in its path leads to is not
removed. Where the working directory is gone, a download may have no place; then nothing changes.

Links may be anywhere in the trees. Of a downloader it is asked that it makes or fills at most one
file, the one that a write to its output goes to (`Attempt.FillsOutput`).
-/

namespace BenchCheckout.Archive

open FileTree

namespace Attempt

variable (config : Config) (a : Attempt)

/-- `u` is `t`, except that the file which a write to the output makes or fills may be any. -/
def FillsOutput (t u : FileTree) : Prop :=
  ∀ k, u.get? k = t.get? k ∨
    u.IsFileAt k ∧ ∃ l, t.landing a.host.cwd (a.output config) = .ok l ∧ t.isSameFile l k

/-- The archive directory is missing from the files `t`, and its path has `..`: on the way to it
directories are made that it does not lie in. -/
def Detours (t : FileTree) : Prop :=
  ".." ∈ Path.steps config.archiveDir ∧
    ¬ t.isDirectory a.host.cwd (dir a.host.cwd config.archiveDir)

/-- What may be at the output when an attempt that began with the files `t` has failed and the files
are `u`. -/
inductive Leaves (t u : FileTree) (f : Failure) : Prop where
  | pathless (hf : f = unresolved config a.project)
    (hstart : ¬ t.hasStart a.host.cwd config.archiveDir) (hu : u = t)
  | nothing (h : ∀ e, u.findLink a.host.cwd (a.output config) ≠ .ok e)
  | download {e : Entry}
    (hf : f = .during (.movingDownload (place a.host.cwd config.archiveDir a.project))
      (.file .isDirectory))
    (hplace : t.isDirectory a.host.cwd (place a.host.cwd config.archiveDir a.project) ∨
      a.Detours config t)
    (he : u.findLink a.host.cwd (a.output config) = .ok e) (hne : e ≠ .directory)
  | directory (hd : a.Detours config t)
    (he : u.findLink a.host.cwd (a.output config) = .ok .directory)

variable {config : Config} {a : Attempt} {t u v : FileTree} {f : Failure}

theorem output_eq : a.output config =
    Path.join (home a.host.cwd config.archiveDir) a.project.partialName := rfl

namespace FillsOutput

theorem refl (config : Config) (a : Attempt) (t : FileTree) : a.FillsOutput config t t :=
  fun _ => .inl rfl

theorem of_write {bytes : ByteArray} (h : t.write a.host.cwd (a.output config) bytes = .ok u) :
    a.FillsOutput config t u := by
  unfold write at h
  obtain ⟨l, hl, h⟩ := bind_eq_ok.mp h
  obtain rfl := Except.ok.inj h
  obtain ⟨number, hget⟩ := get?_fill_of_landing hl bytes (t.isExecutableAt l)
  intro k
  rw [hget]
  split
  · rename_i hsame
    exact .inr ⟨⟨_, _, _, by rw [hget, if_pos hsame]⟩, l, hl, hsame⟩
  · exact .inl rfl

theorem grows (h : a.FillsOutput config t u) : t.Grows u := by
  intro k e he
  rcases h k with hk | ⟨⟨bytes, x, number, hu⟩, l, hl, hsame⟩
  · exact ⟨e, hk.trans he, .refl e⟩
  · obtain ⟨b, y, n, rfl⟩ := file_of_landing hl hsame he
    exact ⟨_, hu, .file⟩

theorem get?_of_directory (h : a.FillsOutput config t u) {k : Location}
    (hk : u.get? k = some .directory) : t.get? k = some .directory := by
  rcases h k with he | ⟨⟨bytes, x, number, hu⟩, -⟩
  · exact he.symm.trans hk
  · rw [hk] at hu
    cases hu

end FillsOutput

variable (hcwd : ∀ n ∈ a.host.cwd, IsName n)

include hcwd

/-- A download makes no directory in the archive directory. -/
theorem isDirectory_of_fills {n : String} (hn : IsName n)
    (hd : t.isDirectory a.host.cwd (dir a.host.cwd config.archiveDir))
    (hu : a.FillsOutput config t u)
    (he : u.findLink a.host.cwd (Path.join (home a.host.cwd config.archiveDir) n) =
      .ok .directory) :
    t.isDirectory a.host.cwd (Path.join (home a.host.cwd config.archiveDir) n) := by
  obtain ⟨l, hs, hfit, hl⟩ := (findLink_join_iff hn).mp he
  have hc : t.checkPath a.host.cwd (Path.join (home a.host.cwd config.archiveDir) n) = .ok () := by
    obtain ⟨hne, hz, hsize, -⟩ := checkPath_eq_ok_iff.mp (spot_eq_ok hs).1
    refine checkPath_eq_ok_iff.mpr ⟨hne, hz, hsize, ?_⟩
    rw [Location.start, Path.startsAtRoot_join hn.isStep.startsAtRoot_eq,
      if_pos (isNormal_home _ hcwd).startsAtRoot_eq]
    exact t.get?_root
  obtain ⟨s, hst⟩ := spot_of_isDirectory_join (isNormal_home _ hcwd) hn.isStep hc hd
  obtain rfl := Except.ok.inj ((spot_grows hu.grows hn.isStep hst).symm.trans hs)
  exact isDirectory_of_findLink hn
    ((findLink_join_iff hn).mpr ⟨l, hst, hfit, hu.get?_of_directory hl⟩)

/-- Making the archive directory makes none in it, except on a detour. -/
theorem isDirectory_of_createDirs_dir {n : String} (hn : IsName n)
    (hu : t.createDirs a.host.cwd (dir a.host.cwd config.archiveDir) = (.ok (), u))
    (hd : u.isDirectory a.host.cwd (Path.join (home a.host.cwd config.archiveDir) n)) :
    t.isDirectory a.host.cwd (Path.join (home a.host.cwd config.archiveDir) n) ∨
      a.Detours config t := by
  by_cases hdir : t.isDirectory a.host.cwd (dir a.host.cwd config.archiveDir)
  · obtain ⟨-, rfl⟩ := Prod.mk.inj (hu.symm.trans (createDirs_of_isDirectory hdir))
    exact .inl hd
  by_cases hup : ".." ∈ Path.steps config.archiveDir
  · exact .inr ⟨hup, hdir⟩
  rcases createDirs_eq_ok (isNormal_dir _ hcwd) (up_not_mem_steps_dir hcwd hup) hu with
    rfl | hfresh
  · exact .inl hd
  · have hroot : dir a.host.cwd config.archiveDir ≠ "/" := fun hr =>
      hdir (hr ▸ isDirectory_root t _)
    rw [dir_eq_home hroot] at hfresh
    exact absurd hd
      (not_isDirectory_of_isFresh hn.isStep hn.2.2.1 (openPieces_home hcwd hroot) hfresh)

/-- A directory that is in the archive directory when the download has ended was there from the
start, or was made on a detour. -/
theorem isDirectory_of_downloaded {n : String} (hn : IsName n)
    (hu : t.createDirs a.host.cwd (dir a.host.cwd config.archiveDir) = (.ok (), u))
    (hv : a.FillsOutput config u v)
    (he : v.findLink a.host.cwd (Path.join (home a.host.cwd config.archiveDir) n) =
      .ok .directory) :
    t.isDirectory a.host.cwd (Path.join (home a.host.cwd config.archiveDir) n) ∨
      a.Detours config t :=
  isDirectory_of_createDirs_dir hcwd hn hu (isDirectory_of_fills hcwd hn
    (isDirectory_of_createDirs_isNormal (isNormal_dir _ hcwd) hu) hv he)

/-! ## Main statement -/

/-- A fetch that fails, for whatever reason, leaves nothing at the place of its download where
nothing was before. There are two exceptions: the download stays if it was complete and a directory
kept it from its place, and a directory stays that was made because the archive directory's path has
`..`. Nothing changes where there is no working directory to see a relative path from. -/
theorem leftovers_of_error (hdown : ∀ u, a.FillsOutput config u (a.run config u).files)
    (hnone : t.exists? a.host.cwd (a.output config) = false)
    (h : (a.outcome config t).result = .error f) :
    a.Leaves config t (a.outcome config t).files f := by
  rw [Attempt.outcome] at h ⊢
  have hf := fetched config a.project a.policy a.host hcwd t
  generalize (fetch config a.project a.policy).outcome a.host t = o at h hf ⊢
  have hn := ProjectId.isName_partialName a.project
  have hnew : ¬ t.isDirectory a.host.cwd (a.output config) := by
    intro hd
    obtain ⟨l, hf⟩ := isDirectory_iff_find.mp hd
    cases (exists?_iff_find.mpr ⟨l, _, hf⟩).symm.trans hnone
  have hdirectory {u v : FileTree}
      (hu : t.createDirs a.host.cwd (dir a.host.cwd config.archiveDir) = (.ok (), u))
      (hv : a.FillsOutput config u v)
      (he : v.findLink a.host.cwd (a.output config) = .ok .directory) : a.Leaves config t v f :=
    .directory ((isDirectory_of_downloaded hcwd hn hu hv he).resolve_left hnew) he
  cases hf with
  | pathless hstart => exact .pathless (Except.error.inj h).symm hstart rfl
  | reused => cases h
  | @homeless fault u hu =>
    -- Nothing can be looked up in a directory that is not there.
    refine .nothing fun e he => ?_
    rw [output_eq] at he
    obtain ⟨l, hs, -, -⟩ := (findLink_join_iff hn).mp he
    exact createDirs_eq_error (isNormal_dir _ hcwd) hu
      (isDirectory_of_spot (isNormal_home _ hcwd) hn.isStep hs)
  | @failed u v f' ended removed hu hr hf' hv =>
    have hfill : a.FillsOutput config u ended.files := hr ▸ hdown u
    by_cases hc : ∃ e, v.findLink a.host.cwd (a.output config) = .ok e
    · obtain ⟨e, he⟩ := hc
      rw [output_eq] at he
      obtain ⟨rfl, rfl⟩ := findLink_of_removeFile hn hv he
      exact hdirectory hu hfill he
    · exact .nothing fun e he => hc ⟨e, he⟩
  | @ended u v ended moved hu hr hs hv =>
    have hfill : a.FillsOutput config u ended.files := hr ▸ hdown u
    rw [Call.perform_rename] at hv
    split at hv
    · obtain ⟨rfl, -⟩ := Prod.mk.inj hv
      cases h
    · rename_i fault hm
      obtain ⟨rfl, rfl⟩ := Prod.mk.inj hv
      cases h
      by_cases hc : ∃ e, ended.files.findLink a.host.cwd (a.output config) = .ok e
      · obtain ⟨e, he⟩ := hc
        by_cases hne : e = .directory
        · exact hdirectory hu hfill (hne ▸ he)
        · have hplace := ProjectId.isName_archiveName a.project
          rw [output_eq] at he
          obtain ⟨rfl, hd⟩ := findLink_of_rename hn hplace
            a.project.utf8ByteSize_archiveName_le he hne hm
          exact .download rfl (isDirectory_of_downloaded hcwd hplace hu hfill hd) he hne
      · exact .nothing fun e he => hc ⟨e, he⟩

end Attempt

/-! ## A download that fails, and one that cannot be moved -/

/-- A download of one byte to the root, and how it ends. -/
def byteAttempt (status : UInt8) : Attempt where
  host := .plain fun _ t =>
    match t.write [] (partialPlace [] "." lang10) "x".toUTF8 with
    | .ok u => ⟨.ok (.exited status), u, "", ""⟩
    | .error _ => ⟨.ok (.exited 1), t, "", ""⟩
  project := lang10
  policy := .cached

theorem fillsOutput_byteAttempt (status : UInt8) (t : FileTree) :
    (byteAttempt status).FillsOutput Config.default t
      ((byteAttempt status).run Config.default t).files := by
  simp only [Attempt.run, byteAttempt, Host.plain]
  split
  · rename_i u hu
    exact .of_write (a := byteAttempt status) hu
  · exact .refl _ _ _

theorem nothing_left_of_failed_byte :
    ((byteAttempt 1).run Config.default .empty).files.isFile [] "/Lang-10.tar.gz.part" ∧
      (byteAttempt 1).Leaves Config.default .empty
        ((byteAttempt 1).outcome Config.default .empty).files
        (.ofCause (.toolFailed "download" (.exited 1))) :=
  ⟨by decide +kernel, Attempt.leftovers_of_error nofun (fillsOutput_byteAttempt 1)
    (by decide +kernel) (by decide +kernel)⟩

/-- A whole download that a directory keeps from its place stays where it is. -/
theorem download_left_by_error :
    ¬ ∀ (config : Config) (a : Attempt) (t : FileTree) (f : Failure),
      (∀ n ∈ a.host.cwd, IsName n) → (∀ u, a.FillsOutput config u (a.run config u).files) →
        t.exists? a.host.cwd (a.output config) = false →
          (a.outcome config t).result = .error f →
            ∀ e, (a.outcome config t).files.findLink a.host.cwd (a.output config) ≠ .ok e := by
  intro h
  exact h Config.default (byteAttempt 0) (FileTree.empty.putAt ["Lang-10.tar.gz"] .directory)
    (.during (.movingDownload "/Lang-10.tar.gz") (.file .isDirectory)) nofun
    (fillsOutput_byteAttempt 0) (by decide +kernel) (by decide +kernel)
    (.file "x".toUTF8 false none) (by decide +kernel)

end BenchCheckout.Archive
