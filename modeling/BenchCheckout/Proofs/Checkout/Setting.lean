import BenchCheckout.Proofs.Checkout.Stages
import BenchCheckout.Proofs.Files.Plain

/-!
# The setting of a checkout

What the statements about checkouts ask of paths and children, and where the checkout, the staging
directory and the archive are.

* `Checkout.Paths`: no `..`, and the archive lies outside of what a checkout removes.
* `Checkout.Children`: the downloader writes its output alone, and the extractor in the staging
  directory alone.
* `Path.IsPlain`: names with slashes between, as exclusions are written.
-/

namespace BenchCheckout

/-! ## Names with slashes between -/

namespace Path

variable {p q n : String}

/-- Names with slashes between. -/
def IsPlain (p : String) : Prop :=
  ∃ ns : List String, p = "/".intercalate ns ∧
    ∀ n ∈ ns, n ≠ "" ∧ n ≠ "." ∧ n ≠ ".." ∧ '/' ∉ n.toList

theorem pieces_intercalate {ns : List String} (h : ns ≠ []) (hs : ∀ n ∈ ns, '/' ∉ n.toList) :
    pieces ("/".intercalate ns) = ns := by
  induction ns with
  | nil => exact absurd rfl h
  | cons n ns ih =>
    have hn : pieces n = [n] := by simp [pieces, cut_of_not_mem (hs n List.mem_cons_self)]
    cases ns with
    | nil => simpa using hn
    | cons m ns =>
      have ih := ih (by simp) fun k hk => hs k (List.mem_cons_of_mem n hk)
      have hj : "/".intercalate (n :: m :: ns) = n ++ "/" ++ "/".intercalate (m :: ns) := by
        simp [String.intercalate_cons_cons, String.append_assoc]
      rw [hj, pieces_append_slash, hn, ih, List.singleton_append]

theorem pieces_foldl_join {ns : List String} (h : ns ≠ []) (hns : ∀ n ∈ ns, IsStep n) :
    pieces (ns.foldl join q) = openPieces q ++ ns := by
  induction ns generalizing q with
  | nil => exact absurd rfl h
  | cons n ns ih =>
    have hn := hns n List.mem_cons_self
    have hp : pieces (join q n) = openPieces q ++ [n] := by
      rw [pieces_join hn.startsAtRoot_eq, hn.pieces_eq]
    cases ns with
    | nil => exact hp
    | cons m ns =>
      rw [List.foldl_cons, ih (by simp) fun k hk => hns k (List.mem_cons_of_mem n hk),
        openPieces_of_not (join_ne_empty hn) (endsWithSlash_join hn), hp, List.append_assoc,
        List.singleton_append]

namespace IsPlain

theorem startsAtRoot_eq (h : IsPlain p) : startsAtRoot p = false := by
  obtain ⟨ns, rfl, hns⟩ := h
  rw [Bool.eq_false_iff, ne_eq, startsAtRoot_iff]
  rintro ⟨m, ms, hm⟩
  cases ns with
  | nil => simp [String.intercalate, pieces_empty] at hm
  | cons n ns =>
    rw [pieces_intercalate (by simp) fun k hk => (hns k hk).2.2.2] at hm
    exact (hns n List.mem_cons_self).1 (List.cons.inj hm).1

theorem not_mem_steps (h : IsPlain p) : ".." ∉ steps p := by
  obtain ⟨ns, rfl, hns⟩ := h
  intro hup
  cases ns with
  | nil => exact absurd hup (by decide)
  | cons n ns =>
    rw [mem_steps, pieces_intercalate (by simp) fun k hk => (hns k hk).2.2.2] at hup
    exact (hns _ hup.1).2.2.1 rfl

/-- Names below something that ends in a name end in a name. A slash comes behind it only if there
are no names. -/
theorem ends_join (h : IsPlain p) (hn : IsStep n) :
    ∃ q' m, Ends (join (join q n) p) q' m ∧
      (endsWithSlash (join (join q n) p) = true → steps p = []) := by
  obtain ⟨ns, rfl, hns⟩ := h
  have hsteps : ∀ m ∈ ns, IsStep m := fun m hm =>
    ⟨(hns m hm).2.2.2, by simp [isIdle, (hns m hm).1, (hns m hm).2.1]⟩
  by_cases h0 : ns = []
  · subst h0
    refine ⟨q, n, ⟨hn, .inr ?_⟩, fun _ => by decide⟩
    show join (join q n) "" = _
    rw [join, if_neg (by decide), if_neg (by simp [join_ne_empty hn, endsWithSlash_join hn])]
    simp
  · obtain ⟨ms, m, rfl⟩ : ∃ ms m, ns = ms ++ [m] :=
      ⟨_, _, (List.dropLast_concat_getLast h0).symm⟩
    have hp : IsPlain ("/".intercalate (ms ++ [m])) := ⟨_, rfl, hns⟩
    have hm := hsteps m (by simp)
    have hj : join (join q n) ("/".intercalate (ms ++ [m])) =
        join (ms.foldl join (join q n)) m := by
      refine pieces_injective ?_
      rw [pieces_join hp.startsAtRoot_eq, pieces_intercalate h0 fun k hk => (hns k hk).2.2.2,
        ← pieces_foldl_join h0 hsteps, List.foldl_append, List.foldl_cons, List.foldl_nil]
    rw [hj]
    refine ⟨_, m, Path.ends_join hm, fun hs => ?_⟩
    rw [endsWithSlash_join hm] at hs
    cases hs

end IsPlain

end Path

/-! ## Paths and children -/

namespace Checkout

variable (host : Host) (config : Config) (project : ProjectId) (workspace : String)

/-- The paths of a checkout are good: no `..` in what the user and the config say, and the archive
is neither in the checkout's place nor in the staging directory. -/
structure Paths : Prop where
  isName_cwd : ∀ n ∈ host.cwd, IsName n
  workspace_up : ".." ∉ Path.steps workspace
  archiveDir_up : ".." ∉ Path.steps config.archiveDir
  outside_dest : ¬ host.cwd.along (place workspace project) <+:
    host.cwd.along (Archive.place host.cwd config.archiveDir project)
  outside_staging : ¬ host.cwd.along (staging workspace project) <+:
    host.cwd.along (Archive.place host.cwd config.archiveDir project)

/-- The downloader changes nothing but its output. -/
def DownloadsToOutput : Prop :=
  ∀ t, t.SymlinkFree →
    (host.launch (Archive.downloadJob config project host.cwd) t).files.SymlinkFree ∧
    ∀ k, ¬ host.cwd.along (Archive.partialPlace host.cwd config.archiveDir project) <+: k →
      (host.launch (Archive.downloadJob config project host.cwd) t).files.get? k = t.get? k

/-- The job that unpacks a project's archive. -/
def unpackJob : Job :=
  Archive.extractJob config (Archive.place host.cwd config.archiveDir project)
    (staging workspace project)

/-- The extractor changes nothing but what lies at the staging directory or below it. -/
def ExtractsToStaging : Prop :=
  ∀ t, t.SymlinkFree →
    (host.launch (unpackJob host config project workspace) t).files.SymlinkFree ∧
    ∀ k, ¬ host.cwd.along (staging workspace project) <+: k →
      (host.launch (unpackJob host config project workspace) t).files.get? k = t.get? k

variable {host config project workspace}

theorem along_dest : host.cwd.along (place workspace project) =
    host.cwd.along workspace ++ [project.dirName] :=
  Location.along_join_step project.isName_dirName.isStep

theorem along_staging : host.cwd.along (staging workspace project) =
    host.cwd.along workspace ++ [project.stagingName] :=
  Location.along_join_step project.isName_stagingName.isStep

theorem ends_dest : Path.Ends (place workspace project) workspace project.dirName :=
  Path.ends_join project.isName_dirName.isStep

theorem ends_staging : Path.Ends (staging workspace project) workspace project.stagingName :=
  Path.ends_join project.isName_stagingName.isStep

theorem not_staging_prefix_dest : ¬ host.cwd.along (staging workspace project) <+:
    host.cwd.along (place workspace project) := by
  rw [along_staging, along_dest, List.prefix_append_right_inj]
  intro h
  obtain ⟨j, hj⟩ := h
  exact project.dirName_ne_stagingName project (List.cons.inj hj).1.symm

theorem not_dest_prefix_staging : ¬ host.cwd.along (place workspace project) <+:
    host.cwd.along (staging workspace project) := by
  rw [along_staging, along_dest, List.prefix_append_right_inj]
  intro h
  obtain ⟨j, hj⟩ := h
  exact project.dirName_ne_stagingName project (List.cons.inj hj).1

theorem dest_up (project : ProjectId) (h : ".." ∉ Path.steps workspace) :
    ".." ∉ Path.steps (place workspace project) :=
  ends_dest.up_not_mem_steps h project.isName_dirName.2.2.1

theorem staging_up (project : ProjectId) (h : ".." ∉ Path.steps workspace) :
    ".." ∉ Path.steps (staging workspace project) :=
  ends_staging.up_not_mem_steps h project.isName_stagingName.2.2.1

/-! ## A small host -/

/-- What an archive of the files `10/a` and `10/b` unpacks to in the directory at `l`. -/
def unpackedAt (l : Location) (t : FileTree) : FileTree :=
  ((t.put l "10" .directory).put (l ++ ["10"]) "a" (.file "a".toUTF8 false none)).put
    (l ++ ["10"]) "b" (.file "b".toUTF8 false none)

theorem get?_unpackedAt {l k : Location} (t : FileTree) (h : ¬ l ++ ["10"] <+: k) :
    (unpackedAt l t).get? k = t.get? k := by
  have hne (m : String) : k ≠ l ++ ["10"] ++ [m] := fun hk => h (hk ▸ List.prefix_append _ _)
  rw [unpackedAt, FileTree.get?_put_of_ne _ (hne "b"), FileTree.get?_put_of_ne _ (hne "a"),
    FileTree.get?_put_of_ne _ fun hk => h (hk ▸ List.prefix_refl _)]

/-- The extractor unpacks that archive in the staging directory and ends with `status`. Nothing else
can be done. -/
def smallLaunch (status : ExitStatus) (job : Job) (t : FileTree) : Run :=
  if job.cwd = "w/.Lang_10.extract" then ⟨.ok status, unpackedAt ["w", ".Lang_10.extract"] t, "", ""⟩
  else ⟨.ok (.exited 1), t, "", ""⟩

def smallHost (status : ExitStatus) : Host := .plain (smallLaunch status)

/-- A host whose children succeed and do nothing. -/
def idleHost : Host := .plain fun _ t => ⟨.ok (.exited 0), t, "", ""⟩

/-- The file `b` is left out. -/
def smallConfig : Config := { Config.default with exclusions := [⟨"Lang", "b"⟩] }

/-- A workspace, and an archive in the cache. -/
def smallTree : FileTree :=
  (FileTree.empty.put [] "w" .directory).put [] "Lang-10.tar.gz" (.file "z".toUTF8 false none)

theorem symlinkFree_smallTree : smallTree.SymlinkFree :=
  (FileTree.symlinkFree_empty.put (by simp)).put (by simp)

theorem isPlain_smallConfig : ∀ e ∈ smallConfig.exclusions, Path.IsPlain e.path := by
  intro e he
  rw [List.mem_singleton.mp he]
  exact ⟨["b"], rfl, by decide⟩

theorem paths_small (status : ExitStatus) : Paths (smallHost status) smallConfig lang10 "w" where
  isName_cwd := nofun
  workspace_up := by decide +kernel
  archiveDir_up := by decide +kernel
  outside_dest := by
    show ¬ Location.along [] (place "w" lang10) <+: Location.along [] (Archive.place [] "." lang10)
    decide +kernel
  outside_staging := by
    show ¬ Location.along [] (staging "w" lang10) <+: Location.along [] (Archive.place [] "." lang10)
    decide +kernel

theorem launch_download_small (status : ExitStatus) (t : FileTree) :
    (smallHost status).launch (Archive.downloadJob smallConfig lang10 (smallHost status).cwd) t =
      ⟨.ok (.exited 1), t, "", ""⟩ := by
  show smallLaunch status (Archive.downloadJob smallConfig lang10 []) t = _
  rw [smallLaunch, if_neg (by decide +kernel)]

theorem launch_unpack_small (status : ExitStatus) (t : FileTree) :
    (smallHost status).launch (unpackJob (smallHost status) smallConfig lang10 "w") t =
      ⟨.ok status, unpackedAt ["w", ".Lang_10.extract"] t, "", ""⟩ := by
  have h : (unpackJob (smallHost status) smallConfig lang10 "w").cwd = "w/.Lang_10.extract" := by
    show staging "w" lang10 = _
    decide +kernel
  show smallLaunch status (unpackJob (smallHost status) smallConfig lang10 "w") t = _
  rw [smallLaunch, if_pos h]

theorem along_staging_small (status : ExitStatus) :
    (smallHost status).cwd.along (staging "w" lang10) = ["w", ".Lang_10.extract"] := by
  show Location.along [] (staging "w" lang10) = _
  decide +kernel

theorem downloads_small (status : ExitStatus) :
    DownloadsToOutput (smallHost status) smallConfig lang10 := by
  intro t ht
  rw [launch_download_small]
  exact ⟨ht, fun _ _ => rfl⟩

theorem extracts_small (status : ExitStatus) :
    ExtractsToStaging (smallHost status) smallConfig lang10 "w" := by
  intro t ht
  rw [launch_unpack_small, along_staging_small]
  refine ⟨((ht.put (by simp)).put (by simp)).put (by simp),
    fun k hk => get?_unpackedAt t fun hc => hk ?_⟩
  exact (List.prefix_append _ ["10"]).trans hc

end Checkout

end BenchCheckout
