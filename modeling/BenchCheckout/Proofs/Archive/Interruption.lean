import BenchCheckout.Proofs.Archive.Fetching
import BenchCheckout.Proofs.Files.Directories

/-!
# Downloads that are cut short

Attempts to fetch archives follow each other, of any projects, and each may be stopped at any
moment. At every moment an archive's place has no file but what was there before all attempts and
whole archives of the very project.

Links may be anywhere in the trees. All that is asked of a downloader is `Attempt.Honest`.

* `Attempt.keeps_of_stops`: what one attempt preserves, wherever it stops.
* `Reached.keeps`: what attempts in a row preserve.
* `Attempt.get?_of_error`: an attempt that fails.
-/

namespace BenchCheckout.Archive

open FileTree

/-- One run of `fetch`, on a host of its own. -/
structure Attempt where
  host : Host
  project : ProjectId
  policy : ArchivePolicy

namespace Attempt

variable (config : Config) (a : Attempt)

def outcome (t : FileTree) : Outcome String :=
  (fetch config a.project a.policy).outcome a.host t

/-- What the attempt's downloader does. -/
def run (t : FileTree) : Run := a.host.launch (downloadJob config a.project a.host.cwd) t

/-- The path that the attempt's downloader writes to. -/
def output : String := partialPlace a.host.cwd config.archiveDir a.project

/-- `u` is `t` but for the entry at the output. -/
def WritesOutput (t u : FileTree) : Prop :=
  ∀ k, (∀ s, t.spot a.host.cwd (a.output config) = .ok s → k ≠ s.location) → u.get? k = t.get? k

/-- The downloader writes only at its output, and where it succeeds the output is a file with
everything that is to be had from the url. -/
structure Honest (whole : String → ByteArray → Prop) : Prop where
  isName_cwd : ∀ n ∈ a.host.cwd, IsName n
  writes : ∀ t, a.WritesOutput config t (a.run config t).files
  completes : ∀ t, (a.run config t).outcome = .ok (.exited 0) →
    ∃ s bytes x number, (a.run config t).files.spot a.host.cwd (a.output config) = .ok s ∧
      (a.run config t).files.get? s.location = some (.file bytes x number) ∧
      whole (a.project.archiveUrl config.archiveBaseUrl) bytes

/-- The files after events. -/
def filesAfter (t : FileTree) : List Event → FileTree
  | [] => t
  | e :: es => filesAfter e.files es

/-- The files that an attempt can leave if it is stopped: between two of its steps or behind the
last, in the middle of the creation of directories, or in the middle of the download. -/
inductive Stops (t : FileTree) : FileTree → Prop where
  | between {done rest : List Event} (h : (a.outcome config t).history = done ++ rest) :
    Stops t (filesAfter t done)
  | creating {done rest : List Event} {p : String} {r : Except Fault Unit} {v : FileTree} (n : Nat)
    (h : (a.outcome config t).history = done ++ .changed (.createDirs p) r v :: rest) :
    Stops t (createDirsAlong a.host.cwd ((ancestors p).drop n) (filesAfter t done)).2
  | downloading {done rest : List Event} {job : Job} {r : Except Fault ExitStatus} {u v : FileTree}
    (h : (a.outcome config t).history = done ++ .launched job r v :: rest)
    (hu : a.WritesOutput config (filesAfter t done) u) : Stops t u

end Attempt

/-- The files at any moment of attempts that begin with the files `t`. -/
inductive Reached (config : Config) (whole : String → ByteArray → Prop) (t : FileTree) :
    FileTree → Prop where
  | start : Reached config whole t t
  | stop {u v : FileTree} (a : Attempt) (h : Reached config whole t u)
    (ha : a.Honest config whole) (hs : a.Stops config u v) : Reached config whole t v

/-- A file with an archive's name in `u` is one of `t`, or a whole archive of the project that it is
named after. -/
def Keeps (config : Config) (whole : String → ByteArray → Prop) (t u : FileTree) : Prop :=
  ∀ (l : Location) (p : ProjectId) bytes x number,
    u.get? (l ++ [p.archiveName]) = some (.file bytes x number) →
      t.get? (l ++ [p.archiveName]) = some (.file bytes x number) ∨
        whole (p.archiveUrl config.archiveBaseUrl) bytes

variable {config : Config} {whole : String → ByteArray → Prop} {a : Attempt} {t u v : FileTree}

namespace Keeps

theorem refl (config : Config) (whole : String → ByteArray → Prop) (t : FileTree) :
    Keeps config whole t t := fun _ _ _ _ _ h => .inl h

theorem trans (h : Keeps config whole t u) (h' : Keeps config whole u v) :
    Keeps config whole t v := by
  intro l p bytes x number hv
  rcases h' l p bytes x number hv with hu | hw
  · exact h l p bytes x number hu
  · exact .inr hw

theorem of_get?_eq (h : ∀ (l : Location) (p : ProjectId),
    u.get? (l ++ [p.archiveName]) = t.get? (l ++ [p.archiveName])) : Keeps config whole t u :=
  fun l p _ _ _ hu => .inl (h l p ▸ hu)

theorem of_addsDirectories {allowed : Location → Prop} (h : AddsDirectories allowed t u) :
    Keeps config whole t u := by
  intro l p bytes x number hu
  rcases h (l ++ [p.archiveName]) with h | ⟨-, -, hd⟩
  · exact .inl (h ▸ hu)
  · rw [hu] at hd
    cases hd

end Keeps

/-! ## What each step preserves -/

/-- The entry at an output has no archive's name. -/
theorem location_ne_of_spot_output {s : Spot} (h : t.spot a.host.cwd (a.output config) = .ok s)
    (l : Location) (p : ProjectId) : l ++ [p.archiveName] ≠ s.location := by
  obtain ⟨-, -, hlast, -⟩ := (spot_ends_iff (ends_partialPlace _ _ a.project)).mp h
  intro hl
  obtain ⟨-, hn⟩ := List.append_inj' hl rfl
  rw [hlast] at hn
  exact ProjectId.archiveName_ne_partialName p a.project (List.singleton_inj.mp hn)

theorem Attempt.WritesOutput.get?_archive (h : a.WritesOutput config t u) (l : Location)
    (p : ProjectId) : u.get? (l ++ [p.archiveName]) = t.get? (l ++ [p.archiveName]) :=
  h _ fun _ hs => location_ne_of_spot_output hs l p

theorem get?_archive_of_removeFile {r : Except Fault Unit}
    (h : Call.perform a.host.cwd (.removeFile (a.output config)) t = (r, u)) (l : Location)
    (p : ProjectId) : u.get? (l ++ [p.archiveName]) = t.get? (l ++ [p.archiveName]) := by
  rw [Call.perform_removeFile] at h
  cases hr : t.removeFile a.host.cwd (a.output config) with
  | error fault =>
    rw [hr] at h
    rw [(Prod.mk.inj h).2]
  | ok v =>
    rw [hr] at h
    obtain rfl := (Prod.mk.inj h).2
    obtain ⟨s, e, hs, -, -, -, -, hu⟩ := removeFile_eq_ok hr
    rw [hu, if_neg (location_ne_of_spot_output hs l p)]

/-- A move into place brings the archive that was downloaded, and no other. -/
theorem keeps_of_rename {s : Spot} {bytes : ByteArray} {x : Bool} {number : Option Nat}
    {r : Except Fault Unit} (hs : t.spot a.host.cwd (a.output config) = .ok s)
    (he : t.get? s.location = some (.file bytes x number))
    (hw : whole (a.project.archiveUrl config.archiveBaseUrl) bytes)
    (h : Call.perform a.host.cwd
      (.rename (a.output config) (place a.host.cwd config.archiveDir a.project)) t = (r, u)) :
    Keeps config whole t u := by
  rw [Call.perform_rename] at h
  cases hr : t.rename a.host.cwd (a.output config)
    (place a.host.cwd config.archiveDir a.project) with
  | error fault =>
    rw [hr] at h
    rw [(Prod.mk.inj h).2]
    exact .refl _ _ _
  | ok v =>
    rw [hr] at h
    obtain rfl := (Prod.mk.inj h).2
    obtain ⟨s', b, e, hs', hb, -, -, he', -, -, -, hu⟩ := rename_eq_ok hr
    obtain rfl := Except.ok.inj (hs.symm.trans hs')
    rcases hu with ⟨-, rfl⟩ | ⟨-, -, hu⟩
    · exact .refl _ _ _
    intro l p bytes' x' number' hfile
    rw [hu] at hfile
    obtain ⟨-, -, hlast, -⟩ := (spot_ends_iff
      (Path.ends_join (ProjectId.isName_archiveName a.project).isStep)).mp hb
    split at hfile
    · rename_i hp
      obtain ⟨j, hj⟩ := hp
      rw [← hj, List.drop_left] at hfile
      by_cases hj0 : j = []
      · -- The move's own place.
        subst hj0
        rw [List.append_nil] at hfile hj
        rw [he] at hfile
        cases hfile
        obtain ⟨-, hn⟩ := List.append_inj' hj rfl
        rw [hlast] at hn
        obtain rfl := ProjectId.archiveName_injective (List.singleton_inj.mp hn)
        exact .inr hw
      · rw [get?_below_of_ne_directory (by simp [he]) hj0] at hfile
        cases hfile
    · split at hfile
      · cases hfile
      · exact .inl hfile

/-- Each event takes one tree of a row to the next. -/
def Chain (R : FileTree → FileTree → Prop) : FileTree → List Event → Prop
  | _, [] => True
  | t, e :: es => R t e.files ∧ Chain R e.files es

theorem Chain.keeps {done rest : List Event}
    (h : Chain (Keeps config whole) t (done ++ rest)) :
    Keeps config whole t (Attempt.filesAfter t done) := by
  induction done generalizing t with
  | nil => exact .refl _ _ _
  | cons e done ih => exact h.1.trans (ih h.2)

/-- Every step of an attempt keeps archives. -/
theorem Attempt.Honest.chain (ha : a.Honest config whole) (t : FileTree) :
    Chain (Keeps config whole) t (a.outcome config t).history := by
  have hcreate {r u} (h : t.createDirs a.host.cwd (dir a.host.cwd config.archiveDir) = (r, u)) :
      Keeps config whole t u := by
    have := createDirs_adds t a.host.cwd (dir a.host.cwd config.archiveDir)
    rw [h] at this
    exact .of_addsDirectories this
  rw [Attempt.outcome]
  have hf := fetched config a.project a.policy a.host ha.isName_cwd t
  generalize (fetch config a.project a.policy).outcome a.host t = o at hf ⊢
  cases hf with
  | pathless | reused => exact True.intro
  | homeless hu => exact ⟨hcreate hu, True.intro⟩
  | failed hu hr hf hv =>
    subst hr
    exact ⟨hcreate hu, .of_get?_eq (ha.writes _).get?_archive,
      .of_get?_eq (get?_archive_of_removeFile hv), True.intro⟩
  | ended hu hr hs hv =>
    subst hr
    obtain ⟨s, bytes, x, number, hspot, he, hw⟩ := ha.completes _ hs
    exact ⟨hcreate hu, .of_get?_eq (ha.writes _).get?_archive, keeps_of_rename hspot he hw hv,
      True.intro⟩

/-- Wherever an attempt stops, it keeps archives. -/
theorem Attempt.keeps_of_stops (ha : a.Honest config whole) (h : a.Stops config t u) :
    Keeps config whole t u := by
  have hchain := ha.chain t
  cases h with
  | between h =>
    rw [h] at hchain
    exact hchain.keeps
  | creating n h =>
    rw [h] at hchain
    exact hchain.keeps.trans (.of_addsDirectories (createDirsAlong_adds_any _ _ _))
  | downloading h hu =>
    rw [h] at hchain
    exact hchain.keeps.trans (.of_get?_eq hu.get?_archive)

/-- Attempts in a row keep archives. -/
theorem Reached.keeps (h : Reached config whole t u) : Keeps config whole t u := by
  induction h with
  | start => exact .refl _ _ _
  | stop a _ ha hs ih => exact ih.trans (Attempt.keeps_of_stops ha hs)

/-! ## Attempts that fail -/

/-- The entry at an output lies in the archive directory. -/
theorem dir_eq_of_spot {s : Spot} {l : Location} {n : String} (hcwd : ∀ n ∈ a.host.cwd, IsName n)
    (hn : IsName n) (hroot : dir a.host.cwd config.archiveDir ≠ "/")
    (hl : t.walk linkLimit (a.host.cwd.start (dir a.host.cwd config.archiveDir))
      (Path.pieces (dir a.host.cwd config.archiveDir)) = .ok (.found l))
    (h : t.spot a.host.cwd (Path.join (home a.host.cwd config.archiveDir) n) = .ok s) :
    s.dir = l := by
  rw [dir_eq_home hroot] at hl
  exact spot_dir_eq hn.isStep (openPieces_home hcwd hroot) h hl

/-- What was in a fresh archive directory's tree is there after a download that failed. -/
theorem get?_of_isFresh (ha : a.Honest config whole)
    (hroot : dir a.host.cwd config.archiveDir ≠ "/")
    (hfresh : IsFresh t u a.host.cwd (dir a.host.cwd config.archiveDir))
    {k : Location} {e : Entry} (he : u.get? k = some e) :
    (a.run config u).files.get? k = some e := by
  obtain ⟨d, hw, -, -, hempty⟩ := hfresh
  rw [ha.writes u k fun s hs => ?_, he]
  rintro rfl
  rw [Attempt.output, partialPlace] at hs
  rw [Spot.location, dir_eq_of_spot ha.isName_cwd (ProjectId.isName_partialName _) hroot hw hs,
    hempty _ (by simp)] at he
  cases he

/-- An attempt that fails changes nothing, or leaves all archives' places alone, apart from making the
archive directory. -/
theorem Attempt.get?_of_error {f : Failure} (ha : a.Honest config whole)
    (h : (a.outcome config t).result = .error f) :
    (a.outcome config t).files = t ∨
      ∃ r u, t.createDirs a.host.cwd (dir a.host.cwd config.archiveDir) = (r, u) ∧
      (∀ (l : Location) (p : ProjectId), (a.outcome config t).files.get? (l ++ [p.archiveName]) =
        u.get? (l ++ [p.archiveName])) ∧
      (r ≠ .ok () → (a.outcome config t).files = u) ∧
      (IsFresh t u a.host.cwd (dir a.host.cwd config.archiveDir) →
        dir a.host.cwd config.archiveDir ≠ "/" →
        ∀ k e, u.get? k = some e → (a.outcome config t).files.get? k = some e) := by
  rw [Attempt.outcome] at h ⊢
  have hf := fetched config a.project a.policy a.host ha.isName_cwd t
  generalize (fetch config a.project a.policy).outcome a.host t = o at h hf ⊢
  cases hf with
  | pathless => exact .inl rfl
  | reused => cases h
  | homeless hu => exact .inr ⟨_, _, hu, fun _ _ => rfl, fun _ => rfl, fun _ _ _ _ he => he⟩
  | @failed u v f ended removed hu hr hf hv =>
    subst hr
    refine .inr ⟨_, _, hu, fun l p => ?_, fun hne => absurd rfl hne, fun hfresh hroot k e he => ?_⟩
    · rw [get?_archive_of_removeFile hv]
      exact (ha.writes u).get?_archive l p
    · have hrun := fun k e (he : u.get? k = some e) => get?_of_isFresh ha hroot hfresh he
      rw [Call.perform_removeFile] at hv
      split at hv
      · rename_i w hw
        obtain rfl := (Prod.mk.inj hv).2
        obtain ⟨s, -, hs, -, -, -, -, hw⟩ := removeFile_eq_ok hw
        obtain ⟨d, hd, -, -, hempty⟩ := hfresh
        rw [hw, if_neg]
        · exact hrun k e he
        rintro rfl
        rw [Spot.location, dir_eq_of_spot ha.isName_cwd (ProjectId.isName_partialName _) hroot
          (walk_mono hrun hd) hs, hempty _ (by simp)] at he
        cases he
      · rw [← (Prod.mk.inj hv).2]
        exact hrun k e he
  | @ended u v ended moved hu hr hs hv =>
    subst hr
    rw [Call.perform_rename] at hv
    split at hv
    · obtain ⟨rfl, -⟩ := Prod.mk.inj hv
      cases h
    · rw [← (Prod.mk.inj hv).2]
      exact .inr ⟨_, _, hu, (ha.writes u).get?_archive, fun hne => absurd rfl hne,
        fun hfresh hroot _ _ he => get?_of_isFresh ha hroot hfresh he⟩

/-- Where the archive directory was there or is written without `..`, an attempt that fails leaves
what is at an archive's path. -/
theorem Attempt.get?_spot_of_error {f : Failure} {p : ProjectId} {s : Spot}
    (ha : a.Honest config whole) (h : (a.outcome config t).result = .error f)
    (hs : t.spot a.host.cwd (place a.host.cwd config.archiveDir p) = .ok s ∨
      (".." ∉ Path.steps config.archiveDir ∧ (a.outcome config t).files.spot a.host.cwd
        (place a.host.cwd config.archiveDir p) = .ok s)) :
    (a.outcome config t).files.get? s.location = t.get? s.location := by
  rcases Attempt.get?_of_error ha h with hfiles | ⟨r, u, hu, hslots, herror, hfresh⟩
  · rw [hfiles]
  have hnormal := isNormal_dir config.archiveDir ha.isName_cwd
  have hhome := isNormal_home config.archiveDir ha.isName_cwd
  have hstep := (ProjectId.isName_archiveName p).isStep
  have hlast {v : FileTree} (hv : v.spot a.host.cwd (place a.host.cwd config.archiveDir p) = .ok s) :
      s.location = s.dir ++ [p.archiveName] := by
    obtain ⟨-, -, hlast, -⟩ := (spot_ends_iff (Path.ends_join hstep)).mp hv
    rw [Spot.location, hlast]
  rcases hs with hs | ⟨hup, hs⟩
  · have hd := isDirectory_of_spot hhome hstep hs
    rw [← dir] at hd
    rw [createDirs_of_isDirectory hd] at hu
    obtain ⟨rfl, rfl⟩ := Prod.mk.inj hu
    rw [hlast hs, hslots]
  cases r with
  | error fault =>
    have hd := isDirectory_of_spot hhome hstep hs
    rw [herror (by simp)] at hd
    exact absurd hd (createDirs_eq_error hnormal hu)
  | ok =>
    rcases createDirs_eq_ok hnormal (up_not_mem_steps_dir ha.isName_cwd hup) hu with rfl | hnew
    · rw [hlast hs, hslots]
    · have hroot : dir a.host.cwd config.archiveDir ≠ "/" := by
        intro hr
        rw [hr, createDirs_root] at hu
        obtain ⟨d, -, hnone, hd, -⟩ := hnew
        rw [(Prod.mk.inj hu).2, hd] at hnone
        cases hnone
      have hmono := hfresh hnew hroot
      obtain ⟨d, hw, hnone, -, hempty⟩ := hnew
      have hd := dir_eq_of_spot ha.isName_cwd (ProjectId.isName_archiveName p) hroot
        (walk_mono hmono hw) hs
      rw [hlast hs, hslots, hd, hempty _ (by simp),
        get?_eq_none_of_isPrefix hnone (List.prefix_append _ _)]

/-! ## Main statements -/

/-- At every moment of attempts in a row, a file at an archive's path is one from before them all or
a whole archive of the path's project. An attempt that fails leaves what is at archives' paths; only
where the archive directory had to be made and is written with `..` a new directory may be at one.
An attempt that may use an archive that is there does nothing else; a relative archive directory has
to be seen from a working directory that is there. -/
theorem archives_whole_at_every_moment {t₀ : FileTree} (h : Reached config whole t₀ t) :
    (∀ (cwd : Location) (p : ProjectId) (s : Spot) bytes x number,
      t.spot cwd (place cwd config.archiveDir p) = .ok s →
        t.get? s.location = some (.file bytes x number) →
          t₀.get? s.location = some (.file bytes x number) ∨
            whole (p.archiveUrl config.archiveBaseUrl) bytes) ∧
    (∀ (a : Attempt) (f : Failure), a.Honest config whole →
      (a.outcome config t).result = .error f →
        (∀ (p : ProjectId) (s : Spot),
          (t.spot a.host.cwd (place a.host.cwd config.archiveDir p) = .ok s ∨
            ".." ∉ Path.steps config.archiveDir ∧ (a.outcome config t).files.spot a.host.cwd
              (place a.host.cwd config.archiveDir p) = .ok s) →
            (a.outcome config t).files.get? s.location = t.get? s.location) ∧
        ∀ (l : Location) (p : ProjectId),
          (a.outcome config t).files.get? (l ++ [p.archiveName]) =
              t.get? (l ++ [p.archiveName]) ∨
            t.get? (l ++ [p.archiveName]) = none ∧
              (a.outcome config t).files.get? (l ++ [p.archiveName]) = some .directory) ∧
    ∀ a : Attempt, (∀ n ∈ a.host.cwd, IsName n) → a.policy = .cached →
      t.hasStart a.host.cwd config.archiveDir →
      t.isFile a.host.cwd (place a.host.cwd config.archiveDir a.project) →
        a.outcome config t = ⟨.ok (place a.host.cwd config.archiveDir a.project), t, []⟩ := by
  refine ⟨fun cwd p s bytes x number hs he => ?_, fun a f ha herror => ⟨fun p s hs =>
    Attempt.get?_spot_of_error ha herror hs, fun l p => ?_⟩, fun a hcwd hc hstart hp => ?_⟩
  · obtain ⟨-, -, hlast, -⟩ := (spot_ends_iff
      (Path.ends_join (ProjectId.isName_archiveName p).isStep)).mp hs
    rw [Spot.location, hlast] at he ⊢
    exact h.keeps s.dir p bytes x number he
  · rcases Attempt.get?_of_error ha herror with hfiles | ⟨r, u, hu, hslots, -, -⟩
    · rw [hfiles]
      exact .inl rfl
    have hadds := createDirs_adds t a.host.cwd (dir a.host.cwd config.archiveDir)
    rw [hu] at hadds
    rw [hslots]
    exact (hadds _).imp_right fun h => h.2
  · rw [Attempt.outcome, outcome_fetch config a.project a.policy a.host hcwd hstart,
      if_pos ⟨hc, hp⟩]
    rfl

/-! ## A download that succeeds and one that fails -/

/-- A file that holds the url it comes from. -/
def urlFile : Entry := .file (lang10.archiveUrl Config.default.archiveBaseUrl).toUTF8 false none

/-- A download of that file to the root, where it is new. -/
def downloadToRoot (t : FileTree) : Run :=
  if t.CanPut [] lang10.partialName urlFile then
    ⟨.ok (.exited 0), t.put [] lang10.partialName urlFile, "", ""⟩
  else ⟨.ok (.exited 1), t, "", ""⟩

def goodAttempt : Attempt := ⟨.plain fun _ => downloadToRoot, lang10, .cached⟩

theorem spot_partialPlace_root (t : FileTree) :
    t.spot [] (partialPlace [] "." lang10) = .ok ⟨[], lang10.partialName, false⟩ := by
  refine (spot_ends_iff (ends_partialPlace [] "." lang10)).mpr
    ⟨checkPath_eq_ok_iff.mpr ⟨by decide +kernel, by decide +kernel, by decide +kernel, ?_⟩, ?_, rfl,
      by decide +kernel⟩
  · exact t.get?_root
  · rw [show Path.openPieces (home [] ".") = [""] by decide +kernel]
    simp [linkLimit, walk, follow, show Path.isIdle "" by decide, Location.start]

theorem honest_goodAttempt :
    goodAttempt.Honest Config.default fun url bytes => bytes = url.toUTF8 where
  isName_cwd := nofun
  writes t k hk := by
    have hk := hk _ (spot_partialPlace_root t)
    show (downloadToRoot t).files.get? k = _
    unfold downloadToRoot
    split
    · rename_i h
      exact (get?_put h k).trans (if_neg hk)
    · rfl
  completes t ht := by
    have ht : (downloadToRoot t).outcome = .ok (.exited 0) := ht
    refine ⟨_, _, false, none, spot_partialPlace_root _, ?_, rfl⟩
    show (downloadToRoot t).files.get? _ = _
    unfold downloadToRoot at ht ⊢
    split at ht
    · rename_i h
      rw [if_pos h]
      exact (get?_put h _).trans (if_pos rfl)
    · cases ht

/-- A download that fails and writes nothing. -/
def badAttempt (policy : ArchivePolicy) : Attempt :=
  ⟨.plain fun _ t => ⟨.ok (.exited 1), t, "", ""⟩, lang10, policy⟩

theorem honest_badAttempt (config : Config) (whole : String → ByteArray → Prop)
    (policy : ArchivePolicy) : (badAttempt policy).Honest config whole :=
  ⟨nofun, fun _ _ _ => rfl, fun _ => nofun⟩

theorem archive_whole_after_download :
    ∃ t, Reached Config.default (fun url bytes => bytes = url.toUTF8) .empty t ∧
      t.get? ["Lang-10.tar.gz"] = some urlFile ∧
      (FileTree.empty.get? ["Lang-10.tar.gz"] = some urlFile ∨
        (lang10.archiveUrl Config.default.archiveBaseUrl).toUTF8 =
          (lang10.archiveUrl Config.default.archiveBaseUrl).toUTF8) ∧
      ((badAttempt .transient).outcome Config.default t).files.get? ["Lang-10.tar.gz"] =
        some urlFile ∧
      goodAttempt.outcome Config.default t = ⟨.ok "/Lang-10.tar.gz", t, []⟩ := by
  have hreached := Reached.stop goodAttempt (t := .empty) .start honest_goodAttempt
    (.between (List.append_nil _).symm)
  have hfile : (Attempt.filesAfter .empty (goodAttempt.outcome Config.default .empty).history).get?
    ["Lang-10.tar.gz"] = some urlFile := by decide +kernel
  obtain ⟨hwhole, herror, hcached⟩ := archives_whole_at_every_moment hreached
  refine ⟨_, hreached, hfile, hwhole [] lang10 ⟨[], "Lang-10.tar.gz", false⟩ _ _ _
    (by decide +kernel) hfile, ?_, ?_⟩
  · obtain ⟨hslot, -⟩ := herror (badAttempt .transient)
      (.ofCause (.toolFailed "download" (.exited 1))) (honest_badAttempt _ _ _) (by decide +kernel)
    rw [← hfile]
    exact hslot lang10 ⟨[], "Lang-10.tar.gz", false⟩ (.inl (by decide +kernel))
  · have hplace : place [] Config.default.archiveDir lang10 = "/Lang-10.tar.gz" := by decide +kernel
    rw [← hplace]
    exact hcached goodAttempt nofun rfl (by decide +kernel) (by decide +kernel)

/-- An attempt that fails can make a directory at its own archive's path. -/
theorem directory_at_archive_after_error :
    ¬ ∀ (config : Config) (whole : String → ByteArray → Prop) (a : Attempt) (t : FileTree)
        (f : Failure) (p : ProjectId) (s : Spot),
      a.Honest config whole → (a.outcome config t).result = .error f →
        (a.outcome config t).files.spot a.host.cwd (place a.host.cwd config.archiveDir p) = .ok s →
          (a.outcome config t).files.get? s.location = t.get? s.location := by
  intro h
  have := h { Config.default with archiveDir := "Lang-10.tar.gz/.." } (fun _ _ => True)
    (badAttempt .cached) .empty (.ofCause (.toolFailed "download" (.exited 1))) lang10
    ⟨[], "Lang-10.tar.gz", false⟩ (honest_badAttempt _ _ _) (by decide +kernel) (by decide +kernel)
  revert this
  decide +kernel

end BenchCheckout.Archive
