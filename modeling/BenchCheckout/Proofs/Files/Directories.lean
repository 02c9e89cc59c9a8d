import BenchCheckout.Proofs.Files.Changes
import BenchCheckout.Proofs.Files.Walks

/-!
# New directories

`createDirs` only ever adds directories where nothing was (`createDirs_adds`). Links may be on the
way; that the result is fresh needs a path without `..`.

* `createDirs_of_isDirectory`: a directory that exists needs no creation.
* `createDirs_eq_ok`: a directory that had to be created is empty.
* `isDirectory_of_createDirs_isNormal`, `createDirs_eq_error`: where the creation succeeds there is a
  directory, and where it fails there is none.
-/

namespace BenchCheckout

namespace FileTree

variable {t u v : FileTree} {cwd here l : Location} {p q n : String}

/-! ## Adding directories -/

/-- `u` is `t` with more directories, at places that are allowed. -/
def AddsDirectories (allowed : Location → Prop) (t u : FileTree) : Prop :=
  ∀ k, u.get? k = t.get? k ∨ (allowed k ∧ t.get? k = none ∧ u.get? k = some .directory)

namespace AddsDirectories

variable {allowed other : Location → Prop}

theorem refl (allowed : Location → Prop) (t : FileTree) : AddsDirectories allowed t t :=
  fun _ => .inl rfl

theorem trans (h : AddsDirectories allowed t u) (h' : AddsDirectories allowed u v) :
    AddsDirectories allowed t v := by
  intro k
  rcases h' k with h' | ⟨ha, hn, hd⟩
  · rcases h k with h | ⟨ha, hn, hd⟩
    · exact .inl (h'.trans h)
    · exact .inr ⟨ha, hn, h'.trans hd⟩
  · rcases h k with h | ⟨-, -, hd'⟩
    · exact .inr ⟨ha, h ▸ hn, hd⟩
    · rw [hn] at hd'
      cases hd'

theorem mono (h : AddsDirectories allowed t u) (hi : ∀ k, allowed k → other k) :
    AddsDirectories other t u :=
  fun k => (h k).imp_right fun ⟨ha, hn, hd⟩ => ⟨hi k ha, hn, hd⟩

theorem get?_of_some (h : AddsDirectories allowed t u) {k : Location} {e : Entry}
    (he : t.get? k = some e) : u.get? k = some e := by
  rcases h k with h | ⟨-, hn, -⟩
  · rw [h, he]
  · rw [he] at hn
    cases hn

theorem get?_of_not (h : AddsDirectories allowed t u) {k : Location} (hk : ¬ allowed k) :
    u.get? k = t.get? k :=
  (h k).resolve_right fun h => hk h.1

theorem symlinkFree (h : AddsDirectories allowed t u) (ht : t.SymlinkFree) : u.SymlinkFree := by
  intro k target hk
  rcases h k with h | ⟨-, -, hd⟩
  · exact ht k target (h ▸ hk)
  · rw [hk] at hd
    cases hd

end AddsDirectories

/-- A directory is created at a place that was free. -/
theorem createDir_eq_ok (h : t.createDir cwd p = .ok u) :
    ∃ s, t.spot cwd p = .ok s ∧ IsName s.last ∧ s.last.utf8ByteSize ≤ nameLimit ∧
      t.get? s.location = none ∧
      ∀ k, u.get? k = if k = s.location then some .directory else t.get? k := by
  unfold createDir at h
  obtain ⟨s, hs, h⟩ := bind_eq_ok.mp h
  split at h
  · cases h
  rename_i hname
  have hname := Classical.not_not.mp hname
  obtain ⟨found, hl, h⟩ := bind_eq_ok.mp h
  obtain ⟨hfit, rfl⟩ := lookUp_eq_ok hl
  cases he : t.get? s.location with
  | some e => rw [he] at h; cases h
  | none =>
    rw [he] at h
    cases h
    exact ⟨s, hs, hname, hfit, he, get?_put ⟨hname, get?_dir_of_spot hs, fun _ => rfl⟩⟩

/-- The ways in which creating a directory and those above it can go. -/
theorem createDirsAlong_cons (cwd : Location) (p : String) (above : List String) (t : FileTree)
    (hp : p ≠ "") :
    (∃ u, t.createDir cwd p = .ok u ∧ createDirsAlong cwd (p :: above) t = (.ok (), u)) ∨
    (∃ fault, t.createDir cwd p = .error fault ∧ fault ≠ .noEntry ∧
      createDirsAlong cwd (p :: above) t =
        (if t.isDirectory cwd p then .ok () else .error fault, t)) ∨
    (∃ fault u, t.createDir cwd p = .error .noEntry ∧
      createDirsAlong cwd above t = (.error fault, u) ∧
      createDirsAlong cwd (p :: above) t = (.error fault, u)) ∨
    (∃ u v, t.createDir cwd p = .error .noEntry ∧ createDirsAlong cwd above t = (.ok (), u) ∧
      u.createDir cwd p = .ok v ∧ createDirsAlong cwd (p :: above) t = (.ok (), v)) ∨
    (∃ u fault, t.createDir cwd p = .error .noEntry ∧ createDirsAlong cwd above t = (.ok (), u) ∧
      u.createDir cwd p = .error fault ∧
      createDirsAlong cwd (p :: above) t =
        (if u.isDirectory cwd p then .ok () else .error fault, u)) := by
  rw [createDirsAlong, if_neg hp]
  cases hc : t.createDir cwd p with
  | ok u => exact .inl ⟨u, rfl, rfl⟩
  | error fault =>
    by_cases hf : fault = .noEntry
    · subst hf
      refine .inr (.inr ?_)
      rcases h : createDirsAlong cwd above t with ⟨r, u⟩
      cases r with
      | error fault => exact .inl ⟨fault, u, rfl, rfl, rfl⟩
      | ok =>
        refine .inr ?_
        cases hv : u.createDir cwd p with
        | ok v => exact .inl ⟨u, v, rfl, rfl, hv, by simp [hv]⟩
        | error fault =>
          refine .inr ⟨u, fault, rfl, rfl, hv, ?_⟩
          simp only [hv]
          split <;> rfl
    · refine .inr (.inl ⟨fault, rfl, hf, ?_⟩)
      cases fault <;> first | exact absurd rfl hf | (simp only; split <;> rfl)

/-- Creating directories adds directories, at the entries that the paths name. `good` is what is
known of the trees on the way. -/
theorem createDirsAlong_adds {allowed : Location → Prop} (good : FileTree → Prop)
    (hgood : ∀ t u, good t → AddsDirectories allowed t u → good u) {ps : List String}
    (hps : ∀ t p s, good t → p ∈ ps → t.spot cwd p = .ok s → IsName s.last → allowed s.location)
    (ht : good t) : AddsDirectories allowed t (createDirsAlong cwd ps t).2 := by
  have hcreate {t u : FileTree} {p : String} (ht : good t) (hp : p ∈ ps)
      (h : t.createDir cwd p = .ok u) : AddsDirectories allowed t u := by
    obtain ⟨s, hs, hn, -, hnone, hu⟩ := createDir_eq_ok h
    intro k
    rw [hu k]
    by_cases hk : k = s.location
    · rw [if_pos hk, hk]
      exact .inr ⟨hps t p s ht hp hs hn, hnone, rfl⟩
    · rw [if_neg hk]
      exact .inl rfl
  induction ps generalizing t with
  | nil => exact .refl _ _
  | cons p above ih =>
    have ih' := ih (fun t q s ht hq => hps t q s ht (List.mem_cons_of_mem p hq)) ht
      (fun ht hq h => hcreate ht (List.mem_cons_of_mem p hq) h)
    by_cases hp : p = ""
    · rw [createDirsAlong, if_pos hp]
      exact .refl _ _
    rcases createDirsAlong_cons cwd p above t hp with ⟨u, hu, h⟩ | ⟨fault, -, -, h⟩ |
      ⟨fault, u, -, hu, h⟩ | ⟨u, v, -, hu, hv, h⟩ | ⟨u, fault, -, hu, -, h⟩
    · rw [h]
      exact hcreate ht List.mem_cons_self hu
    · rw [h]
      exact .refl _ _
    · rw [h]
      simpa [hu] using ih'
    · rw [hu] at ih'
      rw [h]
      exact ih'.trans (hcreate (hgood _ _ ht ih') List.mem_cons_self hv)
    · rw [hu] at ih'
      rw [h]
      exact ih'

theorem createDirsAlong_adds_any (t : FileTree) (cwd : Location) (ps : List String) :
    AddsDirectories (fun _ => True) t (createDirsAlong cwd ps t).2 :=
  createDirsAlong_adds (fun _ => True) (fun _ _ _ _ => trivial) (fun _ _ _ _ _ _ _ => trivial)
    trivial

theorem createDirs_adds (t : FileTree) (cwd : Location) (p : String) :
    AddsDirectories (fun _ => True) t (t.createDirs cwd p).2 :=
  createDirsAlong_adds_any t cwd _

/-- The paths above a path lack its last step. -/
theorem ancestors_eq_cons (p : String) :
    ∃ above, ancestors p = p :: above ∧ ∀ q ∈ above,
      Path.steps q <+: (Path.steps p).dropLast ∧ Path.startsAtRoot q = Path.startsAtRoot p := by
  unfold ancestors
  generalize (Path.pieces p).length = fuel
  induction fuel generalizing p with
  | zero => exact ⟨[], rfl, by simp⟩
  | succ fuel ih =>
    rw [ancestors.go]
    cases hr : Path.parent? p with
    | none => exact ⟨[], rfl, by simp⟩
    | some r =>
      obtain ⟨above, hgo, habove⟩ := ih r
      obtain ⟨hsteps, hroot⟩ := Path.steps_parent? hr
      refine ⟨_, rfl, fun q hq => ?_⟩
      simp only [hgo] at hq
      rcases List.mem_cons.mp hq with rfl | hq
      · exact ⟨hsteps, hroot⟩
      · obtain ⟨hq1, hq2⟩ := habove q hq
        exact ⟨(hq1.trans (List.dropLast_prefix _)).trans hsteps, hq2.trans hroot⟩

theorem resolve_of_isDirectory (h : t.isDirectory cwd p) :
    ∃ l, t.resolve cwd p = .ok (.found l) ∧ t.get? l = some .directory :=
  (isDirectory_iff_find.mp h).imp fun _ hf => find_eq_ok.mp hf

theorem checkPath_of_resolve {place : Place} (h : t.resolve cwd p = .ok place) :
    t.checkPath cwd p = .ok () := by
  unfold resolve at h
  obtain ⟨_, hc, -⟩ := bind_eq_ok.mp h
  exact hc

/-- Where something is, no directory can be created, but the place can be looked up. -/
theorem createDir_of_resolve (h : t.resolve cwd p = .ok (.found l)) :
    ∃ fault, t.createDir cwd p = .error fault ∧ fault ≠ .noEntry := by
  obtain ⟨s, hs, hn⟩ := spot_of_resolve h
  unfold createDir
  rw [hs]
  simp only [bind, Except.bind]
  by_cases hname : IsName s.last
  · obtain ⟨e, he⟩ := hn hname
    rw [if_neg (Classical.not_not.mpr hname), lookUp]
    by_cases hfit : nameLimit < s.last.utf8ByteSize
    · rw [if_pos hfit]
      exact ⟨_, rfl, nofun⟩
    · rw [if_neg hfit, he]
      exact ⟨_, rfl, nofun⟩
  · rw [if_pos hname]
    exact ⟨_, rfl, nofun⟩

/-- A directory that exists needs no creation. -/
theorem createDirsAlong_of_isDirectory (h : t.isDirectory cwd p) (above : List String) :
    createDirsAlong cwd (p :: above) t = (.ok (), t) := by
  obtain ⟨l, hr, -⟩ := resolve_of_isDirectory h
  have hp : p ≠ "" := (checkPath_eq_ok_iff.mp (checkPath_of_resolve hr)).1
  obtain ⟨fault, hf, hne⟩ := createDir_of_resolve hr
  rw [createDirsAlong, if_neg hp, hf]
  cases fault <;> first | exact absurd rfl hne | simp [h]

theorem createDirs_of_isDirectory (h : t.isDirectory cwd p) :
    t.createDirs cwd p = (.ok (), t) := by
  obtain ⟨above, ha, -⟩ := ancestors_eq_cons p
  rw [createDirs, ha, createDirsAlong_of_isDirectory h]

/-! ## Directories that had to be created -/

theorem isDirectory_iff_walk :
    t.isDirectory cwd p ↔
      t.checkPath cwd p = .ok () ∧
      ∃ l, t.walk linkLimit (cwd.start p) (Path.pieces p) = .ok (.found l) ∧
        t.get? l = some .directory := by
  simp only [isDirectory_iff_find, find_iff_walk, exists_and_left]

theorem isDirectory_root (t : FileTree) (cwd : Location) : t.isDirectory cwd "/" := by
  refine isDirectory_iff_walk.mpr ⟨?_, [], ?_, t.get?_root⟩
  · exact checkPath_eq_ok_iff.mpr ⟨by decide, by decide, by decide, by simp [Location.start,
      show Path.startsAtRoot "/" by decide]⟩
  · have hs : cwd.start "/" = [] := by simp [Location.start, show Path.startsAtRoot "/" by decide]
    rw [hs, show Path.pieces "/" = ["", ""] by decide]
    simp [linkLimit, walk, follow, show Path.isIdle "" by decide]

theorem isDirectory_doubleRoot (t : FileTree) (cwd : Location) : t.isDirectory cwd "//" := by
  refine isDirectory_iff_walk.mpr ⟨?_, [], ?_, t.get?_root⟩
  · exact checkPath_eq_ok_iff.mpr ⟨by decide, by decide, by decide, by simp [Location.start,
      show Path.startsAtRoot "//" by decide]⟩
  · have hs : cwd.start "//" = [] := by simp [Location.start, show Path.startsAtRoot "//" by decide]
    rw [hs, show Path.pieces "//" = ["", "", ""] by decide]
    simp [linkLimit, walk, follow, show Path.isIdle "" by decide]

/-- Where a path in a directory can be looked up, the directory exists. -/
theorem isDirectory_of_spot {s : Spot} (hq : Path.IsNormal q) (hn : Path.IsStep n)
    (h : t.spot cwd (Path.join q n) = .ok s) :
    t.isDirectory cwd (if q = "//" then "/" else q) := by
  rcases hq.openPieces_eq with rfl | rfl | ho
  · exact isDirectory_root t cwd
  · exact isDirectory_root t cwd
  have hne : q ≠ "//" := by
    rintro rfl
    exact absurd ho (by decide)
  obtain ⟨hc, hw, -, -⟩ := (spot_ends_iff (Path.ends_join hn)).mp h
  rw [if_neg hne]
  rw [ho] at hw
  have hstart : cwd.start (Path.join q n) = cwd.start q := by
    rw [Location.start, Path.startsAtRoot_join hn.startsAtRoot_eq]
    rfl
  rw [hstart] at hw
  exact isDirectory_iff_walk.mpr
    ⟨checkPath_of_join hq.ne_empty hn hc, s.dir, walk_of_concat hw, get?_dir_of_spot h⟩

/-- In a directory that exists any path can be looked up. -/
theorem spot_of_isDirectory_join (hq : Path.IsNormal q) (hn : Path.IsStep n)
    (hc : t.checkPath cwd (Path.join q n) = .ok ())
    (hd : t.isDirectory cwd (if q = "//" then "/" else q)) :
    ∃ s, t.spot cwd (Path.join q n) = .ok s := by
  suffices ∃ l, t.walk linkLimit (cwd.start q) (Path.openPieces q ++ [""]) = .ok (.found l) by
    obtain ⟨l, hw⟩ := this
    have hstart : cwd.start (Path.join q n) = cwd.start q := by
      rw [Location.start, Path.startsAtRoot_join hn.startsAtRoot_eq]
      rfl
    exact ⟨⟨l, n, _⟩, (spot_ends_iff (Path.ends_join hn)).mpr ⟨hc, hstart ▸ hw, rfl, rfl⟩⟩
  have hstart : cwd.start q = [] := by rw [Location.start, if_pos hq.startsAtRoot_eq]
  have hroot : t.walk linkLimit [] ([] ++ [""] ++ [""]) = .ok (.found []) :=
    walk_concat_empty t.get?_root (walk_concat_empty t.get?_root rfl)
  rcases hq.openPieces_eq with rfl | rfl | ho
  · rw [hstart, show Path.openPieces "/" = [""] by decide]
    exact ⟨[], hroot⟩
  · rw [hstart, show Path.openPieces "//" = ["", ""] by decide]
    exact ⟨[], walk_concat_empty t.get?_root hroot⟩
  · have hne : q ≠ "//" := by
      rintro rfl
      exact absurd ho (by decide)
    rw [if_neg hne] at hd
    obtain ⟨-, l, hw, hl⟩ := isDirectory_iff_walk.mp hd
    rw [ho]
    exact ⟨l, walk_concat_empty hl hw⟩

theorem ancestors_join (hq : Path.IsNormal q) (hn : Path.IsStep n) :
    ancestors (Path.join q n) = Path.join q n :: ancestors (if q = "//" then "/" else q) := by
  have hp : Path.pieces (Path.join q n) = Path.openPieces q ++ [n] := by
    rw [Path.pieces_join hn.startsAtRoot_eq, hn.pieces_eq]
  have hroot (k : Nat) : ancestors.go k "/" = ["/"] := by
    cases k <;> simp [ancestors.go, show Path.parent? "/" = none by decide]
  rw [ancestors, ancestors, hp, List.length_append, List.length_singleton, ancestors.go,
    Path.parent?_join hq hn]
  simp only
  rcases hq.openPieces_eq with rfl | rfl | ho
  · simp [hroot]
  · simp [hroot]
  · have hne : q ≠ "//" := by
      rintro rfl
      exact absurd ho (by decide)
    rw [if_neg hne, ho]

/-- A walk leads to one place. -/
theorem spot_dir_eq {s : Spot} (hn : Path.IsStep n) (ho : Path.openPieces q = Path.pieces q)
    (h : t.spot cwd (Path.join q n) = .ok s)
    (hl : t.walk linkLimit (cwd.start q) (Path.pieces q) = .ok (.found l)) : s.dir = l := by
  obtain ⟨-, hw, -, -⟩ := (spot_ends_iff (Path.ends_join hn)).mp h
  have hstart : cwd.start (Path.join q n) = cwd.start q := by
    rw [Location.start, Path.startsAtRoot_join hn.startsAtRoot_eq]
    rfl
  have := walk_of_concat (ho ▸ hstart ▸ hw)
  rw [hl] at this
  exact (Place.found.inj (Except.ok.inj this)).symm

theorem isName_of_checkPath (hn : Path.IsStep n) (hup : n ≠ "..")
    (h : t.checkPath cwd (Path.join q n) = .ok ()) : IsName n := by
  obtain ⟨-, hz, -, -⟩ := checkPath_eq_ok_iff.mp h
  obtain ⟨s, hs⟩ := Path.toList_join (a := q) hn
  have hi : n ≠ "" ∧ n ≠ "." := by simpa [Path.isIdle] using hn.2
  exact ⟨hi.1, hi.2, hup, hn.1, fun h => hz (by simp [hs, h])⟩

/-- A path leads to the directory that was created at it. -/
theorem walk_of_createDir {s : Spot} (hn : Path.IsStep n)
    (hs : t.spot cwd (Path.join q n) = .ok s) (hname : IsName s.last)
    (hfit : s.last.utf8ByteSize ≤ nameLimit) (ht : t.get? s.location = none)
    (hu : ∀ k, u.get? k = if k = s.location then some .directory else t.get? k) :
    u.walk linkLimit (cwd.start (Path.join q n)) (Path.pieces (Path.join q n)) =
      .ok (.found s.location) := by
  have htu : ∀ k e, t.get? k = some e → u.get? k = some e := by
    intro k e he
    rw [hu k, if_neg (by rintro rfl; rw [ht] at he; cases he), he]
  obtain ⟨-, hw, rfl, -⟩ := (spot_ends_iff (Path.ends_join hn)).mp hs
  rw [Path.pieces_join hn.startsAtRoot_eq, hn.pieces_eq]
  exact walk_concat hname hfit (by rw [hu]; exact if_pos rfl) (walk_mono htu hw)

theorem isDirectory_of_createDir_join (hn : Path.IsStep n)
    (h : t.createDir cwd (Path.join q n) = .ok u) : u.isDirectory cwd (Path.join q n) := by
  obtain ⟨s, hs, hname, hfit, hnone, hu⟩ := createDir_eq_ok h
  obtain ⟨hc, -, -, -⟩ := (spot_ends_iff (Path.ends_join hn)).mp hs
  obtain ⟨hne, hz, hsize, hstart⟩ := checkPath_eq_ok_iff.mp hc
  refine isDirectory_iff_walk.mpr ⟨checkPath_eq_ok_iff.mpr ⟨hne, hz, hsize, ?_⟩, s.location,
    walk_of_createDir hn hs hname hfit hnone hu, by rw [hu, if_pos rfl]⟩
  rw [hu]
  split
  · rfl
  · exact hstart

/-- `u` has an empty directory at `p`, and `t` had nothing there. -/
def IsFresh (t u : FileTree) (cwd : Location) (p : String) : Prop :=
  ∃ d, u.walk linkLimit (cwd.start p) (Path.pieces p) = .ok (.found d) ∧ t.get? d = none ∧
    u.get? d = some .directory ∧ ∀ k, k ≠ [] → u.get? (d ++ k) = none

theorem isFresh_of_createDir (hn : Path.IsStep n)
    (htu : ∀ k e, t.get? k = some e → u.get? k = some e)
    (h : u.createDir cwd (Path.join q n) = .ok v) : IsFresh t v cwd (Path.join q n) := by
  obtain ⟨s, hs, hname, hfit, hnone, hv⟩ := createDir_eq_ok h
  refine ⟨s.location, walk_of_createDir hn hs hname hfit hnone hv, ?_, by rw [hv, if_pos rfl],
    fun k hk => ?_⟩
  · cases he : t.get? s.location with
    | none => rfl
    | some e => rw [htu _ _ he] at hnone; cases hnone
  · rw [hv, if_neg (by simpa using hk)]
    exact get?_eq_none_of_isPrefix hnone (List.prefix_append _ _)

/-- Nothing can be in a directory that was just created. -/
theorem not_isDirectory_of_isFresh (hn : Path.IsStep n) (hup : n ≠ "..")
    (ho : Path.openPieces q = Path.pieces q) (h : IsFresh t u cwd q) :
    ¬ u.isDirectory cwd (Path.join q n) := by
  intro hd
  obtain ⟨d, hw, -, -, hempty⟩ := h
  obtain ⟨l, hr, -⟩ := resolve_of_isDirectory hd
  obtain ⟨s, hs, hentry⟩ := spot_of_resolve hr
  obtain ⟨hc, -, hlast, -⟩ := (spot_ends_iff (Path.ends_join hn)).mp hs
  obtain ⟨e, he⟩ := hentry (hlast ▸ isName_of_checkPath hn hup hc)
  rw [Spot.location, spot_dir_eq hn ho hs hw, hempty _ (by simp)] at he
  cases he

theorem createDirs_root (t : FileTree) (cwd : Location) :
    t.createDirs cwd "/" = (.ok (), t) :=
  createDirs_of_isDirectory (isDirectory_root t cwd)

theorem createDirs_doubleRoot (t : FileTree) (cwd : Location) :
    t.createDirs cwd "//" = (.ok (), t) :=
  createDirs_of_isDirectory (isDirectory_doubleRoot t cwd)

/-- Creating a directory that did not exist makes a new one, with nothing in it. -/
theorem createDirs_eq_ok (hp : Path.IsNormal p) (hup : ".." ∉ Path.steps p)
    (h : t.createDirs cwd p = (.ok (), u)) : u = t ∨ IsFresh t u cwd p := by
  induction hp generalizing u with
  | root =>
    rw [createDirs_root] at h
    exact .inl (Prod.mk.inj h).2.symm
  | doubleRoot =>
    rw [createDirs_doubleRoot] at h
    exact .inl (Prod.mk.inj h).2.symm
  | @join q n hq hn ih =>
    rw [Path.steps_join hn.startsAtRoot_eq, hn.steps_eq] at hup
    have hupq : ".." ∉ Path.steps q := fun h => hup (List.mem_append_left _ h)
    have hupn : n ≠ ".." := fun h => hup (by simp [h])
    rw [createDirs, ancestors_join hq hn] at h
    have habove := createDirs_adds t cwd (if q = "//" then "/" else q)
    rw [createDirs] at habove
    rcases createDirsAlong_cons cwd (Path.join q n)
        (ancestors (if q = "//" then "/" else q)) t (Path.join_ne_empty hn) with
      ⟨v, hv, hr⟩ | ⟨fault, -, -, hr⟩ | ⟨fault, v, -, -, hr⟩ | ⟨w, v, -, hw, hv, hr⟩ |
      ⟨w, fault, hnone, hw, -, hr⟩ <;> rw [hr] at h
    · obtain rfl := (Prod.mk.inj h).2
      exact .inr (isFresh_of_createDir hn (fun _ _ he => he) hv)
    · exact .inl (Prod.mk.inj h).2.symm
    · cases (Prod.mk.inj h).1
    · obtain rfl := (Prod.mk.inj h).2
      rw [hw] at habove
      exact .inr (isFresh_of_createDir hn (fun _ _ he => habove.get?_of_some he) hv)
    · -- Something is there without having been created, so it was there from the start.
      obtain ⟨hok, rfl⟩ := Prod.mk.inj h
      have hd : w.isDirectory cwd (Path.join q n) := by
        refine Classical.byContradiction fun hc => ?_
        rw [if_neg hc] at hok
        cases hok
      obtain ⟨l, hl, -⟩ := resolve_of_isDirectory hd
      have hsame (hwt : w = t) : False := by
        obtain ⟨fault', hf, hne⟩ := createDir_of_resolve (hwt ▸ hl)
        rw [hf] at hnone
        exact hne (Except.error.inj hnone)
      rcases hq.openPieces_eq with rfl | rfl | ho
      · exact (hsame (Prod.mk.inj (hw.symm.trans (createDirs_root t cwd))).2).elim
      · exact (hsame (Prod.mk.inj (hw.symm.trans (createDirs_root t cwd))).2).elim
      · have hne : q ≠ "//" := by
          rintro rfl
          exact absurd ho (by decide)
        rw [if_neg hne] at hw
        rcases ih hupq hw with hwt | hfresh
        · exact (hsame hwt).elim
        · exact absurd hd (not_isDirectory_of_isFresh hn hupn ho hfresh)

/-- Where the creation of a directory succeeds there is one, if there is one where a path is created
in one step. -/
theorem isDirectory_of_createDirsAlong_cons {above : List String} (hp : p ≠ "")
    (hstep : ∀ v w, AddsDirectories (fun _ => True) t v → v.createDir cwd p = .ok w →
      w.isDirectory cwd p)
    (h : createDirsAlong cwd (p :: above) t = (.ok (), u)) : u.isDirectory cwd p := by
  have habove := createDirsAlong_adds_any t cwd above
  have hsettle {v : FileTree} {fault : Fault}
      (hv : (if v.isDirectory cwd p then .ok () else .error fault, v) =
        ((.ok (), u) : Except Fault Unit × FileTree)) : u.isDirectory cwd p := by
    obtain ⟨hr, rfl⟩ := Prod.mk.inj hv
    refine Classical.byContradiction fun hd => ?_
    rw [if_neg hd] at hr
    cases hr
  rcases createDirsAlong_cons cwd p above t hp with ⟨v, hv, hr⟩ | ⟨fault, -, -, hr⟩ |
    ⟨fault, v, -, -, hr⟩ | ⟨w, v, -, hw, hv, hr⟩ | ⟨w, fault, -, -, -, hr⟩ <;> rw [hr] at h
  · obtain rfl := (Prod.mk.inj h).2
    exact hstep _ _ (.refl _ _) hv
  · exact hsettle h
  · cases (Prod.mk.inj h).1
  · obtain rfl := (Prod.mk.inj h).2
    rw [hw] at habove
    exact hstep _ _ habove hv
  · exact hsettle h

theorem isDirectory_of_createDirs_isNormal (hp : Path.IsNormal p)
    (h : t.createDirs cwd p = (.ok (), u)) : u.isDirectory cwd p := by
  cases hp with
  | root => exact isDirectory_root u cwd
  | doubleRoot => exact isDirectory_doubleRoot u cwd
  | join hq hn =>
    rw [createDirs, ancestors_join hq hn] at h
    exact isDirectory_of_createDirsAlong_cons (Path.join_ne_empty hn)
      (fun _ _ _ hw => isDirectory_of_createDir_join hn hw) h

/-- Where the creation of a directory fails there is no directory. -/
theorem createDirs_eq_error {fault : Fault} (hp : Path.IsNormal p)
    (h : t.createDirs cwd p = (.error fault, u)) : ¬ u.isDirectory cwd p := by
  induction hp generalizing u fault with
  | root =>
    rw [createDirs_root] at h
    cases (Prod.mk.inj h).1
  | doubleRoot =>
    rw [createDirs_doubleRoot] at h
    cases (Prod.mk.inj h).1
  | @join q n hq hn ih =>
    rw [createDirs, ancestors_join hq hn] at h
    rcases createDirsAlong_cons cwd (Path.join q n)
        (ancestors (if q = "//" then "/" else q)) t (Path.join_ne_empty hn) with
      ⟨v, -, hr⟩ | ⟨fault, -, -, hr⟩ | ⟨fault, v, -, hw, hr⟩ | ⟨w, v, -, -, -, hr⟩ |
      ⟨w, fault, -, -, -, hr⟩ <;> rw [hr] at h
    · cases (Prod.mk.inj h).1
    · obtain ⟨hr, rfl⟩ := Prod.mk.inj h
      intro hd
      rw [if_pos hd] at hr
      cases hr
    · obtain ⟨-, rfl⟩ := Prod.mk.inj h
      intro hd
      obtain ⟨l, hl, -⟩ := resolve_of_isDirectory hd
      obtain ⟨s, hs, -⟩ := spot_of_resolve hl
      have hdq := isDirectory_of_spot hq hn hs
      rcases hq.openPieces_eq with rfl | rfl | ho
      · cases (Prod.mk.inj (hw.symm.trans (createDirs_root t cwd))).1
      · cases (Prod.mk.inj (hw.symm.trans (createDirs_root t cwd))).1
      · have hne : q ≠ "//" := by
          rintro rfl
          exact absurd ho (by decide)
        rw [if_neg hne] at hw hdq
        exact ih hw hdq
    · cases (Prod.mk.inj h).1
    · obtain ⟨hr, rfl⟩ := Prod.mk.inj h
      intro hd
      rw [if_pos hd] at hr
      cases hr

end FileTree

end BenchCheckout
