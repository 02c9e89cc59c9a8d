import BenchCheckout.Proofs.Files.Directories

/-!
# What stands at a path itself

`findLink` tells what the entry is that a path names, and follows no link at the path's end. A
removal and a move act on that entry, so what is left of it when they fail is told in its terms.

* `findLink_join_iff`: the entry of a name in a directory.
* `findLink_of_removeFile`: whatever a removal leaves at its path is a directory.
* `findLink_of_rename`: only a directory keeps a file from a place beside it.
-/

namespace BenchCheckout

namespace Path

/-- All paths in a directory begin with one text. -/
theorem exists_join_eq (q : String) : ∃ front, ∀ n, IsStep n → join q n = front ++ n := by
  by_cases h : q = "" ∨ endsWithSlash q
  · exact ⟨q, fun n hn => by rw [join, if_neg (by simp [hn.startsAtRoot_eq]), if_pos h]⟩
  · exact ⟨q ++ "/", fun n hn => by rw [join, if_neg (by simp [hn.startsAtRoot_eq]), if_neg h]⟩

end Path

namespace FileTree

variable {t u : FileTree} {cwd : Location} {p q n m : String} {s : Spot} {e : Entry} {fault : Fault}

/-- A path names the same entry in a larger tree. -/
theorem spot_grows (htu : t.Grows u) (hn : Path.IsStep n)
    (h : t.spot cwd (Path.join q n) = .ok s) : u.spot cwd (Path.join q n) = .ok s := by
  obtain ⟨hc, hw, hlast, hslash⟩ := (spot_ends_iff (Path.ends_join hn)).mp h
  obtain ⟨hne, hz, hsize, hstart⟩ := checkPath_eq_ok_iff.mp hc
  exact (spot_ends_iff (Path.ends_join hn)).mpr
    ⟨checkPath_eq_ok_iff.mpr ⟨hne, hz, hsize, htu.directory hstart⟩,
      walk_grows htu (fun _ _ hv => by cases hv) hw, hlast, hslash⟩

theorem findLink_join_iff (hn : IsName n) :
    t.findLink cwd (Path.join q n) = .ok e ↔
      ∃ dir, t.spot cwd (Path.join q n) = .ok ⟨dir, n, false⟩ ∧ n.utf8ByteSize ≤ nameLimit ∧
        t.get? (dir ++ [n]) = some e := by
  unfold findLink
  rw [bind_eq_ok]
  constructor
  · rintro ⟨⟨dir, last, slash⟩, hs, h⟩
    obtain ⟨-, -, hlast, hslash⟩ := (spot_ends_iff (Path.ends_join hn.isStep)).mp hs
    rw [Path.endsWithSlash_join hn.isStep] at hslash
    subst hlast hslash
    rw [if_pos ⟨hn, rfl⟩] at h
    obtain ⟨found, hl, h⟩ := bind_eq_ok.mp h
    obtain ⟨hfit, rfl⟩ := lookUp_eq_ok hl
    rw [Spot.location] at h
    refine ⟨dir, hs, hfit, ?_⟩
    cases he : t.get? (dir ++ [last]) with
    | none => rw [he] at h; cases h
    | some d =>
      rw [he] at h
      exact congrArg some (Except.ok.inj h)
  · rintro ⟨dir, hs, hfit, he⟩
    refine ⟨_, hs, ?_⟩
    rw [if_pos ⟨hn, rfl⟩, lookUp, if_neg (Nat.not_lt.mpr hfit), Spot.location, he]
    rfl

theorem isDirectory_of_findLink (hn : IsName n)
    (h : t.findLink cwd (Path.join q n) = .ok .directory) : t.isDirectory cwd (Path.join q n) := by
  obtain ⟨dir, hs, hfit, he⟩ := (findLink_join_iff hn).mp h
  obtain ⟨hc, hw, -, -⟩ := (spot_ends_iff (Path.ends_join hn.isStep)).mp hs
  refine isDirectory_iff_walk.mpr ⟨hc, dir ++ [n], ?_, he⟩
  rw [Path.pieces_join hn.isStep.startsAtRoot_eq, hn.isStep.pieces_eq]
  exact walk_concat hn hfit he hw

/-- What is left at the path of a removal is a directory, and then nothing was changed. -/
theorem findLink_of_removeFile {r : Except Fault Unit} (hn : IsName n)
    (h : Call.perform cwd (.removeFile (Path.join q n)) t = (r, u))
    (he : u.findLink cwd (Path.join q n) = .ok e) : e = .directory ∧ u = t := by
  rw [Call.perform_removeFile] at h
  obtain ⟨dir, hs, hfit, hd⟩ := (findLink_join_iff hn).mp he
  cases hr : t.removeFile cwd (Path.join q n) with
  | ok v =>
    rw [hr] at h
    obtain rfl := (Prod.mk.inj h).2
    obtain ⟨s, -, hs', -, -, -, -, hv⟩ := removeFile_eq_ok hr
    have hsub : v.Grows t := .of_get? fun k d hk => by
      rw [hv] at hk
      split at hk
      · cases hk
      · exact hk
    obtain rfl := Except.ok.inj ((spot_grows hsub hn.isStep hs).symm.trans hs')
    rw [hv, Spot.location, if_pos rfl] at hd
    cases hd
  | error fault =>
    rw [hr] at h
    obtain rfl := (Prod.mk.inj h).2
    refine ⟨?_, rfl⟩
    unfold removeFile at hr
    rw [hs] at hr
    simp only [bind, Except.bind, if_neg (Classical.not_not.mpr hn), lookUp,
      if_neg (Nat.not_lt.mpr hfit), Spot.location, hd] at hr
    cases e with
    | directory => rfl
    | file bytes executable number => cases hr
    | link target => cases hr

/-- The names in a directory are entries of it, the short ones where a long one is. -/
theorem spot_beside {dir : Location} (hn : Path.IsStep n) (hm : Path.IsStep m)
    (hz : '\x00' ∉ m.toList) (hle : m.utf8ByteSize ≤ n.utf8ByteSize)
    (h : t.spot cwd (Path.join q n) = .ok ⟨dir, n, false⟩) :
    t.spot cwd (Path.join q m) = .ok ⟨dir, m, false⟩ := by
  obtain ⟨hc, hw, -, -⟩ := (spot_ends_iff (Path.ends_join hn)).mp h
  obtain ⟨-, hzn, hsize, hstart⟩ := checkPath_eq_ok_iff.mp hc
  have hcwd : cwd.start (Path.join q n) = cwd.start (Path.join q m) := by
    rw [Location.start, Location.start, Path.startsAtRoot_join hm.startsAtRoot_eq,
      Path.startsAtRoot_join hn.startsAtRoot_eq]
  rw [hcwd] at hstart hw
  have hne := Path.join_ne_empty (a := q) hm
  refine (spot_ends_iff (Path.ends_join hm)).mpr ⟨checkPath_eq_ok_iff.mpr ⟨hne, ?_, ?_, hstart⟩,
    hw, rfl, (Path.endsWithSlash_join hm).symm⟩
  all_goals obtain ⟨front, hfront⟩ := Path.exists_join_eq q
  all_goals rw [hfront n hn] at hzn hsize
  · rw [String.toList_append, List.mem_append, not_or] at hzn
    rw [hfront m hm, String.toList_append, List.mem_append, not_or]
    exact ⟨hzn.1, hz⟩
  · rw [String.utf8ByteSize_append] at hsize
    rw [hfront m hm, String.utf8ByteSize_append]
    omega

/-- An entry that is no directory can be moved to another name beside it, unless a directory has
that name. -/
theorem findLink_of_rename (hn : IsName n) (hm : IsName m)
    (hle : m.utf8ByteSize ≤ n.utf8ByteSize) (he : t.findLink cwd (Path.join q n) = .ok e)
    (hne : e ≠ .directory)
    (h : t.rename cwd (Path.join q n) (Path.join q m) = .error fault) :
    fault = .isDirectory ∧ t.findLink cwd (Path.join q m) = .ok .directory := by
  obtain ⟨dir, hs, hfit, hd⟩ := (findLink_join_iff hn).mp he
  have hsm := spot_beside hn.isStep hm.isStep hm.2.2.2.2 hle hs
  have hfitm := Nat.le_trans hle hfit
  have hdir : e.isDirectory = false := by cases e <;> first | rfl | exact absurd rfl hne
  have hbeside (k : String) : ¬ dir ++ [k] <+: dir := by
    intro hp
    have hle := hp.length_le
    rw [List.length_append, List.length_singleton] at hle
    omega
  unfold rename at h
  simp only [hs, hsm, bind, Except.bind, hn, hm, not_true, or_self, if_false, lookUp,
    if_neg (Nat.not_lt.mpr hfit), if_neg (Nat.not_lt.mpr hfitm), Spot.location, hd, hdir,
    Bool.false_eq_true, and_false, hbeside] at h
  split at h
  · cases h
  -- What is left to go wrong is what the new name has already.
  unfold replaceFault at h
  cases ho : t.get? (dir ++ [m]) with
  | none => simp [ho] at h
  | some old =>
    cases old with
    | directory =>
      simp only [ho, hdir, Bool.false_eq_true, if_false, Except.error.injEq] at h
      exact ⟨h.symm, (findLink_join_iff hm).mpr ⟨dir, hsm, hfitm, ho⟩⟩
    | file bytes executable number => simp [ho, hdir] at h
    | link target => simp [ho, hdir] at h

end FileTree

end BenchCheckout
