import BenchCheckout.Proofs.Files.Links

/-!
# What changes do to a tree

The effect of each change on the entries, in any tree. Where a directory entry lies is told by
`FileTree.spot`, and links may be on the way to it.

* `removeFile_eq_ok`: one entry goes away, and it was no directory.
* `rename_eq_ok`: the new place has what was at the old one, and below it.
-/

namespace BenchCheckout

namespace FileTree

variable {t u v : FileTree} {cwd here l : Location} {p : String}

theorem lookUp_eq_ok {s : Spot} {e : Option Entry} (h : t.lookUp s = .ok e) :
    s.last.utf8ByteSize ≤ nameLimit ∧ e = t.get? s.location := by
  unfold lookUp at h
  split at h
  · cases h
  · rename_i hs
    cases h
    exact ⟨Nat.le_of_not_lt hs, rfl⟩

/-! ## Removing one entry -/

theorem removeFile_eq_ok (h : t.removeFile cwd p = .ok u) :
    ∃ s e, t.spot cwd p = .ok s ∧ IsName s.last ∧ s.slash = false ∧
      t.get? s.location = some e ∧ e ≠ .directory ∧
      ∀ k, u.get? k = if k = s.location then none else t.get? k := by
  unfold removeFile at h
  obtain ⟨s, hs, h⟩ := bind_eq_ok.mp h
  split at h
  · cases h
  rename_i hname
  obtain ⟨found, hl, h⟩ := bind_eq_ok.mp h
  obtain ⟨-, rfl⟩ := lookUp_eq_ok hl
  obtain ⟨e, he, hd, hslash, rfl⟩ : ∃ e, t.get? s.location = some e ∧ e ≠ .directory ∧
      s.slash = false ∧ u = t.prune s.location := by
    rcases he : t.get? s.location with _ | (_ | _ | _) <;> rw [he] at h
    any_goals cases h
    all_goals
      simp only at h
      split at h
      · cases h
      · rename_i hslash
        exact ⟨_, rfl, by simp, by simpa using hslash, (Except.ok.inj h).symm⟩
  refine ⟨s, e, hs, Classical.not_not.mp hname, hslash, he, hd, fun k => ?_⟩
  rw [get?_prune (by simp [Spot.location])]
  by_cases hk : k = s.location
  · rw [if_pos hk, hk, if_pos (List.prefix_refl _)]
  · rw [if_neg hk]
    by_cases hp : s.location <+: k
    · -- Nothing lies below an entry that is no directory.
      rw [if_pos hp]
      obtain ⟨j, rfl⟩ := hp
      cases hj : t.get? (s.location ++ j) with
      | none => rfl
      | some e' =>
        have := get?_of_append hj (by rintro rfl; simp at hk)
        rw [he] at this
        exact absurd (Option.some.inj this) hd
    · rw [if_neg hp]

/-- A directory that is removed alone is an entry that the path names. -/
theorem removeDir_eq_ok (h : t.removeDir cwd p = .ok u) :
    ∃ s, t.spot cwd p = .ok s ∧ IsName s.last ∧ u = t.prune s.location := by
  unfold removeDir at h
  obtain ⟨s, hs, h⟩ := bind_eq_ok.mp h
  split at h
  · cases h
  split at h
  · cases h
  split at h
  · cases h
  rename_i hname
  obtain ⟨found, -, h⟩ := bind_eq_ok.mp h
  rcases found with _ | (_ | _ | _)
  any_goals cases h
  simp only at h
  split at h
  · cases h
    exact ⟨s, hs, Classical.not_not.mp hname, rfl⟩
  · cases h

/-! ## Moving -/

theorem get?_below_of_ne_directory (h : t.get? l ≠ some .directory) {k : Location} (hk : k ≠ []) :
    t.get? (l ++ k) = none := by
  cases he : t.get? (l ++ k) with
  | none => rfl
  | some e => exact absurd (get?_of_append he hk) h

theorem get?_eq_none_of_isPrefix {k : Location} (h : t.get? l = none) (hk : l <+: k) :
    t.get? k = none := by
  obtain ⟨j, rfl⟩ := hk
  by_cases hj : j = []
  · rw [hj, List.append_nil, h]
  · exact get?_below_of_ne_directory (by simp [h]) hj

theorem get?_below_of_names_empty (h : (t.names l).isEmpty) {k : Location} (hk : k ≠ []) :
    t.get? (l ++ k) = none := by
  cases k with
  | nil => exact absurd rfl hk
  | cons n k =>
    have hn : t.get? (l ++ [n]) = none := by
      have : n ∉ t.names l := by simp [List.isEmpty_iff.mp h]
      simpa [mem_names] using this
    exact get?_eq_none_of_isPrefix hn ⟨k, by simp⟩

/-- What takes the place of an entry is of its kind, and nothing lies below it. -/
theorem replaceFault_eq_none {e : Entry} (h : t.replaceFault e l (t.get? l) = none) :
    (∀ d, t.get? l = some d → d.isDirectory = e.isDirectory) ∧
      ∀ k, k ≠ [] → t.get? (l ++ k) = none := by
  unfold replaceFault at h
  cases hl : t.get? l with
  | none => exact ⟨nofun, fun k hk => get?_below_of_ne_directory (by simp [hl]) hk⟩
  | some d =>
    rw [hl] at h
    by_cases hd : d = .directory
    · subst hd
      cases he : e.isDirectory with
      | false => simp [he] at h
      | true =>
        refine ⟨by rintro _ ⟨⟩; rfl, fun k hk => get?_below_of_names_empty ?_ hk⟩
        simpa [he] using h
    · refine ⟨?_, fun k hk => get?_below_of_ne_directory (by simpa [hl] using hd) hk⟩
      rintro _ ⟨⟩
      cases he : e.isDirectory with
      | true => cases d <;> simp_all
      | false => cases d <;> simp_all [Entry.isDirectory]

/-- Two names of one file are names of a file. -/
theorem files_of_isSameFile {a b : Location} {e : Entry} (he : t.get? a = some e)
    (h : t.isSameFile a b) (hab : a ≠ b) :
    e ≠ .directory ∧ ∃ d, t.get? b = some d ∧ d ≠ .directory := by
  unfold isSameFile at h
  rw [he, Bool.or_eq_true, beq_iff_eq] at h
  have h := h.resolve_left hab
  cases hb : t.get? b with
  | none => simp [hb] at h
  | some d =>
    refine ⟨?_, d, rfl, ?_⟩
    · rintro rfl
      simp [Entry.number?] at h
    · rintro rfl
      rw [hb] at h
      cases e <;> simp [Entry.number?] at h

/-- The new name of what is moved is one that a directory can have. -/
theorem nameFits_of_rename {q : String} {b : Spot} (h : t.rename cwd p q = .ok u)
    (hb : t.spot cwd q = .ok b) : b.last.utf8ByteSize ≤ nameLimit := by
  unfold rename at h
  obtain ⟨a, -, h⟩ := bind_eq_ok.mp h
  obtain ⟨b', hb', h⟩ := bind_eq_ok.mp h
  obtain rfl := Except.ok.inj (hb.symm.trans hb')
  split at h
  · cases h
  obtain ⟨found, -, h⟩ := bind_eq_ok.mp h
  cases found with
  | none => cases h
  | some e =>
    obtain ⟨old, hlb, -⟩ := bind_eq_ok.mp h
    exact (lookUp_eq_ok hlb).1

/-- What a move has found out when it succeeds, and what it leaves. -/
theorem rename_cases {q : String} (h : t.rename cwd p q = .ok u) :
    ∃ a b e, t.spot cwd p = .ok a ∧ t.spot cwd q = .ok b ∧ IsName a.last ∧ IsName b.last ∧
      t.get? a.location = some e ∧ ¬ a.location <+: b.dir ∧ ¬ b.location <+: a.dir ∧
      (e.isDirectory = false → a.slash = false ∧ b.slash = false) ∧
      ((t.isSameFile a.location b.location ∧ u = t) ∨
        (t.isSameFile a.location b.location = false ∧
          t.replaceFault e b.location (t.get? b.location) = none ∧
          u = if e.isDirectory then
            (t.prune a.location).mount b.dir b.last (t.below a.location)
          else (t.prune a.location).put b.dir b.last e)) := by
  unfold rename at h
  obtain ⟨a, ha, h⟩ := bind_eq_ok.mp h
  obtain ⟨b, hb, h⟩ := bind_eq_ok.mp h
  split at h
  · cases h
  rename_i hnames
  obtain ⟨hna, hnb⟩ := not_or.mp hnames
  obtain ⟨found, hla, h⟩ := bind_eq_ok.mp h
  obtain ⟨-, rfl⟩ := lookUp_eq_ok hla
  cases he : t.get? a.location with
  | none => rw [he] at h; cases h
  | some e =>
    rw [he] at h
    obtain ⟨old, hlb, h⟩ := bind_eq_ok.mp h
    obtain ⟨-, rfl⟩ := lookUp_eq_ok hlb
    split at h
    · cases h
    rename_i hslash
    split at h
    · cases h
    rename_i hab
    split at h
    · cases h
    rename_i hba
    refine ⟨a, b, e, ha, hb, Classical.not_not.mp hna, Classical.not_not.mp hnb, he, hab, hba,
      by simpa using hslash, ?_⟩
    split at h
    · rename_i hsame
      cases h
      exact .inl ⟨hsame, rfl⟩
    rename_i hsame
    split at h
    · cases h
    rename_i hfault
    exact .inr ⟨by simpa using hsame, hfault, (Except.ok.inj h).symm⟩

theorem get?_mount_moved {a b : Spot} (hd : t.get? b.dir = some .directory) (hn : IsName b.last)
    (he : t.get? a.location = some .directory) (hab : ¬ a.location <+: b.dir) (k : Location) :
    ((t.prune a.location).mount b.dir b.last (t.below a.location)).get? k =
      if b.location <+: k then t.get? (a.location ++ k.drop b.location.length)
      else if a.location <+: k then none else t.get? k := by
  have ha : a.location ≠ [] := by simp [Spot.location]
  have hrest : (t.prune a.location).get? b.dir = some .directory := by
    rw [get?_prune ha, if_neg hab, hd]
  rw [get?_mount hn hrest, get?_below he, get?_prune ha]
  rfl

theorem get?_put_moved {a b : Spot} {e : Entry} (hd : t.get? b.dir = some .directory)
    (hn : IsName b.last) (he : t.get? a.location = some e) (hne : e ≠ .directory)
    (hab : ¬ a.location <+: b.dir) (hfree : t.get? b.location ≠ some .directory)
    (hempty : ∀ k, k ≠ [] → t.get? (b.location ++ k) = none) (k : Location) :
    ((t.prune a.location).put b.dir b.last e).get? k =
      if b.location <+: k then t.get? (a.location ++ k.drop b.location.length)
      else if a.location <+: k then none else t.get? k := by
  have ha : a.location ≠ [] := by simp [Spot.location]
  have hput : (t.prune a.location).CanPut b.dir b.last e := by
    refine ⟨hn, by rw [get?_prune ha, if_neg hab, hd], fun h => ?_⟩
    rw [get?_prune ha] at h
    split at h
    · cases h
    · exact absurd h hfree
  rw [get?_put hput, get?_prune ha, ← Spot.location]
  by_cases hk : k = b.location
  · rw [if_pos hk, if_pos (hk ▸ List.prefix_rfl), hk, List.drop_length, List.append_nil, he]
  rw [if_neg hk]
  by_cases hp : b.location <+: k
  · -- Nothing lies below an entry that is no directory.
    obtain ⟨j, rfl⟩ := hp
    have hj : j ≠ [] := by rintro rfl; simp at hk
    rw [if_pos (List.prefix_append _ _), hempty j hj, ite_self, List.drop_left,
      get?_below_of_ne_directory (by simpa [he] using hne) hj]
  · rw [if_neg hp]

/-- What a move that succeeds does: nothing between two names of one file, and else all that was at
the old place is at the new one. -/
theorem rename_eq_ok {q : String} (h : t.rename cwd p q = .ok u) :
    ∃ a b e, t.spot cwd p = .ok a ∧ t.spot cwd q = .ok b ∧ IsName a.last ∧ IsName b.last ∧
      t.get? a.location = some e ∧ ¬ a.location <+: b.dir ∧ ¬ b.location <+: a.dir ∧
      (e.isDirectory = false → a.slash = false ∧ b.slash = false) ∧
      ((t.isSameFile a.location b.location ∧ u = t) ∨
        (t.isSameFile a.location b.location = false ∧
          (∀ k, k ≠ [] → t.get? (b.location ++ k) = none) ∧
          ∀ k, u.get? k =
            if b.location <+: k then t.get? (a.location ++ k.drop b.location.length)
            else if a.location <+: k then none else t.get? k)) := by
  obtain ⟨a, b, e, ha, hb, hna, hnb, he, hab, hba, hslash, ⟨hsame, rfl⟩ | ⟨hsame, hfault, rfl⟩⟩ :=
    rename_cases h
  · exact ⟨a, b, e, ha, hb, hna, hnb, he, hab, hba, hslash, .inl ⟨hsame, rfl⟩⟩
  obtain ⟨hkind, hempty⟩ := replaceFault_eq_none hfault
  have hd := get?_dir_of_spot hb
  refine ⟨a, b, e, ha, hb, hna, hnb, he, hab, hba, hslash, .inr ⟨hsame, hempty, fun k => ?_⟩⟩
  cases hdir : e.isDirectory with
  | true =>
    obtain rfl : e = .directory := by cases e <;> first | rfl | cases hdir
    exact get?_mount_moved hd hnb he hab k
  | false =>
    have hfree : t.get? b.location ≠ some .directory := fun h => by
      cases (hkind _ h).trans hdir
    exact get?_put_moved hd hnb he (by rintro rfl; cases hdir) hab hfree hempty k

end FileTree

/-! ## Changes as values -/

namespace Call

variable {t : FileTree} {cwd : Location} {p q : String}

theorem perform_removeFile :
    perform cwd (.removeFile p) t =
      match t.removeFile cwd p with
      | .ok u => (.ok (), u)
      | .error fault => (.error fault, t) := by
  show (match t.removeFile cwd p with | .ok u => _ | .error fault => _) = _
  cases t.removeFile cwd p <;> rfl

theorem perform_rename :
    perform cwd (.rename p q) t =
      match t.rename cwd p q with
      | .ok u => (.ok (), u)
      | .error fault => (.error fault, t) := by
  show (match t.rename cwd p q with | .ok u => _ | .error fault => _) = _
  cases t.rename cwd p q <;> rfl

theorem perform_write (text : String) :
    perform cwd (.write p text) t =
      match t.write cwd p text.toUTF8 with
      | .ok u => (.ok (), u)
      | .error fault => (.error fault, t) := by
  show (match t.write cwd p text.toUTF8 with | .ok u => _ | .error fault => _) = _
  cases t.write cwd p text.toUTF8 <;> rfl

theorem perform_copy :
    perform cwd (.copy p q) t =
      match t.copy cwd p q with
      | .ok u => (.ok (), u)
      | .error fault => (.error fault, t) := by
  show (match t.copy cwd p q with | .ok u => _ | .error fault => _) = _
  cases t.copy cwd p q <;> rfl

end Call

end BenchCheckout
