import BenchCheckout.Proofs.Files.Plain

/-!
# Trees that differ in one directory

Two trees without links may differ in a directory `l` that each of them has or lacks. Calls that go
nowhere near it come to the same in both.

* `find_congr`, `spot_congr`: a walk depends on what is on its way alone.
* `createDirs_alike`, `removeFile_alike`, `rename_alike`: the calls end alike, with the same fault
  if they fail, and leave trees that differ in nothing else.
-/

namespace BenchCheckout.FileTree

variable {t u v w : FileTree} {cwd here l : Location} {p q n : String}

/-! ## Walks -/

section Congruence

variable (ht : t.SymlinkFree) (hup : ".." ∉ Path.steps p)
  (h : ∀ k, k <+: cwd.along p → t.get? k = u.get? k)

include ht hup h

theorem find_congr : t.find cwd p = u.find cwd p :=
  find_way ht fun _ hns => h _ (Location.after_isPrefix_along hup hns)

theorem spot_congr : t.spot cwd p = u.spot cwd p :=
  spot_way ht fun _ hns => h _ (Location.after_isPrefix_along hup hns)

end Congruence

/-! ## Trees that differ in one directory -/

/-- The trees are the same but for what is at `l`, where each has a directory or nothing. -/
structure DifferAt (l : Location) (t u : FileTree) : Prop where
  get?_eq : ∀ k, ¬ l <+: k → t.get? k = u.get? k
  left : t.get? l = none ∨ t.get? l = some .directory
  right : u.get? l = none ∨ u.get? l = some .directory

/-- Two trees without links that are the same, or differ at `l`. -/
structure Alike (l : Location) (t u : FileTree) : Prop where
  left : t.SymlinkFree
  right : u.SymlinkFree
  eq_or : t = u ∨ DifferAt l t u

theorem Alike.get?_eq {k : Location} (h : Alike l t u) (hk : ¬ l <+: k) :
    t.get? k = u.get? k := by
  rcases h.eq_or with rfl | h
  · rfl
  · exact h.get?_eq k hk

theorem Alike.find_eq (h : Alike l t u) (hup : ".." ∉ Path.steps p) (hp : ¬ l <+: cwd.along p) :
    t.find cwd p = u.find cwd p :=
  find_congr h.left hup fun _ hk => h.get?_eq fun hc => hp (hc.trans hk)

theorem Alike.isFile_eq (h : Alike l t u) (hup : ".." ∉ Path.steps p)
    (hp : ¬ l <+: cwd.along p) : t.isFile cwd p = u.isFile cwd p := by
  rw [isFile, isFile, h.find_eq hup hp]

theorem Alike.isDirectory_eq (h : Alike l t u) (hup : ".." ∉ Path.steps p)
    (hp : ¬ l <+: cwd.along p) : t.isDirectory cwd p = u.isDirectory cwd p := by
  rw [isDirectory, isDirectory, h.find_eq hup hp]

theorem Alike.hasStart_eq (h : Alike l t u) (hp : ¬ l <+: cwd.along p) :
    t.hasStart cwd p = u.hasStart cwd p := by
  rw [hasStart, hasStart, h.get?_eq fun hc => hp (hc.trans (List.prefix_append _ _))]

/-- Trees stay alike where one other entry changes in the same way. -/
theorem Alike.set {m : Location} {e : Option Entry} (h : Alike l t u) (hv : v.SymlinkFree)
    (hw : w.SymlinkFree) (hm : l ≠ m) (hvt : ∀ k, v.get? k = if k = m then e else t.get? k)
    (hwu : ∀ k, w.get? k = if k = m then e else u.get? k) : Alike l v w := by
  refine ⟨hv, hw, ?_⟩
  rcases h.eq_or with rfl | hd
  · exact .inl (ext_get? fun k => by rw [hvt, hwu])
  · refine .inr ⟨fun k hk => by rw [hvt, hwu, hd.get?_eq k hk], ?_, ?_⟩
    · rw [hvt, if_neg hm]
      exact hd.left
    · rw [hwu, if_neg hm]
      exact hd.right

/-- Two calls that end with the same fault, or with trees that are alike. -/
inductive EndAlike (l : Location) : Except Fault FileTree → Except Fault FileTree → Prop where
  | ok {v w : FileTree} (h : Alike l v w) : EndAlike l (.ok v) (.ok w)
  | error (fault : Fault) : EndAlike l (.error fault) (.error fault)

theorem EndAlike.of_map {r r' : Except Fault FileTree}
    (hend : r.map (fun _ => ()) = r'.map fun _ => ())
    (hok : ∀ v w, r = .ok v → r' = .ok w → Alike l v w) : EndAlike l r r' := by
  cases r with
  | error fault =>
    cases r' with
    | error fault' =>
      obtain rfl : fault = fault' := by simpa [Except.map] using hend
      exact .error fault
    | ok w => cases hend
  | ok v =>
    cases r' with
    | error fault' => cases hend
    | ok w => exact .ok (hok v w rfl rfl)

section Calls

variable (h : Alike l t u) (hup : ".." ∉ Path.steps p) (hp : ¬ l <+: cwd.along p)

include h hup hp

theorem spot_eq_of_alike : t.spot cwd p = u.spot cwd p :=
  spot_congr h.left hup fun _ hk => h.get?_eq fun hc => hp (hc.trans hk)

/-- What is looked up at a spot is not at `l`. -/
theorem lookUp_eq_of_alike {s : Spot} (hs : t.spot cwd p = .ok s) (hn : IsName s.last) :
    t.lookUp s = u.lookUp s := by
  rw [lookUp, lookUp, spot_location h.left hup hs hn, h.get?_eq hp]

theorem createDir_alike : EndAlike l (t.createDir cwd p) (u.createDir cwd p) := by
  have hspot := spot_eq_of_alike h hup hp
  refine .of_map ?_ fun v w hv hw => ?_
  · unfold createDir
    rw [← hspot]
    cases hs : t.spot cwd p with
    | error fault => rfl
    | ok s =>
      simp only [bind, Except.bind]
      by_cases hn : IsName s.last
      · rw [← lookUp_eq_of_alike h hup hp hs hn]
        simp only [hn, not_true_eq_false, if_false]
        rcases t.lookUp s with fault | (_ | e) <;> rfl
      · simp only [hn, not_false_eq_true, if_true]
  · obtain ⟨s, hs, hn, -, -, hvt⟩ := createDir_eq_ok hv
    obtain ⟨s', hs', -, -, -, hwu⟩ := createDir_eq_ok hw
    obtain rfl : s = s' := Except.ok.inj (hs.symm.trans (hspot.trans hs'))
    refine h.set (h.left.createDir hv) (h.right.createDir hw) (fun hl => hp ?_) hvt hwu
    exact hl ▸ spot_location h.left hup hs hn ▸ List.prefix_refl _

theorem removeFile_alike : EndAlike l (t.removeFile cwd p) (u.removeFile cwd p) := by
  have hspot := spot_eq_of_alike h hup hp
  refine .of_map ?_ fun v w hv hw => ?_
  · unfold removeFile
    rw [← hspot]
    cases hs : t.spot cwd p with
    | error fault => rfl
    | ok s =>
      simp only [bind, Except.bind]
      by_cases hn : IsName s.last
      · rw [← lookUp_eq_of_alike h hup hp hs hn]
        simp only [hn, not_true_eq_false, if_false]
        generalize s.slash = slash
        rcases t.lookUp s with fault | (_ | (_ | _ | _)) <;> cases slash <;> rfl
      · simp only [hn, not_false_eq_true, if_true]
  · obtain ⟨s, -, hs, hn, -, -, -, hvt⟩ := removeFile_eq_ok hv
    obtain ⟨s', -, hs', -, -, -, -, hwu⟩ := removeFile_eq_ok hw
    obtain rfl : s = s' := Except.ok.inj (hs.symm.trans (hspot.trans hs'))
    refine h.set (h.left.removeFile hv) (h.right.removeFile hw) (fun hl => hp ?_) hvt hwu
    exact hl ▸ spot_location h.left hup hs hn ▸ List.prefix_refl _

end Calls

/-- Creating directories on the way to a path ends alike. -/
theorem createDirsAlong_alike {ps : List String}
    (hps : ∀ q ∈ ps, ".." ∉ Path.steps q ∧ ¬ l <+: cwd.along q) (h : Alike l t u) :
    (createDirsAlong cwd ps t).1 = (createDirsAlong cwd ps u).1 ∧
      Alike l (createDirsAlong cwd ps t).2 (createDirsAlong cwd ps u).2 := by
  induction ps with
  | nil => exact ⟨rfl, h⟩
  | cons p above ih =>
    obtain ⟨hup, hp⟩ := hps p List.mem_cons_self
    have ih := ih fun q hq => hps q (List.mem_cons_of_mem p hq)
    have hsettle {v w : FileTree} {fault : Fault} (h : Alike l v w) :
        (if v.isDirectory cwd p then (Except.ok (), v) else (.error fault, v)).1 =
          (if w.isDirectory cwd p then (Except.ok (), w) else (.error fault, w)).1 ∧
        Alike l (if v.isDirectory cwd p then (Except.ok (), v) else (.error fault, v)).2
          (if w.isDirectory cwd p then (Except.ok (), w) else (.error fault, w)).2 := by
      rw [h.isDirectory_eq hup hp]
      split <;> exact ⟨rfl, h⟩
    unfold createDirsAlong
    by_cases hne : p = ""
    · rw [if_pos hne, if_pos hne]
      exact ⟨rfl, h⟩
    rw [if_neg hne, if_neg hne]
    have hcreate := createDir_alike h hup hp
    generalize t.createDir cwd p = r at hcreate
    generalize u.createDir cwd p = r' at hcreate
    cases hcreate with
    | ok h => exact ⟨rfl, h⟩
    | error fault =>
      by_cases hentry : fault = .noEntry
      · subst hentry
        rcases hv : createDirsAlong cwd above t with ⟨r, v⟩
        rcases hw : createDirsAlong cwd above u with ⟨r', w⟩
        rw [hv, hw] at ih
        obtain ⟨hr, hvw⟩ := ih
        obtain rfl : r = r' := hr
        cases r with
        | error fault => exact ⟨rfl, hvw⟩
        | ok =>
          have hcreate := createDir_alike hvw hup hp
          simp only
          generalize v.createDir cwd p = r at hcreate
          generalize w.createDir cwd p = r' at hcreate
          cases hcreate with
          | ok h => exact ⟨rfl, h⟩
          | error fault => exact hsettle hvw
      · cases fault <;> first | exact absurd rfl hentry | exact hsettle h

theorem createDirs_alike (h : Alike l t u) (hup : ".." ∉ Path.steps p)
    (hp : ¬ l <+: cwd.along p) :
    (t.createDirs cwd p).1 = (u.createDirs cwd p).1 ∧
      Alike l (t.createDirs cwd p).2 (u.createDirs cwd p).2 := by
  obtain ⟨above, ha, habove⟩ := ancestors_eq_cons p
  rw [createDirs, createDirs, ha]
  refine createDirsAlong_alike (fun q hq => ?_) h
  have hsteps : Path.steps q <+: Path.steps p ∧ Path.startsAtRoot q = Path.startsAtRoot p := by
    rcases List.mem_cons.mp hq with rfl | hq
    · exact ⟨List.prefix_refl _, rfl⟩
    · exact (habove q hq).imp_left (·.trans (List.dropLast_prefix _))
  exact ⟨fun hc => hup (hsteps.1.subset hc),
    fun hc => hp (hc.trans (along_isPrefix_along hsteps.1 hsteps.2))⟩

/-! ## Moves -/

theorem names_isEmpty_congr (h : ∀ m, t.get? (l ++ [m]) = u.get? (l ++ [m])) :
    (t.names l).isEmpty = (u.names l).isEmpty := by
  rw [Bool.eq_iff_iff, List.isEmpty_iff, List.isEmpty_iff, List.eq_nil_iff_forall_not_mem,
    List.eq_nil_iff_forall_not_mem]
  simp only [mem_names, h]

theorem isSameFile_congr {a b : Location} (ha : t.get? a = u.get? a) (hb : t.get? b = u.get? b) :
    t.isSameFile a b = u.isSameFile a b := by
  rw [isSameFile, isSameFile, ha, hb]

theorem replaceFault_congr {e : Entry} {old : Option Entry}
    (h : ∀ m, t.get? (l ++ [m]) = u.get? (l ++ [m])) :
    t.replaceFault e l old = u.replaceFault e l old := by
  rcases old with _ | (_ | _ | _)
  · rfl
  all_goals simp only [replaceFault, names_isEmpty_congr h]

/-- Trees that differ at `l`, once the same is moved in both from `src` to `dst`: they differ there
still, unless what was at `l` has given way. -/
theorem DifferAt.moved {src dst : Location} (h : DifferAt l t u) (hsrc : ¬ l <+: src)
    (habove : ¬ src <+: l)
    (hv : ∀ k, v.get? k = if dst <+: k then t.get? (src ++ k.drop dst.length)
      else if src <+: k then none else t.get? k)
    (hw : ∀ k, w.get? k = if dst <+: k then u.get? (src ++ k.drop dst.length)
      else if src <+: k then none else u.get? k) :
    v = w ∨ DifferAt l v w := by
  have hmoved (j : Location) : t.get? (src ++ j) = u.get? (src ++ j) :=
    h.get?_eq _ fun hc =>
      (List.prefix_or_prefix_of_prefix hc (List.prefix_append _ _)).elim hsrc habove
  by_cases hdst : dst <+: l
  · refine .inl (ext_get? fun k => ?_)
    rw [hv, hw, hmoved]
    by_cases hk : l <+: k
    · rw [if_pos (hdst.trans hk), if_pos (hdst.trans hk)]
    · rw [h.get?_eq k hk]
  · refine .inr ⟨fun k hk => ?_, ?_, ?_⟩
    · rw [hv, hw, hmoved, h.get?_eq k hk]
    · rw [hv, if_neg hdst, if_neg habove]
      exact h.left
    · rw [hw, if_neg hdst, if_neg habove]
      exact h.right

section Moving

variable (h : Alike l t u) (hup : ".." ∉ Path.steps p) (hup' : ".." ∉ Path.steps q)
  (hp : ¬ l <+: cwd.along p) (hq : ¬ l <+: cwd.along q)

include h hup hup' hp hq

theorem isSameFile_eq_of_alike {a b : Spot} (ha : t.spot cwd p = .ok a) (hb : t.spot cwd q = .ok b)
    (hna : IsName a.last) (hnb : IsName b.last) :
    t.isSameFile a.location b.location = u.isSameFile a.location b.location :=
  isSameFile_congr (by rw [spot_location h.left hup ha hna, h.get?_eq hp])
    (by rw [spot_location h.left hup' hb hnb, h.get?_eq hq])

/-- All that a move checks is the same in both trees. -/
theorem map_rename_eq_of_alike (hentry : ∀ m, l ≠ cwd.along q ++ [m]) :
    (t.rename cwd p q).map (fun _ => ()) = (u.rename cwd p q).map fun _ => () := by
  have hnames (m : String) : t.get? (cwd.along q ++ [m]) = u.get? (cwd.along q ++ [m]) :=
    h.get?_eq fun hc => (List.prefix_concat_iff.mp hc).elim (hentry m) hq
  unfold rename
  rw [← spot_eq_of_alike h hup hp, ← spot_eq_of_alike h hup' hq]
  cases ha : t.spot cwd p with
  | error fault => rfl
  | ok a =>
    cases hb : t.spot cwd q with
    | error fault => rfl
    | ok b =>
      simp only [bind, Except.bind]
      split
      · rfl
      rename_i hn
      obtain ⟨hna, hnb⟩ := not_or.mp hn
      have hna := Classical.not_not.mp hna
      have hnb := Classical.not_not.mp hnb
      rw [← lookUp_eq_of_alike h hup hp ha hna, ← lookUp_eq_of_alike h hup' hq hb hnb,
        ← isSameFile_eq_of_alike h hup hup' hp hq ha hb hna hnb]
      rcases t.lookUp a with fault | (_ | e)
      · rfl
      · rfl
      rcases t.lookUp b with fault | old
      · rfl
      have hfault : t.replaceFault e b.location old = u.replaceFault e b.location old :=
        replaceFault_congr (by rw [spot_location h.left hup' hb hnb]; exact hnames)
      simp only
      rw [hfault]
      split
      · rfl
      split
      · rfl
      split
      · rfl
      split
      · rfl
      split <;> rfl

/-- A move ends alike that neither starts nor ends at `l` or below it, does not start above it, and
does not end where `l` would be an entry. -/
theorem rename_alike (habove : ¬ cwd.along p <+: l) (hentry : ∀ m, l ≠ cwd.along q ++ [m]) :
    EndAlike l (t.rename cwd p q) (u.rename cwd p q) := by
  refine .of_map (map_rename_eq_of_alike h hup hup' hp hq hentry) fun v w hv hw =>
    ⟨h.left.rename hv, h.right.rename hw, ?_⟩
  rcases h.eq_or with rfl | hd
  · exact .inl (Except.ok.inj (hv.symm.trans hw))
  obtain ⟨a, b, e, ha, hb, hna, hnb, -, -, -, -, hvt⟩ := rename_eq_ok hv
  obtain ⟨a', b', e', ha', hb', -, -, -, -, -, -, hwu⟩ := rename_eq_ok hw
  obtain rfl : a = a' := Except.ok.inj (ha.symm.trans ((spot_eq_of_alike h hup hp).trans ha'))
  obtain rfl : b = b' := Except.ok.inj (hb.symm.trans ((spot_eq_of_alike h hup' hq).trans hb'))
  have hfiles := isSameFile_eq_of_alike h hup hup' hp hq ha hb hna hnb
  rcases hvt with ⟨hsame, rfl⟩ | ⟨hsame, -, hvt⟩ <;>
    rcases hwu with ⟨hsame', rfl⟩ | ⟨hsame', -, hwu⟩
  · exact .inr hd
  · cases hsame'.symm.trans (hfiles.symm.trans hsame)
  · cases hsame'.symm.trans (hfiles.symm.trans hsame)
  · rw [spot_location h.left hup ha hna, spot_location h.left hup' hb hnb] at hvt hwu
    exact hd.moved hp habove hvt hwu

end Moving

end BenchCheckout.FileTree
