import BenchCheckout.Proofs.Files.Ways

/-!
# Changes in trees without symbolic links

In a tree without links, and for a path without `..`, a change happens at the path's location.

* `createDirs_adds_way`: new directories lie on the way to the path.
* `removeTree_of_isDirect`, `removeTree_of_not_isDirectory`: a directory goes away as a whole,
  and where there is none nothing happens.
* `removeFile_of_isFile`: a file goes away.
* `get?_of_removeTree`, `get?_of_removeFile`, `get?_of_rename`: what lies elsewhere stays.
-/

namespace BenchCheckout

namespace FileTree

variable {t u : FileTree} {cwd l : Location} {p q n : String}

theorem get?_put_of_ne (t : FileTree) {e : Entry} {k : Location} (h : k ≠ l ++ [n]) :
    (t.put l n e).get? k = t.get? k := by
  by_cases hc : t.CanPut l n e
  · rw [get?_put hc, if_neg h]
  · rw [put, dif_neg hc]

theorem symlinkFree_empty : empty.SymlinkFree := by
  intro l target
  cases l with
  | nil => simp [get?_root]
  | cons n l => simp [get?, empty]

namespace SymlinkFree

theorem of_get? (ht : t.SymlinkFree) (h : ∀ k e, u.get? k = some e → ∃ k', t.get? k' = some e) :
    u.SymlinkFree := by
  intro k target hk
  obtain ⟨k', hk'⟩ := h k _ hk
  exact ht k' target hk'

theorem prune (ht : t.SymlinkFree) (hl : l ≠ []) : (t.prune l).SymlinkFree := by
  refine ht.of_get? fun k e hk => ⟨k, ?_⟩
  rw [get?_prune hl] at hk
  split at hk
  · cases hk
  · exact hk

theorem clear (ht : t.SymlinkFree) (l : Location) : (t.clear l).SymlinkFree := by
  refine ht.of_get? fun k e hk => ⟨k, ?_⟩
  rw [get?_clear] at hk
  split at hk
  · cases hk
  · exact hk

theorem put {n : String} {e : Entry} (ht : t.SymlinkFree) (he : ∀ target, e ≠ .link target) :
    (t.put l n e).SymlinkFree := by
  intro k target hk
  by_cases h : t.CanPut l n e
  · rw [get?_put h] at hk
    split at hk
    · exact he target (Option.some.inj hk)
    · exact ht k target hk
  · rw [FileTree.put, dif_neg h] at hk
    exact ht k target hk

theorem createDir (ht : t.SymlinkFree) (h : t.createDir cwd p = .ok u) : u.SymlinkFree := by
  obtain ⟨s, -, -, -, -, hu⟩ := createDir_eq_ok h
  intro k target hk
  rw [hu] at hk
  split at hk
  · cases hk
  · exact ht k target hk

theorem rename (ht : t.SymlinkFree) (h : t.rename cwd p q = .ok u) : u.SymlinkFree := by
  obtain ⟨a, b, -, -, -, -, -, -, -, -, -, ⟨-, rfl⟩ | ⟨-, -, hu⟩⟩ := rename_eq_ok h
  · exact ht
  refine ht.of_get? fun k e hk => ?_
  rw [hu] at hk
  split at hk
  · exact ⟨_, hk⟩
  · split at hk
    · cases hk
    · exact ⟨_, hk⟩

theorem removeFile (ht : t.SymlinkFree) (h : t.removeFile cwd p = .ok u) : u.SymlinkFree := by
  obtain ⟨s, -, -, -, -, -, -, hu⟩ := removeFile_eq_ok h
  refine ht.of_get? fun k e hk => ⟨k, ?_⟩
  rw [hu] at hk
  split at hk
  · cases hk
  · exact hk

end SymlinkFree

/-! ## New directories -/

/-- The entry that a path names lies at the path's location, if it has a name. -/
theorem spot_location (ht : t.SymlinkFree) (hup : ".." ∉ Path.steps p) {s : Spot}
    (hs : t.spot cwd p = .ok s) (hn : IsName s.last) : s.location = cwd.along p := by
  rw [spot_reach ht hs hn, Location.reach_of_not_mem hup]

/-- A directory that was created is there. -/
theorem isDirectory_of_createDir (ht : t.SymlinkFree) (h : t.createDir cwd p = .ok u) :
    u.isDirectory cwd p := by
  obtain ⟨s, hs, hn, hfit, hnone, hu⟩ := createDir_eq_ok h
  have htu : ∀ k e, t.get? k = some e → u.get? k = some e := by
    intro k e hk
    rw [hu, if_neg, hk]
    rintro rfl
    rw [hnone] at hk
    cases hk
  obtain ⟨hc, rfl | ⟨ps, k, hpieces, hw⟩⟩ := spot_eq_ok hs
  · exact absurd rfl hn.1
  have hl : u.get? s.location = some .directory := by rw [hu, if_pos rfl]
  have hwalk := walk_concat hn hfit hl (walk_mono htu hw)
  obtain ⟨h1, h2, h3, h4⟩ := checkPath_eq_ok_iff.mp hc
  refine isDirectory_iff_walk.mpr ⟨checkPath_eq_ok_iff.mpr ⟨h1, h2, h3, htu _ _ h4⟩, _, ?_, hl⟩
  rw [hpieces, List.append_cons, walk_append_of_symlinkFree (ht.createDir h) hwalk,
    walk_eq_found_iff (ht.createDir h) (by simp)]
  have hsteps : (List.replicate k "").filter (!Path.isIdle ·) = [] := by simp [Path.isIdle]
  exact ⟨by rw [hsteps, List.append_nil, Spot.location], by simp [hsteps], fun _ => hl,
    fun _ => ⟨_, hl, fun _ => rfl⟩⟩

theorem along_isPrefix_along {r : String} (h : Path.steps r <+: Path.steps p)
    (hr : Path.startsAtRoot r = Path.startsAtRoot p) : cwd.along r <+: cwd.along p := by
  rw [Location.along, Location.along, Location.start, Location.start, hr]
  exact (List.prefix_append_right_inj _).mpr h

/-- New directories lie on the way. -/
theorem createDirs_adds_way (cwd : Location) (p : String) (ht : t.SymlinkFree) :
    AddsDirectories (fun k => ∃ ns, ns <+: Path.steps p ∧ k = (cwd.start p).after ns) t
      (t.createDirs cwd p).2 := by
  obtain ⟨above, ha, habove⟩ := ancestors_eq_cons p
  refine createDirsAlong_adds SymlinkFree (fun t u ht h => h.symlinkFree ht)
    (fun t r s ht hr hs hn => ?_) ht
  rw [ha] at hr
  refine ⟨Path.steps r, ?_, ?_⟩
  · rcases List.mem_cons.mp hr with rfl | hr
    · exact List.prefix_rfl
    · exact (habove r hr).1.trans (List.dropLast_prefix _)
  · have hstart : cwd.start p = cwd.start r := by
      rcases List.mem_cons.mp hr with rfl | hr
      · rfl
      · rw [Location.start, Location.start, (habove r hr).2]
    rw [hstart]
    exact spot_reach ht hs hn

theorem createDirs_adds_along (cwd : Location) (ht : t.SymlinkFree) (hup : ".." ∉ Path.steps p) :
    AddsDirectories (· <+: cwd.along p) t (t.createDirs cwd p).2 :=
  (createDirs_adds_way cwd p ht).mono fun _ ⟨_, hns, hk⟩ =>
    hk ▸ Location.after_isPrefix_along hup hns

theorem isDirectory_of_createDirsAlong {above : List String} (ht : t.SymlinkFree) (hp : p ≠ "")
    (h : createDirsAlong cwd (p :: above) t = (.ok (), u)) : u.isDirectory cwd p :=
  isDirectory_of_createDirsAlong_cons hp
    (fun _ _ hv hw => isDirectory_of_createDir (hv.symlinkFree ht) hw) h

theorem isDirectory_of_createDirs (ht : t.SymlinkFree) (hp : p ≠ "")
    (h : t.createDirs cwd p = (.ok (), u)) : u.isDirectory cwd p := by
  obtain ⟨above, ha, -⟩ := ancestors_eq_cons p
  rw [createDirs, ha] at h
  exact isDirectory_of_createDirsAlong ht hp h

/-- A creation that fails leaves the last place as it was. -/
theorem get?_of_createDirs_eq_error {fault : Fault} (ht : t.SymlinkFree)
    (hup : ".." ∉ Path.steps p) (hp : Path.steps p ≠ [])
    (h : t.createDirs cwd p = (.error fault, u)) :
    u.get? (cwd.along p) = t.get? (cwd.along p) := by
  obtain ⟨above, ha, habove⟩ := ancestors_eq_cons p
  have hadds : AddsDirectories (· <+: cwd.start p ++ (Path.steps p).dropLast) t
      (createDirsAlong cwd above t).2 := by
    refine createDirsAlong_adds SymlinkFree (fun t u ht h => h.symlinkFree ht)
      (fun t r s ht hr hs hn => ?_) ht
    obtain ⟨hsteps, hroot⟩ := habove r hr
    have hup : ".." ∉ Path.steps r := fun h =>
      hup ((List.dropLast_prefix _).subset (hsteps.subset h))
    rw [spot_location ht hup hs hn, Location.along, Location.start, hroot]
    exact (List.prefix_append_right_inj _).mpr hsteps
  have hlonger : ¬ cwd.along p <+: cwd.start p ++ (Path.steps p).dropLast := by
    rw [Location.along, List.prefix_append_right_inj]
    intro h
    have := h.length_le
    have := List.length_pos_iff.mpr hp
    rw [List.length_dropLast] at *
    omega
  have hp : p ≠ "" := by
    rintro rfl
    exact absurd rfl hp
  rw [createDirs, ha] at h
  rcases createDirsAlong_cons cwd p above t hp with ⟨v, -, hr⟩ | ⟨fault, -, -, hr⟩ |
    ⟨fault, v, -, hw, hr⟩ | ⟨w, v, -, -, -, hr⟩ | ⟨w, fault, -, hw, -, hr⟩ <;> rw [hr] at h
  · cases (Prod.mk.inj h).1
  · rw [(Prod.mk.inj h).2]
  · rw [← (Prod.mk.inj h).2]
    rw [hw] at hadds
    exact hadds.get?_of_not hlonger
  · cases (Prod.mk.inj h).1
  · rw [← (Prod.mk.inj h).2]
    rw [hw] at hadds
    exact hadds.get?_of_not hlonger

/-! ## Removing -/

theorem spot_of_get? (ht : t.SymlinkFree) (h : Path.Ends p q n) (hup : ".." ∉ Path.steps q)
    (hp : Path.IsUsable p) {e : Entry} (he : t.get? (cwd.along p) = some e) :
    t.spot cwd p = .ok ⟨cwd.along q, n, Path.endsWithSlash p⟩ := by
  rw [Location.along_ends h] at he
  refine (spot_iff ht h hup).mpr ⟨rfl, hp.2.1, hp.2.2.1, fun m hm => ?_, get?_parent he⟩
  exact hp.2.2.2 m (by simp [h.steps_eq, hm])

theorem lookUp_of_isUsable (h : Path.Ends p q n) (hp : Path.IsUsable p) :
    t.lookUp ⟨cwd.along q, n, Path.endsWithSlash p⟩ = .ok (t.get? (cwd.along p)) := by
  rw [lookUp, if_neg, Spot.location, Location.along_ends h]
  have := hp.2.2.2 n (by simp [h.steps_eq])
  simpa using this

theorem clear_prune (t : FileTree) (hl : l ≠ []) : (t.clear l).prune l = t.prune l := by
  refine ext_get? fun k => ?_
  rw [get?_prune hl, get?_prune hl, get?_clear]
  by_cases h : l <+: k
  · rw [if_pos h, if_pos h]
  · rw [if_neg h, if_neg h, if_neg fun hk => h hk.1]

theorem prune_of_get?_eq_none (h : t.get? l = none) : t.prune l = t := by
  have hl : l ≠ [] := by
    rintro rfl
    rw [get?_root] at h
    cases h
  refine ext_get? fun k => ?_
  rw [get?_prune hl]
  split
  · exact (get?_eq_none_of_isPrefix h ‹_›).symm
  · rfl

theorem names_clear (t : FileTree) (l : Location) : (t.clear l).names l = [] := by
  refine List.eq_nil_iff_forall_not_mem.mpr fun m hm => ?_
  rw [mem_names, get?_clear, if_pos ⟨List.prefix_append l [m], by simp⟩] at hm
  cases hm

/-- A directory goes away with everything in it. -/
theorem removeTree_of_isDirect (ht : t.SymlinkFree) (hp : Path.endsInName p)
    (hdirect : cwd.IsDirect p) (hd : t.isDirectory cwd p) :
    t.removeTree cwd p = (.ok (), t.prune (cwd.reach p)) := by
  obtain ⟨s, hs, hloc, hname, hfit, he⟩ := spot_of_isDirectory ht hp hd
  obtain ⟨l, hr, -⟩ := resolve_of_isDirectory hd
  obtain rfl : l = cwd.reach p := resolve_reach ht hr
  have hne : cwd.reach p ≠ [] := by simp [← hloc, Spot.location]
  have hlookUp {t : FileTree} (he : t.get? (cwd.reach p) = some .directory) :
      t.lookUp s = .ok (some .directory) := by
    rw [lookUp, if_neg (Nat.not_lt.mpr hfit), hloc, he]
  have hfind : t.findLink cwd p = .ok .directory := by
    unfold findLink
    rw [hs]
    simp only [bind, Except.bind]
    split
    · rw [hlookUp he]
    · rw [find_eq_ok.mpr ⟨hr, he⟩]
  -- Nothing on the way lies in the directory, so it can be found when it is empty.
  have hemptied : (t.clear (cwd.reach p)).spot cwd p = .ok s := by
    rw [← hs]
    refine (spot_way ht fun ns hns => ?_).symm
    rw [get?_clear, if_neg]
    exact fun h => h.2 (hdirect ns ((List.mem_inits _ _).mpr hns) h.1)
  have hremove : (t.clear (cwd.reach p)).removeDir cwd p = .ok (t.prune (cwd.reach p)) := by
    unfold removeDir
    rw [hemptied]
    simp only [bind, Except.bind]
    rw [if_neg hname.2.1, if_neg hname.2.2.1, if_neg (Classical.not_not.mpr hname),
      hlookUp (by rw [get?_clear, if_neg (by simp), he])]
    simp only
    rw [hloc, names_clear, clear_prune t hne]
    rfl
  unfold removeTree
  rw [hfind, locate_eq_ok.mpr hr]
  simp only [hremove]

theorem removeTree_of_isDirectory (ht : t.SymlinkFree) (h : Path.Ends p q n)
    (hup : ".." ∉ Path.steps p) (hd : t.isDirectory cwd p) :
    t.removeTree cwd p = (.ok (), t.prune (cwd.along p)) := by
  have hn : n ≠ ".." := by
    rintro rfl
    exact hup (by simp [h.steps_eq])
  rw [← Location.reach_of_not_mem hup]
  exact removeTree_of_isDirect ht (endsInName_of_ends h hn) (Location.isDirect_of_not_mem hup) hd

theorem entry_of_findLink {e : Entry} (ht : t.SymlinkFree) (h : Path.Ends p q n)
    (hup : ".." ∉ Path.steps p) (hf : t.findLink cwd p = .ok e) :
    Path.IsUsable p ∧ t.get? (cwd.along p) = some e := by
  have hupq : ".." ∉ Path.steps q := fun hq => hup (by simp [h.steps_eq, hq])
  unfold findLink at hf
  obtain ⟨s, hs, hf⟩ := bind_eq_ok.mp hf
  obtain ⟨rfl, hz, hsize, hfits, -⟩ := (spot_iff ht h hupq).mp hs
  split at hf
  · obtain ⟨found, hl, hf⟩ := bind_eq_ok.mp hf
    obtain ⟨hfit, rfl⟩ := lookUp_eq_ok hl
    rw [Spot.location, ← Location.along_ends h] at hf
    refine ⟨⟨h.ne_empty, hz, hsize, fun m hm => ?_⟩, ?_⟩
    · rw [h.steps_eq, List.mem_append, List.mem_singleton] at hm
      rcases hm with hm | rfl
      · exact hfits m hm
      · exact hfit
    · cases he : t.get? (cwd.along p) with
      | none => rw [he] at hf; cases hf
      | some e' => rw [he] at hf; rw [Except.ok.inj hf]
  · obtain ⟨⟨l, d⟩, hfind, hf⟩ := bind_eq_ok.mp hf
    obtain ⟨hp, rfl, he, -⟩ := (find_eq_ok_iff ht hup).mp hfind
    exact ⟨hp, he.trans (congrArg some (Except.ok.inj hf))⟩

/-- Where there is no directory nothing is removed. -/
theorem removeTree_of_not_isDirectory (ht : t.SymlinkFree) (h : Path.Ends p q n)
    (hup : ".." ∉ Path.steps p) (hd : ¬ t.isDirectory cwd p) :
    ∃ fault, t.removeTree cwd p = (.error fault, t) := by
  unfold removeTree
  cases hf : t.findLink cwd p with
  | error fault => exact ⟨_, rfl⟩
  | ok e =>
    obtain ⟨hp, he⟩ := entry_of_findLink ht h hup hf
    cases e with
    | file bytes x number => exact ⟨_, rfl⟩
    | link target => exact absurd he (ht _ target)
    | directory => exact absurd ((isDirectory_iff ht hup).mpr ⟨hp, he⟩) hd

/-- A file goes away. -/
theorem removeFile_of_isFile (ht : t.SymlinkFree) (h : Path.Ends p q n)
    (hup : ".." ∉ Path.steps p) (hf : t.isFile cwd p) :
    t.removeFile cwd p = .ok (t.prune (cwd.along p)) := by
  obtain ⟨hp, hidle, bytes, x, number, he⟩ := (isFile_iff ht hup).mp hf
  have hupq : ".." ∉ Path.steps q := fun hq => hup (by simp [h.steps_eq, hq])
  have hname : IsName n := isName_of_get? he (by simp [Location.along_ends h])
  have hslash : Path.endsWithSlash p = false := by
    simpa [h.endsIdle_iff] using hidle
  unfold removeFile
  rw [spot_of_get? ht h hupq hp he]
  simp only [bind, Except.bind]
  rw [if_neg (Classical.not_not.mpr hname), lookUp_of_isUsable h hp, he]
  simp only
  rw [hslash, if_neg (by simp), Spot.location, ← Location.along_ends h]

/-! ## What stays -/

theorem SymlinkFree.removeDir (ht : t.SymlinkFree) (h : t.removeDir cwd p = .ok u) :
    u.SymlinkFree := by
  obtain ⟨s, -, -, rfl⟩ := removeDir_eq_ok h
  exact ht.prune (by simp [Spot.location])

theorem SymlinkFree.removeTree (ht : t.SymlinkFree) : (t.removeTree cwd p).2.SymlinkFree := by
  unfold FileTree.removeTree
  rcases t.findLink cwd p with fault | (_ | _ | _)
  · exact ht
  · exact ht
  · cases t.locate cwd p with
    | error fault => exact ht
    | ok k =>
      cases hd : (t.clear k).removeDir cwd p with
      | ok u => simpa only [hd] using (ht.clear k).removeDir hd
      | error fault => cases fault <;> simpa only [hd] using ht.clear k
  · cases hf : t.removeFile cwd p with
    | ok u => simpa only [hf] using ht.removeFile hf
    | error fault => simpa only [hf] using ht

theorem get?_of_removeTree (ht : t.SymlinkFree) (h : Path.Ends p q n)
    (hup : ".." ∉ Path.steps p) (hl : ¬ cwd.along p <+: l) :
    (t.removeTree cwd p).2.get? l = t.get? l := by
  by_cases hd : t.isDirectory cwd p
  · have hne : cwd.along p ≠ [] := by simp [Location.along_ends h]
    rw [removeTree_of_isDirectory ht h hup hd, get?_prune hne, if_neg hl]
  · obtain ⟨fault, hr⟩ := removeTree_of_not_isDirectory ht h hup hd
    rw [hr]

theorem get?_of_removeFile (ht : t.SymlinkFree) (h : Path.Ends p q n)
    (hup : ".." ∉ Path.steps q) (hu : t.removeFile cwd p = .ok u) (hl : l ≠ cwd.along p) :
    u.get? l = t.get? l := by
  obtain ⟨s, -, hs, -, -, -, -, hget⟩ := removeFile_eq_ok hu
  obtain rfl := ((spot_iff ht h hup).mp hs).1
  rw [hget, if_neg]
  rwa [Spot.location, ← Location.along_ends h]

theorem get?_of_rename {p' q' m : String} (ht : t.SymlinkFree) (h : Path.Ends p q n)
    (hup : ".." ∉ Path.steps q) (h' : Path.Ends p' q' m) (hup' : ".." ∉ Path.steps q')
    (hu : t.rename cwd p p' = .ok u) (hl : ¬ cwd.along p <+: l) (hl' : ¬ cwd.along p' <+: l) :
    u.get? l = t.get? l := by
  obtain ⟨a, b, -, ha, hb, -, -, -, -, -, -, hmoved⟩ := rename_eq_ok hu
  obtain rfl := ((spot_iff ht h hup).mp ha).1
  obtain rfl := ((spot_iff ht h' hup').mp hb).1
  rw [Location.along_ends h] at hl
  rw [Location.along_ends h'] at hl'
  rcases hmoved with ⟨-, rfl⟩ | ⟨-, -, hget⟩
  · rfl
  · rw [hget, Spot.location, Spot.location, if_neg hl', if_neg hl]

end FileTree

end BenchCheckout
