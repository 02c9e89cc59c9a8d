import BenchCheckout.Proofs.Files.Contents

/-!
# Where a write goes, and what a copy leaves

A write that follows links fills the entry that its path leads to, or makes the one that is missing
there. All paths that led somewhere lead there still. So a copy can be read back at both of its
ends, and what it leaves there depends on one thing: whether the two were one file.

* `resolve_of_landing`: a write goes where its path leads.
* `get?_fill_of_landing`: what a write changes.
* `read_write`: what is read behind a write.
* `copy_eq_ok`, `copied`: what a copy does, and what it leaves at its two ends.
* `landing_of_copy_eq_error`: what can be in the way of a copy.
-/

namespace BenchCheckout

namespace FileTree

variable {t u : FileTree} {cwd k l : Location} {p q : String} {bytes : ByteArray}
  {executable : Bool} {links : Nat}

/-! ## What a path leads to -/

/-- In a larger tree a path leads to the same entry. One that was missing has to be there now. -/
theorem resolve_grows {place : Place} (htu : t.Grows u)
    (hplace : ∀ dir n, place = .vacant dir n → ∃ e, u.get? (dir ++ [n]) = some e ∧
      ∀ target, e ≠ .link target)
    (h : t.resolve cwd p = .ok place) : u.resolve cwd p = .ok (.found place.location) := by
  have hcheck := checkPath_eq_ok_iff.mp (checkPath_of_resolve h)
  have hcheck' : u.checkPath cwd p = .ok () :=
    checkPath_eq_ok_iff.mpr ⟨hcheck.1, hcheck.2.1, hcheck.2.2.1, htu.directory hcheck.2.2.2⟩
  unfold resolve at h ⊢
  rw [checkPath_eq_ok_iff.mpr hcheck] at h
  rw [hcheck']
  exact walk_grows htu hplace h

theorem locate_grows (htu : t.Grows u) (h : t.locate cwd p = .ok l) : u.locate cwd p = .ok l :=
  locate_eq_ok.mpr (resolve_grows htu (fun _ _ hv => by cases hv) (locate_eq_ok.mp h))

/-! ## Where a write goes -/

/-- The walk along the path of a write ends where the write goes, if its links are enough. -/
theorem walk_of_landingWithin (h : t.landingWithin links cwd p = .ok l) (more : Nat) :
    t.walk more (cwd.start p) (Path.pieces p) = .error .tooManyLinks ∨
      ∃ place, t.walk more (cwd.start p) (Path.pieces p) = .ok place ∧ place.location = l := by
  induction links generalizing cwd p more with
  | zero =>
    obtain ⟨s, hs, hn, hslash, hfit, ⟨rfl, he⟩ | ⟨n, target, hlinks, -⟩⟩ := landingWithin_cases h
    · exact walk_of_spot hs hn hslash hfit he more
    · cases hlinks
  | succ links ih =>
    obtain ⟨s, hs, hn, hslash, hfit, ⟨rfl, he⟩ | ⟨n, target, hlinks, he, hl⟩⟩ :=
      landingWithin_cases h
    · exact walk_of_spot hs hn hslash hfit he more
    · cases hlinks
      obtain ⟨ps, hpieces, hw⟩ := spot_eq_ok_of_slash hs hslash
      rcases walk_append (walk_of_concat hw) more [s.last] with ⟨left, -, hleft⟩ | hleft
      · rw [hpieces, hleft]
        cases left with
        | zero =>
          rw [walk, follow_down (get?_dir_of_spot hs) (hn.leadsDown hfit), ← Spot.location, he]
          exact .inl rfl
        | succ left =>
          rw [walk, follow_down (get?_dir_of_spot hs) (hn.leadsDown hfit), ← Spot.location, he]
          simp only [List.append_nil]
          exact ih hl left
      · exact .inl (by rw [hpieces, hleft])
where
  walk_of_spot {cwd : Location} {p : String} {s : Spot} (hs : t.spot cwd p = .ok s)
      (hn : IsName s.last) (hslash : s.slash = false) (hfit : s.last.utf8ByteSize ≤ nameLimit)
      (he : t.IsFileAt s.location ∨ t.get? s.location = none) (more : Nat) :
      t.walk more (cwd.start p) (Path.pieces p) = .error .tooManyLinks ∨
        ∃ place, t.walk more (cwd.start p) (Path.pieces p) = .ok place ∧
          place.location = s.location := by
    obtain ⟨ps, hpieces, hw⟩ := spot_eq_ok_of_slash hs hslash
    rcases walk_append (walk_of_concat hw) more [s.last] with ⟨left, -, hleft⟩ | hleft
    · right
      rw [hpieces, hleft]
      cases left <;>
      · rw [walk, follow_down (get?_dir_of_spot hs) (hn.leadsDown hfit), ← Spot.location]
        rcases he with ⟨b, x, n, he⟩ | he <;> rw [he]
        · exact ⟨_, rfl, rfl⟩
        · exact ⟨_, rfl, rfl⟩
    · exact .inl (by rw [hpieces, hleft])

/-- A write goes where its path leads, or makes what is missing there. -/
theorem resolve_of_landing (h : t.landing cwd p = .ok l) :
    ∃ place, t.resolve cwd p = .ok place ∧ place.location = l := by
  obtain ⟨hl, hlinks⟩ := landing_eq_ok h
  obtain ⟨s, hs, -⟩ := landingWithin_cases hl
  have hres : t.resolve cwd p = t.walk linkLimit (cwd.start p) (Path.pieces p) := by
    unfold resolve
    rw [(spot_eq_ok hs).1]
    rfl
  rw [hres] at hlinks ⊢
  exact (walk_of_landingWithin hl linkLimit).resolve_left hlinks

/-- A write fills a file, or makes a name in a directory that exists. -/
theorem entry_of_landingWithin (h : t.landingWithin links cwd p = .ok l) :
    t.IsFileAt l ∨ t.get? l = none ∧
      ∃ dir n, l = dir ++ [n] ∧ IsName n ∧ t.get? dir = some .directory := by
  induction links generalizing cwd p with
  | zero =>
    obtain ⟨s, hs, hn, -, -, ⟨rfl, he⟩ | ⟨n, target, hlinks, -⟩⟩ := landingWithin_cases h
    · exact he.imp_right fun he => ⟨he, s.dir, s.last, rfl, hn, get?_dir_of_spot hs⟩
    · cases hlinks
  | succ links ih =>
    obtain ⟨s, hs, hn, -, -, ⟨rfl, he⟩ | ⟨n, target, hlinks, -, hl⟩⟩ := landingWithin_cases h
    · exact he.imp_right fun he => ⟨he, s.dir, s.last, rfl, hn, get?_dir_of_spot hs⟩
    · cases hlinks
      exact ih hl

/-- A write changes one file, under all its names. -/
theorem get?_fill_of_landing (h : t.landing cwd p = .ok l) (bytes : ByteArray)
    (executable : Bool) :
    ∃ number, ∀ k, (t.fill l bytes executable).get? k =
      if t.isSameFile l k then some (.file bytes executable number) else t.get? k := by
  rcases entry_of_landingWithin (landing_eq_ok h).1 with
    ⟨b, x, number, he⟩ | ⟨he, dir, n, rfl, hn, hd⟩
  · exact ⟨number, fun k => get?_fill he k⟩
  · have hput : t.CanPut dir n (.file bytes executable none) := ⟨hn, hd, by simp [he]⟩
    refine ⟨none, fun k => ?_⟩
    simp [fill, isSameFile, putAt, he, get?_put hput, eq_comm (a := k)]

/-- A write makes no two names of one file, and parts none. -/
theorem isSameFile_fill_of_landing (h : t.landing cwd p = .ok l) :
    (t.fill l bytes executable).isSameFile l k = t.isSameFile l k := by
  rcases entry_of_landingWithin (landing_eq_ok h).1 with
    ⟨b, x, number, he⟩ | ⟨he, dir, n, rfl, hn, hd⟩
  · exact isSameFile_fill he
  · have hput : t.CanPut dir n (.file bytes executable none) := ⟨hn, hd, by simp [he]⟩
    simp [fill, isSameFile, putAt, he, get?_put hput, Entry.number?]

/-- What a write changes was a file, if it was anything. -/
theorem file_of_landing {e : Entry} (h : t.landing cwd p = .ok l) (hsame : t.isSameFile l k)
    (he : t.get? k = some e) : ∃ b x number, e = .file b x number := by
  rcases entry_of_landingWithin (landing_eq_ok h).1 with ⟨b, x, n, hfile⟩ | ⟨hnone, -⟩
  · obtain ⟨c, y, hk⟩ := file_of_isSameFile hfile hsame
    exact ⟨c, y, n, Option.some.inj (he.symm.trans hk)⟩
  · rw [isSameFile, hnone] at hsame
    obtain rfl : l = k := by simpa using hsame
    cases hnone.symm.trans he

theorem grows_fill (h : t.landing cwd p = .ok l) : t.Grows (t.fill l bytes executable) := by
  intro k e he
  obtain ⟨number, hget⟩ := get?_fill_of_landing h bytes executable
  rw [hget]
  split
  · rename_i hsame
    obtain ⟨b, x, n, rfl⟩ := file_of_landing h hsame he
    exact ⟨_, rfl, .file⟩
  · exact ⟨e, he, .refl e⟩

/-- What was written can be found at the path of the write. -/
theorem locate_fill (h : t.landing cwd p = .ok l) :
    (t.fill l bytes executable).locate cwd p = .ok l := by
  obtain ⟨place, hplace, rfl⟩ := resolve_of_landing h
  obtain ⟨number, hget⟩ := get?_fill_of_landing h bytes executable
  have hfile : (t.fill place.location bytes executable).get? place.location =
      some (.file bytes executable number) := by
    rw [hget, if_pos (by simp [isSameFile])]
  refine locate_eq_ok.mpr (resolve_grows (grows_fill h) (fun dir n hv => ?_) hplace)
  subst hv
  exact ⟨_, hfile, by simp⟩

/-- What was written is what is read. -/
theorem read_write (h : t.write cwd p bytes = .ok u) : u.read cwd p = .ok bytes := by
  unfold write at h
  obtain ⟨l, hl, h⟩ := bind_eq_ok.mp h
  obtain rfl := Except.ok.inj h
  obtain ⟨number, hget⟩ := get?_fill_of_landing hl bytes (t.isExecutableAt l)
  exact read_eq_ok.mpr ⟨l, _, number, locate_fill hl, by rw [hget, if_pos (by simp [isSameFile])]⟩

/-! ## Copies -/

theorem isSameFile_comm : t.isSameFile k l = t.isSameFile l k := by
  unfold isSameFile
  rw [Bool.beq_comm]
  rcases (t.get? k).bind (·.number?) with _ | m <;> rcases (t.get? l).bind (·.number?) with _ | n <;>
    simp [Bool.beq_comm]

/-- A copy puts the content of the file at its source where a write to its destination goes. -/
theorem copy_eq_ok {source dest : String} (h : t.copy cwd source dest = .ok u) :
    ∃ a b bytes executable number, t.find cwd source = .ok (a, .file bytes executable number) ∧
      t.landing cwd dest = .ok b ∧
      u = t.fill b (if t.isSameFile a b then .empty else bytes) executable := by
  unfold copy at h
  obtain ⟨⟨a, e⟩, hf, h⟩ := bind_eq_ok.mp h
  cases e with
  | directory => cases h
  | link target => cases h
  | file bytes executable number =>
    obtain ⟨b, hl, h⟩ := bind_eq_ok.mp h
    exact ⟨a, b, bytes, executable, number, hf, hl, (Except.ok.inj h).symm⟩

/-- Where the source of a copy is a file, only its destination can be in the way. -/
theorem landing_of_copy_eq_error {source dest : String} {a : Location} {x : Bool}
    {number : Option Nat} {fault : Fault}
    (hf : t.find cwd source = .ok (a, .file bytes x number))
    (h : t.copy cwd source dest = .error fault) : t.landing cwd dest = .error fault := by
  unfold copy at h
  rw [hf] at h
  simp only [bind, Except.bind] at h
  cases hl : t.landing cwd dest with
  | error fault' =>
    rw [hl] at h
    exact congrArg Except.error (Except.error.inj h)
  | ok b =>
    rw [hl] at h
    cases h

/-- Two paths lead to one file. -/
def isOneFile (t : FileTree) (cwd : Location) (p q : String) : Bool :=
  match t.locate cwd p, t.locate cwd q with
  | .ok a, .ok b => t.isSameFile a b
  | _, _ => false

/-- A copy can be read at both of its ends. Both have what the source had, unless they are one file:
that one is empty. -/
theorem copied {source dest : String} (h : t.copy cwd source dest = .ok u) :
    ∃ a bytes executable number, t.find cwd source = .ok (a, .file bytes executable number) ∧
      u.locate cwd source = .ok a ∧
      let left := if u.isOneFile cwd source dest then ByteArray.empty else bytes
      u.read cwd dest = .ok left ∧ u.read cwd source = .ok left := by
  obtain ⟨a, b, bytes, executable, number, hf, hl, rfl⟩ := copy_eq_ok h
  refine ⟨a, bytes, executable, number, hf, ?_⟩
  obtain ⟨hres, ha⟩ := find_eq_ok.mp hf
  generalize hleft : (if t.isSameFile a b then ByteArray.empty else bytes) = left
  obtain ⟨m, hget⟩ := get?_fill_of_landing hl left executable
  have hsource : (t.fill b left executable).locate cwd source = .ok a :=
    locate_grows (grows_fill hl) (locate_eq_ok.mpr hres)
  have hdest : (t.fill b left executable).locate cwd dest = .ok b := locate_fill hl
  have hone : (t.fill b left executable).isOneFile cwd source dest = t.isSameFile a b := by
    unfold isOneFile
    rw [hsource, hdest]
    exact isSameFile_comm.trans ((isSameFile_fill_of_landing hl).trans isSameFile_comm)
  have hb : (t.fill b left executable).get? b = some (.file left executable m) := by
    rw [hget, if_pos (by simp [isSameFile])]
  refine ⟨hsource, ?_⟩
  simp only [hone, hleft]
  refine ⟨read_eq_ok.mpr ⟨b, executable, m, hdest, hb⟩, ?_⟩
  have hafter := hget a
  split at hafter
  · exact read_eq_ok.mpr ⟨a, executable, m, hsource, hafter⟩
  · -- The source is another file, so it is as it was, and what was copied is what it had.
    rename_i hsame
    rw [isSameFile_comm] at hsame
    rw [if_neg hsame] at hleft
    subst hleft
    exact read_eq_ok.mpr ⟨a, executable, number, hsource, hafter.trans ha⟩

end FileTree

end BenchCheckout
