import BenchCheckout.Proofs.Files.Plain

/-!
# Files that stay files

In a tree without links, a write to a path that can be read fills the file that the path leads to,
under each of its names, and nothing else. The tree has the same shape as before, so every path leads
where it led. A file that is moved is a file where it arrives.

* `landing_shape`: where a write goes depends on the shape of a tree alone.
* `get?_fill`: what a write changes.
* `isFile_of_rename`: what a move leaves at its end.
* `Call.perform_write_of_readText`: a write behind a reading of the same path.
-/

namespace BenchCheckout

namespace FileTree

variable {t u : FileTree} {cwd here k l : Location} {p : String} {bytes : ByteArray}
  {executable : Bool}

/-- There is a file at the location. -/
def IsFileAt (t : FileTree) (l : Location) : Prop :=
  ∃ bytes executable number, t.get? l = some (.file bytes executable number)

/-! ## Shapes -/

/-- At each location both trees have a directory, both have something else, or both have nothing. -/
def SameShape (t u : FileTree) : Prop :=
  ∀ k, (t.get? k).map Entry.isDirectory = (u.get? k).map Entry.isDirectory

theorem SameShape.directory_iff (h : SameShape t u) :
    t.get? k = some .directory ↔ u.get? k = some .directory := by
  have hdir (s : FileTree) :
      s.get? k = some .directory ↔ (s.get? k).map Entry.isDirectory = some true := by
    cases s.get? k with
    | none => simp
    | some e => cases e <;> simp [Entry.isDirectory]
  rw [hdir, hdir, h k]

theorem SameShape.none_iff (h : SameShape t u) : t.get? k = none ↔ u.get? k = none := by
  rw [← Option.map_eq_none_iff (f := Entry.isDirectory), h k, Option.map_eq_none_iff]

section Shape

variable (ht : t.SymlinkFree) (hu : u.SymlinkFree) (h : SameShape t u)

include ht hu h

/-- Without links there is only one way to go on behind an entry. -/
theorem entry_cases (k : Location) :
    (t.get? k = none ∧ u.get? k = none) ∨
    (t.get? k = some .directory ∧ u.get? k = some .directory) ∨
    (t.IsFileAt k ∧ u.IsFileAt k) := by
  rcases he : t.get? k with _ | (⟨b, x, n⟩ | _ | target)
  · exact .inl ⟨rfl, h.none_iff.mp he⟩
  · refine .inr (.inr ⟨⟨b, x, n, he⟩, ?_⟩)
    rcases he' : u.get? k with _ | (⟨b', x', n'⟩ | _ | target)
    · cases he.symm.trans (h.none_iff.mpr he')
    · exact ⟨b', x', n', he'⟩
    · cases he.symm.trans (h.directory_iff.mpr he')
    · exact absurd he' (hu k target)
  · exact .inr (.inl ⟨rfl, h.directory_iff.mp he⟩)
  · exact absurd he (ht k target)

theorem follow_shape {onLink onLink' : Location → String → List String → Except Fault Place}
    {ps : List String} : t.follow onLink here ps = u.follow onLink' here ps := by
  induction ps generalizing here with
  | nil => rfl
  | cons q ps ih =>
    simp only [follow, ne_eq, h.directory_iff (k := here), ih]
    rcases entry_cases ht hu h (here ++ [q]) with
      ⟨he, he'⟩ | ⟨he, he'⟩ | ⟨⟨_, _, _, he⟩, ⟨_, _, _, he'⟩⟩ <;>
      rw [he, he']

theorem walk_shape (links : Nat) (here : Location) (ps : List String) :
    t.walk links here ps = u.walk links here ps := by
  cases links <;> exact follow_shape ht hu h

omit ht hu in
theorem checkPath_shape : t.checkPath cwd p = u.checkPath cwd p := by
  simp only [checkPath, ne_eq, h.directory_iff (k := cwd.start p)]

theorem resolve_shape : t.resolve cwd p = u.resolve cwd p := by
  unfold resolve
  rw [checkPath_shape h, walk_shape ht hu h]

theorem spot_shape : t.spot cwd p = u.spot cwd p := by
  unfold spot
  simp only [checkPath_shape h, walk_shape ht hu h]

theorem landingWithin_shape (links : Nat) :
    t.landingWithin links cwd p = u.landingWithin links cwd p := by
  unfold landingWithin
  rw [spot_shape ht hu h]
  cases u.spot cwd p with
  | error fault => rfl
  | ok s =>
    simp only [bind, Except.bind]
    by_cases hn : ¬ IsName s.last ∨ s.slash
    · rw [if_pos hn, if_pos hn]
    rw [if_neg hn, if_neg hn, lookUp, lookUp]
    by_cases hsize : nameLimit < s.last.utf8ByteSize
    · rw [if_pos hsize, if_pos hsize]
    rw [if_neg hsize, if_neg hsize]
    rcases entry_cases ht hu h s.location with
      ⟨he, he'⟩ | ⟨he, he'⟩ | ⟨⟨_, _, _, he⟩, ⟨_, _, _, he'⟩⟩ <;>
      rw [he, he']

theorem landing_shape : t.landing cwd p = u.landing cwd p := by
  unfold landing
  rw [landingWithin_shape ht hu h, resolve_shape ht hu h]

end Shape

/-! ## Filling a file -/

/-- Where a write goes is known when all links on the way can be followed. -/
theorem landing_eq_ok (h : t.landing cwd p = .ok l) :
    t.landingWithin linkLimit cwd p = .ok l ∧ t.resolve cwd p ≠ .error .tooManyLinks := by
  unfold landing at h
  obtain ⟨k, hl, h⟩ := bind_eq_ok.mp h
  split at h
  · cases h
  · rename_i hlinks
    cases h
    exact ⟨hl, hlinks⟩

/-- A write goes to the entry that its path names, or on through the link that is there. -/
theorem landingWithin_cases {links : Nat} (h : t.landingWithin links cwd p = .ok l) :
    ∃ s, t.spot cwd p = .ok s ∧ IsName s.last ∧ s.slash = false ∧
      s.last.utf8ByteSize ≤ nameLimit ∧
      ((l = s.location ∧ (t.IsFileAt l ∨ t.get? l = none)) ∨
        ∃ n target, links = n + 1 ∧ t.get? s.location = some (.link target) ∧
          t.landingWithin n s.dir target = .ok l) := by
  unfold landingWithin at h
  obtain ⟨s, hs, h⟩ := bind_eq_ok.mp h
  split at h
  · cases h
  rename_i hn
  obtain ⟨hname, hslash⟩ := not_or.mp hn
  obtain ⟨found, hl, h⟩ := bind_eq_ok.mp h
  obtain ⟨hfit, rfl⟩ := lookUp_eq_ok hl
  refine ⟨s, hs, Classical.not_not.mp hname, by simpa using hslash, hfit, ?_⟩
  rcases he : t.get? s.location with _ | (⟨b, x, n⟩ | _ | target) <;> rw [he] at h
  · cases h
    exact .inl ⟨rfl, .inr he⟩
  · cases h
    exact .inl ⟨rfl, .inl ⟨b, x, n, he⟩⟩
  · cases h
  · cases links with
    | zero => cases h
    | succ n => exact .inr ⟨n, target, rfl, rfl, h⟩

/-- Without links a write goes to the entry that its path names, and that is no directory. -/
theorem landingWithin_eq_ok {links : Nat} (ht : t.SymlinkFree)
    (h : t.landingWithin links cwd p = .ok l) :
    ∃ s, t.spot cwd p = .ok s ∧ IsName s.last ∧ l = s.location ∧
      t.get? l ≠ some .directory := by
  obtain ⟨s, hs, hn, -, -, ⟨rfl, he⟩ | ⟨n, target, -, he, -⟩⟩ := landingWithin_cases h
  · refine ⟨s, hs, hn, rfl, fun hd => ?_⟩
    rcases he with ⟨b, x, m, he⟩ | he <;> cases he.symm.trans hd
  · exact absurd he (ht _ target)

/-- All the names of a file have its new content. -/
theorem get?_fill {old : ByteArray} {x : Bool} {number : Option Nat}
    (h : t.get? k = some (.file old x number)) (l : Location) :
    (t.fill k bytes executable).get? l =
      if t.isSameFile k l then some (.file bytes executable number) else t.get? l := by
  have hname : k ≠ [] := by
    rintro rfl
    rw [get?_root] at h
    cases h
  obtain ⟨dir, n, rfl⟩ : ∃ dir n, k = dir ++ [n] :=
    ⟨_, _, (List.dropLast_concat_getLast hname).symm⟩
  unfold fill isSameFile
  rw [h]
  cases number with
  | none =>
    have hput : t.CanPut dir n (.file bytes executable none) :=
      ⟨isName_of_get? h (by simp), get?_parent h, fun hd => by cases h.symm.trans hd⟩
    simp only [Option.bind, Entry.number?, putAt, List.getLast?_concat, List.dropLast_concat,
      get?_put hput, Bool.or_false, beq_iff_eq, eq_comm (a := l)]
  | some m =>
    simp only [Option.bind, Entry.number?, get?_refill]
    by_cases hl : dir ++ [n] = l
    · subst hl
      simp [h, Entry.refilled, Entry.number?]
    · rcases t.get? l with _ | (⟨b, y, _ | j⟩ | _ | _)
      all_goals simp [Entry.refilled, Entry.number?, hl, eq_comm (a := m)]
      split <;> rfl

/-- The names of one file have one number. -/
theorem file_of_isSameFile {old : ByteArray} {x : Bool} {number : Option Nat}
    (h : t.get? k = some (.file old x number)) (hsame : t.isSameFile k l) :
    ∃ b y, t.get? l = some (.file b y number) := by
  unfold isSameFile at hsame
  rw [h, Bool.or_eq_true, beq_iff_eq] at hsame
  rcases hsame with rfl | hsame
  · exact ⟨_, _, h⟩
  · cases number with
    | none => cases hsame
    | some m =>
      rcases hl : t.get? l with _ | (⟨b, y, _ | j⟩ | _ | _) <;> rw [hl] at hsame <;>
        simp [Entry.number?] at hsame
      rw [hsame]
      exact ⟨b, y, rfl⟩

section Fill

variable {old : ByteArray} {x : Bool} {number : Option Nat}
  (h : t.get? k = some (.file old x number))

include h

theorem isSameFile_fill : (t.fill k bytes executable).isSameFile k l = t.isSameFile k l := by
  have hnumber (j : Location) : ((t.fill k bytes executable).get? j).bind (·.number?) =
      (t.get? j).bind (·.number?) := by
    rw [get?_fill h]
    split
    · rename_i hsame
      obtain ⟨b, y, hj⟩ := file_of_isSameFile h hsame
      rw [hj]
      rfl
    · rfl
  rw [isSameFile, isSameFile, hnumber, hnumber]

theorem isFileAt_fill : (t.fill k bytes executable).IsFileAt l ↔ t.IsFileAt l := by
  unfold IsFileAt
  rw [get?_fill h]
  split
  · rename_i hsame
    obtain ⟨b, y, hl⟩ := file_of_isSameFile h hsame
    exact iff_of_true ⟨_, _, _, rfl⟩ ⟨_, _, _, hl⟩
  · rfl

theorem sameShape_fill : SameShape (t.fill k bytes executable) t := by
  intro l
  rw [get?_fill h]
  split
  · rename_i hsame
    obtain ⟨b, y, hl⟩ := file_of_isSameFile h hsame
    rw [hl]
    rfl
  · rfl

theorem SymlinkFree.fill (ht : t.SymlinkFree) : (t.fill k bytes executable).SymlinkFree := by
  intro l target
  rw [get?_fill h]
  split
  · simp
  · exact ht l target

end Fill

/-! ## Writing behind a reading -/

/-- What can be read is in a file, and a write to the same path goes there. -/
theorem isFileAt_landing {content : String} (ht : t.SymlinkFree)
    (hread : t.readText cwd p = .ok content) (h : t.landing cwd p = .ok l) : t.IsFileAt l := by
  obtain ⟨s, hs, hn, rfl, hdir⟩ := landingWithin_eq_ok ht (landing_eq_ok h).1
  obtain ⟨k, hk⟩ : ∃ k, t.resolve cwd p = .ok (.found k) := by
    unfold readText at hread
    obtain ⟨bytes, hread, -⟩ := bind_eq_ok.mp hread
    obtain ⟨k, _, _, hl, -⟩ := read_eq_ok.mp hread
    exact ⟨k, locate_eq_ok.mp hl⟩
  obtain ⟨s', hs', hexists⟩ := spot_of_resolve hk
  obtain rfl := Except.ok.inj (hs.symm.trans hs')
  obtain ⟨e, he⟩ := hexists hn
  cases e with
  | file b x n => exact ⟨b, x, n, he⟩
  | directory => exact absurd he hdir
  | link target => exact absurd he (ht _ target)

/-! ## Moving a file -/

/-- A file that is moved is a file where it arrives. -/
theorem isFile_of_rename {p' q q' n m : String} (ht : t.SymlinkFree) (h : Path.Ends p q n)
    (hup : ".." ∉ Path.steps q) (h' : Path.Ends p' q' m) (hup' : ".." ∉ Path.steps p')
    (he : t.IsFileAt (cwd.along p)) (hu : t.rename cwd p p' = .ok u) : u.isFile cwd p' := by
  have hupq' : ".." ∉ Path.steps q' := fun hc => hup' (by simp [h'.steps_eq, hc])
  obtain ⟨bytes, x, number, he⟩ := he
  obtain ⟨a, b, e, ha, hb, -, -, hea, -, -, hslash, hmoved⟩ := rename_eq_ok hu
  have hfit := nameFits_of_rename hu hb
  obtain rfl := ((spot_iff ht h hup).mp ha).1
  obtain ⟨rfl, hz, hsize, hfits, -⟩ := (spot_iff ht h' hupq').mp hb
  simp only [Spot.location, ← Location.along_ends h, ← Location.along_ends h'] at hea hmoved
  obtain rfl : .file bytes x number = e := Option.some.inj (he.symm.trans hea)
  refine (isFile_iff (ht.rename hu) hup').mpr ⟨⟨h'.ne_empty, hz, hsize, fun k hk => ?_⟩, ?_, ?_⟩
  · rw [h'.steps_eq, List.mem_append, List.mem_singleton] at hk
    rcases hk with hk | rfl
    · exact hfits k hk
    · exact hfit
  · rw [h'.endsIdle_iff, show Path.endsWithSlash p' = false from (hslash rfl).2]
    simp
  · rcases hmoved with ⟨hsame, rfl⟩ | ⟨-, -, hget⟩
    · obtain ⟨b, y, hb⟩ := file_of_isSameFile hea hsame
      exact ⟨b, y, number, hb⟩
    · exact ⟨bytes, x, number, by simp [hget, hea]⟩

end FileTree

open FileTree

variable {t : FileTree} {cwd : Location} {p : String}

/-- Writing to a path that can be read makes no file and no directory. It changes the file that the
path leads to and nothing else. -/
theorem Call.perform_write_of_readText {content : String} (text : String) (ht : t.SymlinkFree)
    (hread : t.readText cwd p = .ok content) :
    let r := ((Call.write p text).perform cwd t).1
    let u := ((Call.write p text).perform cwd t).2
    u.SymlinkFree ∧ (∀ l, u.IsFileAt l ↔ t.IsFileAt l) ∧
    ∀ l, u.get? l = t.get? l ∨
      r = .ok () ∧ ∃ k, u.landing cwd p = .ok k ∧ u.isSameFile k l := by
  rw [perform_write]
  unfold FileTree.write
  cases hl : t.landing cwd p with
  | error fault => exact ⟨ht, fun _ => .rfl, fun _ => .inl rfl⟩
  | ok k =>
    obtain ⟨b, x, n, he⟩ := isFileAt_landing ht hread hl
    have hu : (t.fill k text.toUTF8 (t.isExecutableAt k)).SymlinkFree := SymlinkFree.fill he ht
    refine ⟨hu, fun l => isFileAt_fill he, fun l => ?_⟩
    show (t.fill k text.toUTF8 (t.isExecutableAt k)).get? l = _ ∨ _
    rw [get?_fill he]
    split
    · rename_i hsame
      exact .inr ⟨rfl, k, (landing_shape hu ht (sameShape_fill he)).trans hl,
        (isSameFile_fill he).trans hsame⟩
    · exact .inl rfl

end BenchCheckout
