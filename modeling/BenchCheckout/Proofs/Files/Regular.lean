import BenchCheckout.Proofs.Absolute
import BenchCheckout.Proofs.Files.Landing

/-!
# Paths to files

`fileAt` tells which file a path leads to, if it is one. A path to a file does not end in an idle
piece, so it is the path of a name in a directory and has an absolute path that says the same.

* `isFile_eq`: a path is one of a file if there is a file that it leads to.
* `last_of_fileAt`: a path to a file ends in a name.
* `fileAt_eq_of_startsAtRoot`: a path from the root says the same everywhere.
* `fileAt_grows`: a larger tree has the files where they were.
* `fileAt_of_steps`, `fileAt_absolute`: the absolute path of a file leads to it from everywhere.
-/

namespace BenchCheckout

namespace Path

variable {cwd p q : String}

/-- What does not end in an idle piece is the path of a name in a directory. -/
theorem exists_join_of_not_endsIdle (h : ¬ EndsIdle (pieces p)) :
    ∃ a n, IsStep n ∧ p = join a n := by
  obtain ⟨ps, n, hp⟩ := (List.eq_nil_or_concat _).resolve_left (pieces_ne_nil p)
  rw [List.concat_eq_append] at hp
  rw [hp, endsIdle_concat, Bool.not_eq_true] at h
  have hslash : ∀ m ∈ pieces p, '/' ∉ m.toList := fun m hm => not_mem_of_mem_pieces hm
  rw [hp, List.forall_mem_append] at hslash
  have hn : IsStep n := ⟨hslash.2 n (List.mem_singleton_self n), h⟩
  by_cases hps : ps = []
  · refine ⟨"", n, hn, pieces_injective ?_⟩
    rw [pieces_join hn.startsAtRoot_eq, hn.pieces_eq, hp, hps]
    rfl
  · refine ⟨ofPieces ps ++ "/", n, hn, pieces_injective ?_⟩
    rw [pieces_join hn.startsAtRoot_eq, hn.pieces_eq, hp, openPieces_append_slash,
      pieces_ofPieces hps hslash.1]

/-- The absolute path of a name in a directory is one, too. -/
theorem not_endsIdle_of_absolute (hp : ¬ EndsIdle (pieces p)) (h : absolute cwd p = .ok q) :
    ¬ EndsIdle (pieces q) := by
  obtain ⟨a, n, hn, rfl⟩ := exists_join_of_not_endsIdle hp
  obtain rfl := Except.ok.inj ((absolute_join hn).symm.trans h)
  exact not_endsIdle_join hn

end Path

namespace FileTree

variable {t u : FileTree} {cwd dir l : Location} {p q : String}

/-- The file that a path leads to. -/
def fileAt (t : FileTree) (cwd : Location) (path : String) : Option Location :=
  match t.find cwd path with
  | .ok (l, .file ..) => some l
  | _ => none

theorem fileAt_eq_some_iff :
    t.fileAt cwd p = some l ↔ ∃ bytes x n, t.find cwd p = .ok (l, .file bytes x n) := by
  unfold fileAt
  split
  · rename_i k bytes x n hf
    rw [hf]
    exact ⟨fun h => ⟨bytes, x, n, by rw [Option.some.inj h]⟩, fun ⟨_, _, _, h⟩ => by cases h; rfl⟩
  · rename_i hf
    exact iff_of_false nofun fun ⟨bytes, x, n, h⟩ => hf _ _ _ _ h

theorem isFile_eq (t : FileTree) (cwd : Location) (p : String) :
    t.isFile cwd p = (t.fileAt cwd p).isSome := by
  unfold isFile fileAt
  cases t.find cwd p with
  | error fault => rfl
  | ok found =>
    obtain ⟨l, e⟩ := found
    cases e <;> rfl

theorem exists_fileAt (h : t.isFile cwd p) : ∃ l, t.fileAt cwd p = some l :=
  Option.isSome_iff_exists.mp (isFile_eq t cwd p ▸ h)

/-- A path from the root is not looked at from anywhere. -/
theorem find_eq_of_startsAtRoot (h : Path.startsAtRoot p = true) (cwd dir : Location) :
    t.find dir p = t.find cwd p := by
  unfold find locate resolve checkPath Location.start
  simp only [if_pos h]

theorem fileAt_eq_of_startsAtRoot (h : Path.startsAtRoot p = true) (cwd dir : Location) :
    t.fileAt dir p = t.fileAt cwd p := by
  unfold fileAt
  rw [find_eq_of_startsAtRoot h cwd dir]

/-- A path to a file ends in a piece that leads down: any other asks for a directory. -/
theorem last_of_fileAt (h : t.fileAt cwd p = some l) :
    ∃ n, (Path.pieces p).getLast? = some n ∧ Path.isIdle n = false ∧ n ≠ ".." := by
  obtain ⟨bytes, x, _, hf⟩ := fileAt_eq_some_iff.mp h
  obtain ⟨hres, he⟩ := find_eq_ok.mp hf
  obtain ⟨ps, n, hp⟩ := (List.eq_nil_or_concat _).resolve_left (Path.pieces_ne_nil p)
  rw [List.concat_eq_append] at hp
  unfold resolve at hres
  rw [checkPath_of_find hf, hp] at hres
  have hn : ¬ (Path.isIdle n = true ∨ n = "..") := fun hn => by
    cases (get?_of_walk_last hn hres).symm.trans he
  rw [not_or, Bool.not_eq_true] at hn
  exact ⟨n, by rw [hp, List.getLast?_concat], hn⟩

theorem not_endsIdle_of_fileAt (h : t.fileAt cwd p = some l) :
    ¬ Path.EndsIdle (Path.pieces p) := by
  obtain ⟨n, hlast, hbusy, -⟩ := last_of_fileAt h
  rintro ⟨m, hm, hidle⟩
  obtain rfl := Option.some.inj (hlast.symm.trans hm)
  rw [hbusy] at hidle
  cases hidle

/-- In a larger tree a path leads to the same file. -/
theorem fileAt_grows (htu : t.Grows u) (h : t.fileAt cwd p = some l) :
    u.fileAt cwd p = some l := by
  obtain ⟨bytes, x, n, hf⟩ := fileAt_eq_some_iff.mp h
  obtain ⟨hres, he⟩ := find_eq_ok.mp hf
  have hres' := locate_eq_ok.mp (locate_grows htu (locate_eq_ok.mpr hres))
  obtain ⟨e', he', hkind⟩ := htu l _ he
  cases hkind
  exact fileAt_eq_some_iff.mpr ⟨_, _, _, find_eq_ok.mpr ⟨hres', he'⟩⟩

/-- A path from the root that goes the same steps leads to the file, too, and from everywhere. -/
theorem fileAt_of_steps (h : t.fileAt cwd p = some l) (hq : ¬ Path.EndsIdle (Path.pieces q))
    (husable : Path.IsUsable q) (hroot : Path.startsAtRoot q = true)
    (hsteps : Path.steps q = cwd.along p) (dir : Location) : t.fileAt dir q = some l := by
  obtain ⟨bytes, x, n, hf⟩ := fileAt_eq_some_iff.mp h
  have hfind := find_eq_of_steps (not_endsIdle_of_fileAt h) hq (checkPath_of_find hf) husable hroot
    hsteps dir
  exact fileAt_eq_some_iff.mpr ⟨bytes, x, n, hfind.trans hf⟩

/-- The absolute path of a file leads to the file from everywhere. -/
theorem fileAt_absolute (hcwd : ∀ n ∈ cwd, IsName n) (h : t.fileAt cwd p = some l)
    (hq : Path.absolute cwd.text p = .ok q) (husable : Path.IsUsable q) (dir : Location) :
    t.fileAt dir q = some l := by
  have hres := Path.isResolved_of_absolute hcwd hq
  exact fileAt_of_steps h (Path.not_endsIdle_of_absolute (not_endsIdle_of_fileAt h) hq) husable
    hres.startsAtRoot_eq hres.steps_eq dir

/-- A path in a directory that was made absolute leads where the path in the directory leads. -/
theorem fileAt_join_absolute {a b r : String} (hcwd : ∀ n ∈ cwd, IsName n)
    (h : t.fileAt cwd (Path.join a b) = some l) (hr : Path.absolute cwd.text a = .ok r)
    (husable : Path.IsUsable (Path.join r b)) (dir : Location) :
    t.fileAt dir (Path.join r b) = some l := by
  cases hb : Path.startsAtRoot b with
  | true =>
    rw [Path.join, if_pos hb] at h ⊢
    exact (fileAt_eq_of_startsAtRoot hb cwd dir).trans h
  | false =>
    have hres := Path.isResolved_of_absolute hcwd hr
    refine fileAt_of_steps h ?_ husable ?_ ?_ dir
    · rw [Path.endsIdle_join hb, ← Path.endsIdle_join (a := a) hb]
      exact not_endsIdle_of_fileAt h
    · rw [Path.startsAtRoot_join hb, hres.startsAtRoot_eq]
    · rw [Path.steps_join hb, hres.steps_eq, Location.along_join hb]

end FileTree

end BenchCheckout
