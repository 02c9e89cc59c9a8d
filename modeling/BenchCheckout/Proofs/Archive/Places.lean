import BenchCheckout.Archive.Basic
import BenchCheckout.Proofs.Files.Walks
import BenchCheckout.Proofs.Names

/-!
# Where archives are

An archive's path is absolute, and so the text of it tells its directory and the place of the
download: `Archive.place`, `Archive.dir` and `Archive.partialPlace`, without a way to fail.

* `Archive.pathFrom_eq`, `Archive.parent?_place`, `Archive.partialPath_place`: the three texts are
  what the program computes.
* `Archive.along_place`, `Archive.along_dir`, `Archive.along_partialPlace`: their locations.
-/

namespace BenchCheckout

namespace Location

variable {l : Location}

theorem text_concat (l : Location) (n : String) :
    text (l ++ [n]) = (if l = [] then "" else text l) ++ "/" ++ n := by
  by_cases h : l = []
  · subst h
    simp [text]
  · simp [text, h, String.append_assoc]

theorem text_eq_foldl (h : ∀ n ∈ l, IsName n) : text l = l.foldl Path.join "/" := by
  obtain ⟨r, hr⟩ : ∃ r, r = l.reverse := ⟨_, rfl⟩
  induction r generalizing l with
  | nil => simp_all [text]
  | cons n r ih =>
    obtain rfl : l = r.reverse ++ [n] := by
      rw [← List.reverse_reverse l, ← hr]; simp
    have hn := (h n (by simp)).isStep
    have hr := ih (l := r.reverse) (fun m hm => h m (List.mem_append_left _ hm)) (by simp)
    rw [text_concat, List.foldl_append, List.foldl_cons, List.foldl_nil, ← hr]
    cases r with
    | nil => simp [text, Path.join, hn.startsAtRoot_eq, show Path.endsWithSlash "/" by decide]
    | cons m r =>
      have hm := (h m (by simp)).isStep
      have hj : text (m :: r).reverse = Path.join (r.reverse.foldl Path.join "/") m := by
        rw [hr, List.reverse_cons, List.foldl_append, List.foldl_cons, List.foldl_nil]
      rw [if_neg (by simp), Path.join, if_neg (by simp [hn.startsAtRoot_eq]), if_neg]
      rw [hj]
      simp [Path.join_ne_empty hm, Path.endsWithSlash_join hm]

theorem isNormal_text (h : ∀ n ∈ l, IsName n) : Path.IsNormal (text l) := by
  rw [text_eq_foldl h]
  exact Path.isNormal_foldl_join .root fun n hn => (h n hn).isStep

theorem steps_text (h : ∀ n ∈ l, IsName n) : Path.steps (text l) = l := by
  rw [text_eq_foldl h, Path.steps_foldl_join fun n hn => (h n hn).isStep,
    show Path.steps "/" = [] by decide, List.nil_append]

end Location

namespace Archive

/-- The absolute path of the archive directory, as an archive's path begins with it. -/
def home (cwd : Location) (archiveDir : String) : String :=
  Path.absoluteDir cwd.text archiveDir

/-- The absolute path of the archive directory, as it is created. -/
def dir (cwd : Location) (archiveDir : String) : String :=
  if home cwd archiveDir = "//" then "/" else home cwd archiveDir

/-- The absolute path of a project's archive. -/
def place (cwd : Location) (archiveDir : String) (project : ProjectId) : String :=
  Path.join (home cwd archiveDir) project.archiveName

/-- The absolute path of a project's archive while it is being downloaded. -/
def partialPlace (cwd : Location) (archiveDir : String) (project : ProjectId) : String :=
  Path.join (home cwd archiveDir) project.partialName

variable {cwd : Location} {archiveDir : String} {project : ProjectId}

theorem pathFrom_eq : pathFrom cwd archiveDir project = .ok (place cwd archiveDir project) := by
  unfold pathFrom
  simp only [Path.absolute_join (ProjectId.isName_archiveName project).isStep]
  rfl

theorem ends_place (cwd : Location) (archiveDir : String) (project : ProjectId) :
    Path.Ends (place cwd archiveDir project) (home cwd archiveDir) project.archiveName :=
  Path.ends_join project.isName_archiveName.isStep

theorem ends_partialPlace (cwd : Location) (archiveDir : String) (project : ProjectId) :
    Path.Ends (partialPlace cwd archiveDir project) (home cwd archiveDir) project.partialName :=
  Path.ends_join project.isName_partialName.isStep

theorem partialPlace_ne_place :
    partialPlace cwd archiveDir project ≠ place cwd archiveDir project := by
  intro h
  have hp := congrArg Path.pieces h
  have hn := (ProjectId.isName_archiveName project).isStep
  have hn' := (ProjectId.isName_partialName project).isStep
  rw [partialPlace, place, Path.pieces_join hn'.startsAtRoot_eq, Path.pieces_join hn.startsAtRoot_eq,
    hn.pieces_eq, hn'.pieces_eq] at hp
  exact ProjectId.archiveName_ne_partialName project project
    (List.singleton_inj.mp (List.append_cancel_left hp)).symm

variable (hcwd : ∀ n ∈ cwd, IsName n)

include hcwd

omit hcwd in
theorem isNormal_home (archiveDir : String) (hcwd : ∀ n ∈ cwd, IsName n) :
    Path.IsNormal (home cwd archiveDir) :=
  Path.isNormal_absoluteDir (Location.isNormal_text hcwd) archiveDir

omit hcwd in
theorem isNormal_dir (archiveDir : String) (hcwd : ∀ n ∈ cwd, IsName n) :
    Path.IsNormal (dir cwd archiveDir) := by
  unfold dir
  split
  · exact .root
  · exact isNormal_home _ hcwd

omit hcwd in
theorem dir_eq_home (hroot : dir cwd archiveDir ≠ "/") :
    dir cwd archiveDir = home cwd archiveDir := by
  unfold dir at hroot ⊢
  split
  · rename_i hr
    rw [if_pos hr] at hroot
    exact absurd rfl hroot
  · rfl

theorem openPieces_home (hroot : dir cwd archiveDir ≠ "/") :
    Path.openPieces (home cwd archiveDir) = Path.pieces (home cwd archiveDir) := by
  have hd := dir_eq_home hroot
  rcases (isNormal_home archiveDir hcwd).openPieces_eq with h | h | h
  · exact absurd (hd.trans h) hroot
  · rw [dir, if_pos h, h] at hd
    exact absurd hd (by decide)
  · exact h

theorem parent?_place :
    Path.parent? (place cwd archiveDir project) = some (dir cwd archiveDir) :=
  Path.parent?_join (isNormal_home _ hcwd) (ProjectId.isName_archiveName project).isStep

theorem steps_home : Path.steps (home cwd archiveDir) = cwd.along archiveDir := by
  rw [home, Path.steps_absoluteDir, Location.steps_text hcwd, Location.along, Location.start]

theorem along_home : cwd.along (home cwd archiveDir) = cwd.along archiveDir := by
  rw [Location.along, Location.start, (isNormal_home _ hcwd).startsAtRoot_eq, steps_home hcwd,
    if_pos rfl, List.nil_append]

theorem along_dir : cwd.along (dir cwd archiveDir) = cwd.along archiveDir := by
  have hh : cwd.along (home cwd archiveDir) = cwd.along archiveDir := along_home hcwd
  unfold dir
  split
  · rename_i h
    rw [h] at hh
    rw [← hh]
    simp [Location.along, Location.start, show Path.startsAtRoot "/" by decide,
      show Path.startsAtRoot "//" by decide, show Path.steps "/" = Path.steps "//" by decide]
  · exact hh

theorem along_place :
    cwd.along (place cwd archiveDir project) = cwd.along archiveDir ++ [project.archiveName] := by
  rw [place, Location.along_join_step (ProjectId.isName_archiveName project).isStep,
    along_home hcwd]

theorem along_partialPlace :
    cwd.along (partialPlace cwd archiveDir project) =
      cwd.along archiveDir ++ [project.partialName] := by
  rw [partialPlace, Location.along_join_step (ProjectId.isName_partialName project).isStep,
    along_home hcwd]

theorem steps_dir : Path.steps (dir cwd archiveDir) = cwd.along archiveDir := by
  rw [← along_dir hcwd, Location.along, Location.start, (isNormal_dir _ hcwd).startsAtRoot_eq,
    if_pos rfl, List.nil_append]

section Plain

variable (hup : ".." ∉ Path.steps archiveDir)

include hup

theorem up_not_mem_steps_home : ".." ∉ Path.steps (home cwd archiveDir) := by
  rw [steps_home hcwd, Location.along, List.mem_append, not_or]
  refine ⟨fun hc => ?_, hup⟩
  unfold Location.start at hc
  split at hc
  · cases hc
  · exact (hcwd _ hc).2.2.1 rfl

theorem up_not_mem_steps_dir : ".." ∉ Path.steps (dir cwd archiveDir) := by
  rw [steps_dir hcwd, ← steps_home hcwd]
  exact up_not_mem_steps_home hcwd hup

theorem up_not_mem_steps_place : ".." ∉ Path.steps (place cwd archiveDir project) :=
  (ends_place cwd archiveDir project).up_not_mem_steps (up_not_mem_steps_home hcwd hup)
    project.isName_archiveName.2.2.1

theorem up_not_mem_steps_partialPlace :
    ".." ∉ Path.steps (partialPlace cwd archiveDir project) :=
  (ends_partialPlace cwd archiveDir project).up_not_mem_steps (up_not_mem_steps_home hcwd hup)
    project.isName_partialName.2.2.1

end Plain

omit hcwd in
theorem partialPath_place :
    partialPath (place cwd archiveDir project) = partialPlace cwd archiveDir project :=
  Path.withExtension_join (ProjectId.isName_archiveName project).isStep
    (ProjectId.isName_archiveName project).2.2.1 (ProjectId.isName_partialName project).isStep

end Archive

end BenchCheckout
