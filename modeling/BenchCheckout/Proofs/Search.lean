import BenchCheckout.Proofs.Files.Regular
import BenchCheckout.Tool

/-!
# Looking for programs

`findProgram` looks for a program from the program's own directory, without starting it. A job is
looked for from the directory that it runs in. What was found is what is started, too, where neither
directory plays a part in it.

* `Path.endsIdle_of_components`: a path with a slash that counts as a bare name is no file's path.
* `FileTree.programFile`, `Job.file`: which file is started.
* `findProgram_of_slash`, `findProgram_of_bare`: a path with a slash is one of a file itself, and a
  name is looked for in the search path.
* `programFile_eq`: a program that is found is the one that is started from the same directory.
* `programFile_of_found`: and from every other one, if it is found by paths from the root.
-/

namespace BenchCheckout

/-! ## Components -/

namespace Path

variable {program : String}

/-- With a slash and one component at most, a path ends in an idle piece. -/
theorem endsIdle_of_components (hslash : '/' ∈ program.toList)
    (h : ¬ 1 < (components program).length) : EndsIdle (pieces program) := by
  obtain ⟨q, ps, hp⟩ := List.exists_cons_of_ne_nil (pieces_ne_nil program)
  have hps : ps ≠ [] := by
    rintro rfl
    have hq : q = program := by
      rw [← ofPieces_pieces program, hp]
      simp [ofPieces, glue]
    exact not_mem_of_mem_pieces (hp ▸ List.mem_cons_self) (hq ▸ hslash)
  have hidle : ps.filter (!isIdle ·) = [] := by
    rw [← List.length_eq_zero_iff]
    by_cases hq : q = ""
    · subst hq
      obtain ⟨n, ns, rfl⟩ := List.exists_cons_of_ne_nil hps
      have hroot : startsAtRoot program = true := startsAtRoot_iff.mpr ⟨n, ns, hp⟩
      simp only [components, hp, if_pos hroot, List.length_append, List.length_singleton] at h
      omega
    · simp only [components, hp, List.length_cons] at h
      omega
  refine ⟨ps.getLast hps, ?_, ?_⟩
  · rw [hp, List.getLast?_cons, List.getLast?_eq_some_getLast hps]
    rfl
  · simpa using List.filter_eq_nil_iff.mp hidle _ (List.getLast_mem hps)

/-- No piece counts as more than one component. -/
theorem length_components_le (p : String) :
    (components p).length ≤ (pieces p).length := by
  have hfilter (ps : List String) := List.length_filter_le (!isIdle ·) ps
  unfold components
  split
  · exact Nat.zero_le _
  · rename_i ps hp
    rw [hp, List.length_append, List.length_cons, Nat.add_comm]
    exact Nat.add_le_add (hfilter ps) (by split <;> simp)
  · rename_i q ps _ hp
    rw [hp, List.length_cons, List.length_cons]
    exact Nat.add_le_add_right (hfilter ps) 1

theorem getLast?_pieces_of_bare (hbare : '/' ∉ program.toList) :
    (pieces program).getLast? = some program := by
  rw [pieces_of_bare hbare, List.getLast?_singleton]

theorem components_of_bare (hbare : '/' ∉ program.toList) :
    ¬ 1 < (components program).length := by
  have := length_components_le program
  rw [pieces_of_bare hbare, List.length_singleton] at this
  omega

theorem empty_join (b : String) : join "" b = b := by
  rw [join]
  split
  · rfl
  · rw [if_pos (.inl rfl), String.empty_append]

/-- A joined path ends as what was joined does. -/
theorem getLast?_pieces_join (a b : String) :
    (pieces (join a b)).getLast? = (pieces b).getLast? := by
  cases hb : startsAtRoot b with
  | true => rw [join, if_pos hb]
  | false =>
    rw [pieces_join hb, List.getLast?_append, List.getLast?_eq_some_getLast (pieces_ne_nil b),
      Option.some_or]

end Path

/-! ## Starting programs -/

namespace FileTree

variable {t : FileTree} {cwd dir l : Location} {p searchPath program found : String}

/-- The file that is started by a path. -/
def programAt (t : FileTree) (cwd : Location) (path : String) : Option Location :=
  match t.find cwd path with
  | .ok (l, .file _ true _) => some l
  | _ => none

/-- The file that is started by the name of a program, or by a path to it if there is a slash. -/
def programFile (t : FileTree) (dir : Location) (searchPath program : String) : Option Location :=
  if '/' ∈ program.toList then t.programAt dir program
  else (searchDirs searchPath).findSome? fun d => t.programAt dir (Path.join d program)

/-- Every file can be started. -/
def AllExecutable (t : FileTree) : Prop :=
  ∀ l bytes x n, t.get? l = some (.file bytes x n) → x = true

theorem allExecutable_empty : AllExecutable empty := by
  intro l bytes x n
  cases l with
  | nil => simp [get?_root]
  | cons m l => simp [get?, empty]

theorem AllExecutable.put {name : String} {e : Entry} (ht : t.AllExecutable)
    (he : ∀ bytes x n, e = .file bytes x n → x = true) : (t.put l name e).AllExecutable := by
  intro k bytes x n hk
  by_cases h : t.CanPut l name e
  · rw [get?_put h] at hk
    split at hk
    · exact he bytes x n (Option.some.inj hk)
    · exact ht k bytes x n hk
  · rw [FileTree.put, dif_neg h] at hk
    exact ht k bytes x n hk

theorem programAt_eq (ht : t.AllExecutable) (cwd : Location) (p : String) :
    t.programAt cwd p = t.fileAt cwd p := by
  unfold programAt fileAt
  cases hf : t.find cwd p with
  | error fault => rfl
  | ok r =>
    obtain ⟨l, e⟩ := r
    cases e with
    | file bytes x n => rw [ht l bytes x n (find_eq_ok.mp hf).2]
    | directory => rfl
    | link target => rfl

end FileTree

/-- The file that is started for a job. It is looked for from the job's own directory. -/
def Job.file (job : Job) (t : FileTree) (cwd : Location) (searchPath : String) : Option Location :=
  match t.find cwd job.cwd with
  | .ok (dir, .directory) => t.programFile dir searchPath job.program
  | _ => none

variable {t : FileTree} {cwd dir l : Location} {searchPath program found : String}

/-! ## What is found -/

/-- What does not end in a name is no path of a file, whatever it is joined to. -/
theorem FileTree.isFile_join_eq_false (t : FileTree) (cwd : Location) {last : String}
    (hlast : (Path.pieces program).getLast? = some last)
    (h : Path.isIdle last = true ∨ last = "..") (d : String) :
    t.isFile cwd (Path.join d program) = false := by
  rw [Bool.eq_false_iff]
  intro hfile
  obtain ⟨l, hl⟩ := exists_fileAt hfile
  obtain ⟨n, hn, hbusy, hup⟩ := last_of_fileAt hl
  rw [Path.getLast?_pieces_join] at hn
  obtain rfl := Option.some.inj (hlast.symm.trans hn)
  exact h.elim (by simp [hbusy]) hup

/-- What does not end in a name is found nowhere. -/
theorem findProgram_eq_none_of_last {last : String}
    (hlast : (Path.pieces program).getLast? = some last)
    (h : Path.isIdle last = true ∨ last = "..") (searchPath : Option String) :
    findProgram t cwd searchPath program = none := by
  have hnone := t.isFile_join_eq_false cwd hlast h
  unfold findProgram
  split
  · rw [← Path.empty_join program, hnone]
    rfl
  · cases searchPath with
    | none => rfl
    | some p => simpa using fun d _ => hnone d

/-- A name is looked for in one directory behind the other. -/
theorem findProgram_of_bare (hbare : '/' ∉ program.toList) (searchPath : Option String) :
    findProgram t cwd searchPath program = searchPath.bind fun p =>
      ((searchDirs p).map (Path.join · program)).find? (t.isFile cwd ·) :=
  if_neg (Path.components_of_bare hbare)

/-- A path with a slash is one of a file itself, whatever the search path is. -/
theorem findProgram_of_slash (hslash : '/' ∈ program.toList) (searchPath : Option String) :
    findProgram t cwd searchPath program =
      if t.isFile cwd program then some program else none := by
  by_cases h : 1 < (Path.components program).length
  · exact if_pos h
  · -- What counts as a name ends in an idle piece, and no file is found at such an end.
    obtain ⟨last, hlast, hidle⟩ := Path.endsIdle_of_components hslash h
    have hnone := t.isFile_join_eq_false cwd hlast (.inl hidle) ""
    rw [findProgram_eq_none_of_last hlast (.inl hidle), ← Path.empty_join program, hnone]
    rfl

/-- Where a program is found, there is a file. -/
theorem findProgram_cases
    (h : findProgram t cwd (some searchPath) program = some found) :
    ('/' ∈ program.toList ∧ found = program ∧ t.isFile cwd program) ∨
      ('/' ∉ program.toList ∧
        ((searchDirs searchPath).map (Path.join · program)).find? (t.isFile cwd ·) =
          some found) := by
  by_cases hslash : '/' ∈ program.toList
  · rw [findProgram_of_slash hslash] at h
    split at h
    · rename_i hfile
      exact .inl ⟨hslash, (Option.some.inj h).symm, hfile⟩
    · cases h
  · rw [findProgram_of_bare hslash] at h
    exact .inr ⟨hslash, h⟩

/-! ## What is started -/

/-- The first answer is the one at the first place that has an answer. -/
theorem findSome?_of_find? {α β : Type} {f : α → Option β} {as : List α} {a : α}
    (h : as.find? (fun a => (f a).isSome) = some a) : as.findSome? f = f a := by
  obtain ⟨-, before, after, rfl, hnone⟩ := List.find?_eq_some_iff_append.mp h
  have hbefore : before.findSome? f = none :=
    List.findSome?_eq_none_iff.mpr fun b hb => by simpa using hnone b hb
  have ha := List.find?_some h
  obtain ⟨b, hb⟩ := Option.isSome_iff_exists.mp ha
  rw [List.findSome?_append, hbefore, Option.none_or, List.findSome?_cons, hb]

/-- Up to a place that has an answer only the answers so far count. -/
theorem findSome?_congr {α β : Type} {f g : α → Option β} {before after : List α} {a : α}
    (h : ∀ b ∈ before ++ [a], g b = f b) (ha : (f a).isSome) :
    (before ++ a :: after).findSome? g = (before ++ a :: after).findSome? f := by
  induction before with
  | nil =>
    obtain ⟨b, hb⟩ := Option.isSome_iff_exists.mp ha
    have hg := h a (by simp)
    simp [hg, hb]
  | cons b before ih =>
    rw [List.cons_append, List.findSome?_cons, List.findSome?_cons, h b (by simp),
      ih fun c hc => h c (List.mem_cons_of_mem b hc)]

/-- A program that is found from a directory is the one that is started from there. -/
theorem programFile_eq (ht : t.AllExecutable)
    (h : findProgram t cwd (some searchPath) program = some found) :
    t.programFile cwd searchPath program = t.fileAt cwd found := by
  unfold FileTree.programFile
  rcases findProgram_cases h with ⟨hslash, rfl, -⟩ | ⟨hbare, hfind⟩
  · rw [if_pos hslash, FileTree.programAt_eq ht]
  · rw [if_neg hbare]
    simp only [FileTree.programAt_eq ht]
    simp only [FileTree.isFile_eq] at hfind
    rw [← findSome?_of_find? hfind, List.findSome?_map]
    rfl

/-- A program was found without help of the working directory: its path is one from the root, or all
directories of the search path are up to the one that it was found in. -/
inductive IsFixed (searchPath program found : String) : Prop where
  | rooted (h : Path.startsAtRoot program = true)
  | searched {before after : List String} {d : String} (bare : '/' ∉ program.toList)
    (dirs_eq : searchDirs searchPath = before ++ d :: after)
    (found_eq : found = Path.join d program)
    (rooted : ∀ c ∈ before ++ [d], Path.startsAtRoot c = true)

/-- A program that is found, and without help of the working directory, is the one that is started
from everywhere. -/
theorem programFile_of_found (ht : t.AllExecutable)
    (h : findProgram t cwd (some searchPath) program = some found)
    (hdir : dir = cwd ∨ IsFixed searchPath program found) :
    ∃ l, t.fileAt cwd found = some l ∧ t.programFile dir searchPath program = some l := by
  obtain ⟨l, hl⟩ : ∃ l, t.fileAt cwd found = some l := by
    rcases findProgram_cases h with ⟨-, rfl, hfile⟩ | ⟨-, hfind⟩
    · exact FileTree.exists_fileAt hfile
    · exact FileTree.exists_fileAt (List.find?_some hfind)
  refine ⟨l, hl, ?_⟩
  rw [← hl, ← programFile_eq ht h]
  rcases hdir with rfl | hfixed
  · rfl
  unfold FileTree.programFile
  cases hfixed with
  | rooted hroot =>
    have hslash : '/' ∈ program.toList :=
      List.mem_of_mem_head? (by simpa [Path.startsAtRoot] using hroot)
    simp only [if_pos hslash, FileTree.programAt_eq ht]
    exact FileTree.fileAt_eq_of_startsAtRoot hroot cwd dir
  | @searched before after d hbare hdirs hfound hroot =>
    have hjoin {c : String} (hc : Path.startsAtRoot c = true) :
        Path.startsAtRoot (Path.join c program) = true := by
      rw [Path.startsAtRoot_join, hc]
      rw [Path.startsAtRoot, beq_eq_false_iff_ne]
      exact fun hhead => hbare (List.mem_of_mem_head? hhead)
    simp only [if_neg hbare, FileTree.programAt_eq ht, hdirs]
    refine findSome?_congr (fun c hc => ?_) ?_
    · exact FileTree.fileAt_eq_of_startsAtRoot (hjoin (hroot c hc)) cwd dir
    · rw [← hfound, hl]
      rfl

theorem Job.file_of_found {job : Job} (ht : t.AllExecutable)
    (h : findProgram t cwd (some searchPath) job.program = some found)
    (hdir : t.find cwd job.cwd = .ok (dir, .directory))
    (hfixed : dir = cwd ∨ IsFixed searchPath job.program found) :
    job.file t cwd searchPath = t.fileAt cwd found := by
  obtain ⟨l, hl, hstarted⟩ := programFile_of_found ht h hfixed
  unfold Job.file
  rw [hdir]
  exact hstarted.trans hl.symm

end BenchCheckout
