import BenchCheckout.Proofs.Search

/-!
# The shell's rule for programs

`findProgram` counts components, and so it takes some paths with a slash for names. A shell asks
whether there is a slash. `ShellFinds` is its rule, told without components and cuts; both come to
the same.

* `searchDirs_eq_iff`: the directories of a search path are those that it is written with.
* `isFile_dot_join`: an empty entry of a search path is the working directory.
* `findProgram_follows_shell`: what is found is what the rule says, for every program.
-/

namespace BenchCheckout

/-! ## The rule -/

/-- A search path is written as these directories with a colon between each two. An empty text lists
one directory, the empty one. -/
structure ListsDirs (searchPath : String) (dirs : List String) : Prop where
  nonempty : dirs ≠ []
  no_colon : ∀ d ∈ dirs, ':' ∉ d.toList
  text_eq : searchPath = ":".intercalate dirs

/-- The directory that an entry of a search path names. An empty one is the working directory. -/
def searchedDir (entry : String) : String := if entry = "" then "." else entry

/-- There is a file of a program's name in the directory of an entry. -/
def FileTree.HasProgram (t : FileTree) (cwd : Location) (program entry : String) : Prop :=
  t.isFile cwd (Path.join (searchedDir entry) program)

instance (t : FileTree) (cwd : Location) (program entry : String) :
    Decidable (t.HasProgram cwd program entry) :=
  inferInstanceAs (Decidable (_ = true))

/-- What a shell finds for a program: with a slash, the path that it is, whatever the search path
is; else its path in the first directory of the search path that has it. -/
inductive ShellFinds (t : FileTree) (cwd : Location) (searchPath : Option String)
    (program : String) : Option String → Prop where
  | path (slash : '/' ∈ program.toList) (file : t.isFile cwd program) :
    ShellFinds t cwd searchPath program (some program)
  | noFile (slash : '/' ∈ program.toList) (no_file : ¬ t.isFile cwd program) :
    ShellFinds t cwd searchPath program none
  | searched {text entry : String} {before after : List String} (bare : '/' ∉ program.toList)
    (text_eq : searchPath = some text) (lists : ListsDirs text (before ++ entry :: after))
    (has : t.HasProgram cwd program entry)
    (none_before : ∀ e ∈ before, ¬ t.HasProgram cwd program e) :
    ShellFinds t cwd searchPath program (some (Path.join entry program))
  | nowhere {text : String} {dirs : List String} (bare : '/' ∉ program.toList)
    (text_eq : searchPath = some text) (lists : ListsDirs text dirs)
    (has_none : ∀ e ∈ dirs, ¬ t.HasProgram cwd program e) :
    ShellFinds t cwd searchPath program none
  | unset (bare : '/' ∉ program.toList) (unset : searchPath = none) :
    ShellFinds t cwd searchPath program none

variable {t : FileTree} {cwd : Location} {searchPath : Option String} {program entry : String}

/-! ## Search paths -/

theorem searchDirs_eq_iff {text : String} {dirs : List String} :
    searchDirs text = dirs ↔ ListsDirs text dirs := by
  have hcut : searchDirs text = dirs ↔ Path.cut ':' text.toList = dirs.map String.toList := by
    constructor
    · rintro rfl
      simp [searchDirs, Function.comp_def]
    · intro h
      simp [searchDirs, h, Function.comp_def]
  rw [hcut, Path.cut_eq_iff]
  constructor
  · rintro ⟨hne, hcolon, htext⟩
    refine ⟨by simpa using hne, by simpa using hcolon, String.toList_injective ?_⟩
    rw [htext, String.toList_intercalate]
    rfl
  · rintro ⟨hne, hcolon, rfl⟩
    exact ⟨by simpa using hne, by simpa using hcolon, String.toList_intercalate⟩

/-! ## The directories of a search path -/

namespace FileTree

/-- A name that is looked up is no longer than a name can be. -/
theorem leadsDown_of_walk {here : Location} {links : Nat} {place : Place} {n : String}
    (hbusy : Path.isIdle n = false) (hup : n ≠ "..") (h : t.walk links here [n] = .ok place) :
    LeadsDown n := by
  obtain ⟨onLink, h⟩ : ∃ onLink, t.follow onLink here [n] = .ok place := by
    cases links <;> exact ⟨_, h⟩
  cases (follow_cons_iff.mp h).2 with
  | idle hidle => simp [hbusy] at hidle
  | up h => exact absurd h hup
  | free down => exact down
  | link down => exact down
  | entry down => exact down

/-- A name in the working directory can be written with a dot for the directory. -/
theorem find_dot_join {n : String} (hn : Path.IsStep n) (hc : t.checkPath cwd n = .ok ())
    (hdot : t.checkPath cwd (Path.join "." n) = .ok ()) :
    t.find cwd (Path.join "." n) = t.find cwd n := by
  have hroot := hn.startsAtRoot_eq
  have hidle : ¬ Path.EndsIdle (Path.pieces n) := by
    rw [hn.pieces_eq, Path.endsIdle_singleton, hn.2]
    exact Bool.false_ne_true
  have hresolve : t.resolve cwd (Path.join "." n) = t.resolve cwd n := by
    rw [resolve_of_not_endsIdle (Path.not_endsIdle_join hn) hdot, resolve_of_not_endsIdle hidle hc,
      Path.steps_join hroot, Location.start, Location.start, Path.startsAtRoot_join hroot, hroot]
    rfl
  unfold find locate
  rw [hresolve]

theorem checkPath_dot_join_iff {n : String} (hn : Path.IsStep n) :
    t.checkPath cwd (Path.join "." n) = .ok () ↔
      t.checkPath cwd n = .ok () ∧ n.utf8ByteSize + 2 ≤ pathLimit := by
  have hjoin : Path.join "." n = "./" ++ n := by
    rw [Path.join, hn.startsAtRoot_eq, if_neg (by decide), if_neg (by decide)]
    rfl
  have hstart : cwd.start (Path.join "." n) = cwd.start n := by
    rw [Location.start, Location.start, Path.startsAtRoot_join hn.startsAtRoot_eq,
      hn.startsAtRoot_eq]
    rfl
  rw [checkPath_eq_ok_iff, checkPath_eq_ok_iff, hstart, hjoin, String.utf8ByteSize_append]
  have hsize : "./".utf8ByteSize = 2 := by decide
  constructor
  · rintro ⟨-, hnul, hfit, hdir⟩
    exact ⟨⟨hn.ne_empty, by simpa using hnul, by omega, hdir⟩, by omega⟩
  · rintro ⟨⟨-, hnul, -, hdir⟩, hfit⟩
    exact ⟨by simp, by simpa using hnul, by omega, hdir⟩

/-- An empty entry of a search path is the working directory: the files of its names are those that
the names lead to. -/
theorem isFile_dot_join (hbare : '/' ∉ program.toList) :
    t.isFile cwd (Path.join "." program) = t.isFile cwd program := by
  by_cases hname : Path.isIdle program = true ∨ program = ".."
  · have hnone := isFile_join_eq_false t cwd (Path.getLast?_pieces_of_bare hbare) hname
    rw [hnone, ← Path.empty_join program, hnone]
  rw [not_or, Bool.not_eq_true] at hname
  have hn : Path.IsStep program := ⟨hbare, hname.1⟩
  have hfind (h : t.checkPath cwd (Path.join "." program) = .ok ()) :
      t.find cwd (Path.join "." program) = t.find cwd program :=
    find_dot_join hn ((checkPath_dot_join_iff hn).mp h).1 h
  rw [Bool.eq_iff_iff, isFile_iff_find, isFile_iff_find]
  constructor
  · rintro ⟨l, bytes, x, number, hf⟩
    exact ⟨l, bytes, x, number, (hfind (checkPath_of_find hf)).symm.trans hf⟩
  · rintro ⟨l, bytes, x, number, hf⟩
    -- The path with the dot is longer, but not too long with a name that was looked up.
    obtain ⟨hc, hwalk, -⟩ := find_iff_walk.mp hf
    rw [hn.pieces_eq] at hwalk
    have hfit := (leadsDown_of_walk hname.1 hname.2 hwalk).2.2
    have hlimits : nameLimit + 2 ≤ pathLimit := by decide
    have hdot := (checkPath_dot_join_iff hn).mpr ⟨hc, by omega⟩
    exact ⟨l, bytes, x, number, (hfind hdot).trans hf⟩

theorem hasProgram_iff (hbare : '/' ∉ program.toList) :
    t.HasProgram cwd program entry ↔ t.isFile cwd (Path.join entry program) := by
  unfold HasProgram searchedDir
  by_cases h : entry = ""
  · rw [if_pos h, h, isFile_dot_join hbare, Path.empty_join]
  · rw [if_neg h]

/-- Without links, a directory has the programs that are files in it and that the system can look
up. -/
theorem hasProgram_iff_entry (ht : t.SymlinkFree) (hbare : '/' ∉ program.toList) :
    t.HasProgram cwd program entry ↔
      t.isDirectory cwd (searchedDir entry) ∧
        (∃ bytes x k,
          t.get? (cwd.reach (searchedDir entry) ++ [program]) = some (.file bytes x k)) ∧
        program.utf8ByteSize ≤ nameLimit ∧
        (Path.join (searchedDir entry) program).utf8ByteSize ≤ pathLimit := by
  have hdir : searchedDir entry ≠ "" := by
    unfold searchedDir
    split
    · decide
    · assumption
  by_cases hname : Path.isIdle program = true ∨ program = ".."
  · -- There is no entry of such a name.
    refine iff_of_false ?_ ?_
    · rw [HasProgram, isFile_join_eq_false t cwd (Path.getLast?_pieces_of_bare hbare) hname]
      exact Bool.false_ne_true
    · rintro ⟨-, ⟨bytes, x, k, he⟩, -⟩
      have hn : IsName program := isName_of_get? he (by simp)
      exact hname.elim (by simp [hn.isStep.2]) hn.2.2.1
  · rw [not_or, Bool.not_eq_true] at hname
    exact isFile_join_iff ht hdir ⟨hbare, hname.1⟩ hname.2

end FileTree

/-! ## What is found -/

open FileTree

/-- A name is looked for by the directories that have it. -/
theorem findProgram_of_text (hbare : '/' ∉ program.toList) (text : String) :
    findProgram t cwd (some text) program =
      ((searchDirs text).find? (t.HasProgram cwd program ·)).map (Path.join · program) := by
  have hhas : ((t.isFile cwd ·) ∘ (Path.join · program)) =
      fun entry => decide (t.HasProgram cwd program entry) := by
    funext entry
    rw [Bool.eq_iff_iff, decide_eq_true_iff, hasProgram_iff hbare]
    rfl
  rw [findProgram_of_bare hbare, Option.bind_some, List.find?_map, hhas]

/-- What is found is what the rule says. -/
theorem shellFinds_findProgram (t : FileTree) (cwd : Location) (searchPath : Option String)
    (program : String) :
    ShellFinds t cwd searchPath program (findProgram t cwd searchPath program) := by
  by_cases hslash : '/' ∈ program.toList
  · rw [findProgram_of_slash hslash]
    split
    · rename_i hfile
      exact .path hslash hfile
    · rename_i hfile
      exact .noFile hslash hfile
  cases searchPath with
  | none =>
    rw [findProgram_of_bare hslash]
    exact .unset hslash rfl
  | some text =>
    rw [findProgram_of_text hslash]
    cases hfind : (searchDirs text).find? (t.HasProgram cwd program ·) with
    | none =>
      have hnone := List.find?_eq_none.mp hfind
      exact .nowhere hslash rfl (searchDirs_eq_iff.mp rfl) (by simpa using hnone)
    | some entry =>
      obtain ⟨hhas, before, after, hdirs, hbefore⟩ := List.find?_eq_some_iff_append.mp hfind
      exact .searched hslash rfl (searchDirs_eq_iff.mp hdirs) (by simpa using hhas)
        (by simpa using hbefore)

/-- The rule says nothing else than what is found. -/
theorem ShellFinds.findProgram_eq {result : Option String}
    (h : ShellFinds t cwd searchPath program result) :
    findProgram t cwd searchPath program = result := by
  cases h with
  | path hslash hfile => rw [findProgram_of_slash hslash, if_pos hfile]
  | noFile hslash hfile => rw [findProgram_of_slash hslash, if_neg hfile]
  | unset hbare hunset =>
    rw [findProgram_of_bare hbare, hunset]
    rfl
  | @searched text entry before after hbare htext hlists hhas hbefore =>
    have hfind : (before ++ entry :: after).find? (t.HasProgram cwd program ·) = some entry :=
      List.find?_eq_some_iff_append.mpr
        ⟨by simpa using hhas, before, after, rfl, by simpa using hbefore⟩
    rw [htext, findProgram_of_text hbare, searchDirs_eq_iff.mpr hlists, hfind]
    rfl
  | @nowhere text dirs hbare htext hlists hnone =>
    have hfind : dirs.find? (t.HasProgram cwd program ·) = none :=
      List.find?_eq_none.mpr (by simpa using hnone)
    rw [htext, findProgram_of_text hbare, searchDirs_eq_iff.mpr hlists, hfind]
    rfl

/-- **A program is looked up as a shell looks it up.** For every program, every search path and
every file tree, with links or without, what is found is what the rule says and nothing else; what
names no entry is found nowhere. Without links, a directory of the search path has a program exactly
if there is a file of that name in it, and name and path are within the system's limits. -/
theorem findProgram_follows_shell (t : FileTree) (cwd : Location) (searchPath : Option String)
    (program : String) :
    (∀ result, findProgram t cwd searchPath program = result ↔
      ShellFinds t cwd searchPath program result) ∧
    (findProgram t cwd searchPath "" = none ∧ findProgram t cwd searchPath "." = none ∧
      findProgram t cwd searchPath ".." = none) ∧
    (t.SymlinkFree → '/' ∉ program.toList → ∀ entry,
      t.HasProgram cwd program entry ↔
        t.isDirectory cwd (searchedDir entry) ∧
        (∃ bytes x k,
          t.get? (cwd.reach (searchedDir entry) ++ [program]) = some (.file bytes x k)) ∧
        program.utf8ByteSize ≤ nameLimit ∧
        (Path.join (searchedDir entry) program).utf8ByteSize ≤ pathLimit) := by
  have hnone (name : String) (hbare : '/' ∉ name.toList)
      (hname : Path.isIdle name = true ∨ name = "..") :
      findProgram t cwd searchPath name = none :=
    findProgram_eq_none_of_last (Path.getLast?_pieces_of_bare hbare) hname searchPath
  refine ⟨fun result => ⟨?_, ShellFinds.findProgram_eq⟩, ⟨?_, ?_, ?_⟩, fun ht hbare entry =>
    hasProgram_iff_entry ht hbare⟩
  · rintro rfl
    exact shellFinds_findProgram t cwd searchPath program
  · exact hnone "" (by decide) (by decide)
  · exact hnone "." (by decide) (by decide)
  · exact hnone ".." (by decide) (by decide)

/-- A file that can be started. -/
def startable : Entry := .file .empty true none

/-- `/bin/sh`, and a tool in the working directory `/home/u`. -/
def searchedTree : FileTree :=
  ((((FileTree.empty.put [] "bin" .directory).put ["bin"] "sh" startable).put [] "home"
    .directory).put ["home"] "u" .directory).put ["home", "u"] "tool" startable

theorem symlinkFree_searchedTree : searchedTree.SymlinkFree :=
  ((((symlinkFree_empty.put (by simp)).put (by simp [startable])).put (by simp)).put
    (by simp)).put (by simp [startable])

/-- An empty entry between two others leads to the tool in the working directory. -/
theorem tool_found_by_empty_entry :
    searchedTree.SymlinkFree ∧ '/' ∉ "tool".toList ∧
    ¬ searchedTree.HasProgram ["home", "u"] "tool" "/bin" ∧
    searchedTree.HasProgram ["home", "u"] "tool" "" ∧
    findProgram searchedTree ["home", "u"] (some "/bin::/home/u") "tool" = some "tool" := by
  obtain ⟨hrule, -, hentry⟩ :=
    findProgram_follows_shell searchedTree ["home", "u"] (some "/bin::/home/u") "tool"
  have hbare : '/' ∉ "tool".toList := by decide
  have hbin : ¬ searchedTree.HasProgram ["home", "u"] "tool" "/bin" := by decide +kernel
  have hhere : searchedTree.HasProgram ["home", "u"] "tool" "" :=
    (hentry symlinkFree_searchedTree hbare "").mpr
      ⟨by decide +kernel, ⟨.empty, true, none, by decide +kernel⟩, by decide, by decide⟩
  have hlists : ListsDirs "/bin::/home/u" (["/bin"] ++ "" :: ["/home/u"]) :=
    ⟨by simp, by decide, by decide +kernel⟩
  refine ⟨symlinkFree_searchedTree, hbare, hbin, hhere, (hrule _).mpr ?_⟩
  exact .searched hbare rfl hlists hhere (by simpa using hbin)

/-- With a slash, no directory of the search path is asked, also where the slash is idle. -/
example :
    findProgram searchedTree ["home", "u"] (some "/bin:") "./tool" = some "./tool" ∧
    findProgram searchedTree ["home", "u"] (some "/bin:") "tool/." = none ∧
    findProgram searchedTree ["home", "u"] (some "/bin:") "sh/" = none := by decide +kernel

end BenchCheckout
