import BenchCheckout.Project
import BenchCheckout.Proofs.Files.Links
import Mathlib.Data.List.TakeDrop

/-!
# The names that a project's files have

A checkout, its staging directory, an archive and an archive that is being downloaded have names
that can stand in a directory, and no two of them are the same.

* `archiveName_injective`: an archive's name tells the project.
* `archiveName_ne_partialName`: a download that is not complete has no project's archive name.
-/

namespace BenchCheckout

/-- Names have a character other than a dot, and neither a slash nor the zero character. -/
theorem isName_of_mem {n : String} {c : Char} (hc : c ∈ n.toList) (hdot : c ≠ '.')
    (h : ∀ d ∈ n.toList, d ≠ '/' ∧ d ≠ '\x00') : IsName n := by
  refine ⟨?_, ?_, ?_, fun hd => (h _ hd).1 rfl, fun hd => (h _ hd).2 rfl⟩
  · rintro rfl
    simp at hc
  · rintro rfl
    simp [hdot] at hc
  · rintro rfl
    simp [hdot] at hc

namespace ProjectId

/-- The characters of subjects and bug ids. -/
theorem isAlphanum_of_mem_subject {p : ProjectId} {c : Char} (h : c ∈ p.subject.toList) :
    c.isAlphanum := p.isSubject.2 c h

theorem isAlphanum_of_mem_bugId {p : ProjectId} {c : Char} (h : c ∈ p.bugId.toList) :
    c.isAlphanum := by
  simp [Char.isAlphanum, p.isBugId.2 c h]

theorem ne_of_isAlphanum {c d : Char} (h : c.isAlphanum) (hd : d.isAlphanum = false) : c ≠ d := by
  rintro rfl
  rw [h] at hd
  cases hd

theorem exists_subject_eq (p : ProjectId) :
    ∃ c s, p.subject.toList = c :: s ∧ c.isAlphanum := by
  obtain ⟨c, s, h⟩ := List.exists_cons_of_ne_nil fun h =>
    p.isSubject.1 (String.toList_eq_nil_iff.mp h)
  exact ⟨c, s, h, isAlphanum_of_mem_subject (h ▸ List.mem_cons_self)⟩

/-! ## Names in the workspace -/

theorem isName_bugId (p : ProjectId) : IsName p.bugId := by
  obtain ⟨c, s, h⟩ := List.exists_cons_of_ne_nil fun h =>
    p.isBugId.1 (String.toList_eq_nil_iff.mp h)
  have hc {d : Char} (hd : d ∈ p.bugId.toList) := isAlphanum_of_mem_bugId hd
  exact isName_of_mem (c := c) (by simp [h]) (ne_of_isAlphanum (hc (by simp [h])) (by decide))
    fun d hd => ⟨ne_of_isAlphanum (hc hd) (by decide), ne_of_isAlphanum (hc hd) (by decide)⟩

theorem mem_dirName {p : ProjectId} {c : Char} (h : c ∈ p.dirName.toList) :
    c.isAlphanum ∨ c = '_' := by
  simp only [dirName, text, String.toList_append, List.mem_append] at h
  rcases h with (h | h) | h
  · exact .inl (isAlphanum_of_mem_subject h)
  · exact .inr (by simpa using h)
  · exact .inl (isAlphanum_of_mem_bugId h)

theorem isName_dirName (p : ProjectId) : IsName p.dirName := by
  refine isName_of_mem (c := '_') (by simp [dirName, text]) (by decide) fun d hd => ?_
  rcases mem_dirName hd with h | rfl
  · exact ⟨ne_of_isAlphanum h (by decide), ne_of_isAlphanum h (by decide)⟩
  · decide

theorem isName_stagingName (p : ProjectId) : IsName p.stagingName := by
  refine isName_of_mem (c := 'e') (by simp [stagingName]) (by decide) fun d hd => ?_
  simp only [stagingName, String.toList_append, List.mem_append] at hd
  rcases hd with (hd | hd) | hd
  · have : d = '.' := by simpa using hd
    subst this; decide
  · rcases mem_dirName hd with h | rfl
    · exact ⟨ne_of_isAlphanum h (by decide), ne_of_isAlphanum h (by decide)⟩
    · decide
  · have : d ∈ ['.', 'e', 'x', 't', 'r', 'a', 'c', 't'] := hd
    revert d; simp

theorem head?_stagingName (p : ProjectId) : p.stagingName.toList.head? = some '.' := by
  simp [stagingName]

theorem dirName_ne_stagingName (p q : ProjectId) : p.dirName ≠ q.stagingName := by
  obtain ⟨c, s, h, hc⟩ := p.exists_subject_eq
  intro he
  have := head?_stagingName q
  rw [← he] at this
  simp only [dirName, text, String.toList_append, h, List.cons_append, List.head?_cons,
    Option.some.injEq] at this
  exact ne_of_isAlphanum hc (by decide) this

/-! ## Names in the archive directory -/

/-- The name of an archive while it is being downloaded. -/
def partialName (p : ProjectId) : String :=
  Path.stem p.archiveName ++ "." ++ partialExtension

theorem toList_archiveName (p : ProjectId) :
    p.archiveName.toList =
      p.subject.toList ++ '-' :: p.bugId.toList ++ ['.', 't', 'a', 'r', '.', 'g', 'z'] := by
  simp [archiveName]

theorem toList_partialName (p : ProjectId) :
    p.partialName.toList =
      p.subject.toList ++ '-' :: p.bugId.toList ++
        ['.', 't', 'a', 'r', '.', 'g', 'z', '.', 'p', 'a', 'r', 't'] := by
  have h : (p.archiveName.toList.reverse).span (· ≠ '.') =
      (['z', 'g'], '.' :: (p.subject.toList ++ '-' :: p.bugId.toList ++
        ['.', 't', 'a', 'r']).reverse) := by
    rw [List.span_eq_takeWhile_dropWhile, toList_archiveName]
    simp
  have hs : Path.stem p.archiveName =
      String.ofList (p.subject.toList ++ '-' :: p.bugId.toList ++ ['.', 't', 'a', 'r']) := by
    rw [Path.stem, h]
    simp
  simp [partialName, partialExtension, hs]

theorem utf8ByteSize_archiveName_le (p : ProjectId) :
    p.archiveName.utf8ByteSize ≤ p.partialName.utf8ByteSize := by
  have h : p.partialName = p.archiveName ++ ".part" := by
    apply String.toList_injective
    rw [String.toList_append, toList_partialName, toList_archiveName]
    simp
  rw [h, String.utf8ByteSize_append]
  exact Nat.le_add_right _ _

theorem isName_of_archive {p : ProjectId} {n : String} {s : List Char}
    (hn : n.toList = p.subject.toList ++ '-' :: p.bugId.toList ++ s)
    (hs : ∀ d ∈ s, d ≠ '/' ∧ d ≠ '\x00') : IsName n := by
  refine isName_of_mem (c := '-') (by simp [hn]) (by decide) fun d hd => ?_
  simp only [hn, List.mem_append, List.mem_cons] at hd
  rcases hd with (hd | rfl | hd) | hd
  · have := isAlphanum_of_mem_subject hd
    exact ⟨ne_of_isAlphanum this (by decide), ne_of_isAlphanum this (by decide)⟩
  · decide
  · have := isAlphanum_of_mem_bugId hd
    exact ⟨ne_of_isAlphanum this (by decide), ne_of_isAlphanum this (by decide)⟩
  · exact hs d hd

theorem isName_archiveName (p : ProjectId) : IsName p.archiveName :=
  isName_of_archive (toList_archiveName p) (by simp)

theorem isName_partialName (p : ProjectId) : IsName p.partialName :=
  isName_of_archive (toList_partialName p) (by simp)

/-- An archive's name tells the project. -/
theorem archiveName_injective {p q : ProjectId} (h : p.archiveName = q.archiveName) : p = q := by
  have ht := congrArg String.toList h
  rw [toList_archiveName, toList_archiveName] at ht
  have ht := List.append_cancel_right ht
  have hd {r : ProjectId} : ∀ c ∈ r.subject.toList, decide (c ≠ '-') = true := fun c hc =>
    decide_eq_true (ne_of_isAlphanum (isAlphanum_of_mem_subject hc) (by decide))
  have hs := congrArg (List.takeWhile fun c => decide (c ≠ '-')) ht
  have hb := congrArg (List.dropWhile fun c => decide (c ≠ '-')) ht
  rw [List.takeWhile_append_of_pos hd, List.takeWhile_append_of_pos hd] at hs
  rw [List.dropWhile_append_of_pos hd, List.dropWhile_append_of_pos hd] at hb
  have hs : p.subject = q.subject := String.toList_injective (by simpa using hs)
  have hb : p.bugId = q.bugId := String.toList_injective (by simpa using hb)
  cases p; cases q; cases hs; cases hb; rfl

theorem getLast?_archiveName (p : ProjectId) : p.archiveName.toList.getLast? = some 'z' := by
  rw [toList_archiveName, List.getLast?_append]
  rfl

theorem getLast?_partialName (p : ProjectId) : p.partialName.toList.getLast? = some 't' := by
  rw [toList_partialName, List.getLast?_append]
  rfl

/-- A download that is not complete has no project's archive name. -/
theorem archiveName_ne_partialName (p q : ProjectId) : p.archiveName ≠ q.partialName := by
  intro h
  have := getLast?_archiveName p
  rw [h, getLast?_partialName] at this
  cases this

theorem not_mem_dirName (p : ProjectId) : '.' ∉ p.dirName.toList := by
  intro h
  rcases mem_dirName h with h | h
  · exact absurd h (by decide)
  · cases h

theorem dirName_ne_partialName (p q : ProjectId) : p.dirName ≠ q.partialName := by
  intro h
  refine not_mem_dirName p ?_
  rw [h, toList_partialName]
  simp

theorem dirName_ne_archiveName (p q : ProjectId) : p.dirName ≠ q.archiveName := by
  intro h
  refine not_mem_dirName p ?_
  rw [h, toList_archiveName]
  simp

theorem head?_archive {p : ProjectId} {n : String} {s : List Char}
    (hn : n.toList = p.subject.toList ++ '-' :: p.bugId.toList ++ s) :
    n.toList.head? ≠ some '.' := by
  obtain ⟨c, r, h, hc⟩ := p.exists_subject_eq
  simpa [hn, h] using ne_of_isAlphanum hc (by decide)

theorem stagingName_ne_archiveName (p q : ProjectId) : p.stagingName ≠ q.archiveName := by
  intro h
  refine head?_archive (toList_archiveName q) ?_
  rw [← h, head?_stagingName]

theorem stagingName_ne_partialName (p q : ProjectId) : p.stagingName ≠ q.partialName := by
  intro h
  refine head?_archive (toList_partialName q) ?_
  rw [← h, head?_stagingName]

end ProjectId

/-- A bug of the benchmark. -/
def lang10 : ProjectId := ⟨"Lang", "10", by decide, by decide⟩

theorem parse?_lang10 : ProjectId.parse? "Lang_10" = some lang10 := ProjectId.parse?_text lang10

end BenchCheckout
