import BenchCheckout.Text.Blank

/-!
# Benchmark projects

A `ProjectId` names one bug of a benchmark: a subject of ASCII letters and digits, and a bug number
that is kept as its digits. It is written `Subject_BugId`.

* `ProjectId.parse?_eq_some_iff`: a text is read as an id exactly if it is that id's text.
* `ProjectId.text_injective`: different ids have different texts.
-/

namespace BenchCheckout

/-- One or more ASCII letters and digits. -/
def IsSubject (s : String) : Prop := s ≠ "" ∧ ∀ c ∈ s.toList, c.isAlphanum

/-- One or more ASCII digits. -/
def IsBugId (s : String) : Prop := s ≠ "" ∧ ∀ c ∈ s.toList, c.isDigit

instance (s : String) : Decidable (IsSubject s) :=
  @instDecidableAnd _ _ inferInstance (List.decidableBAll _ _)

instance (s : String) : Decidable (IsBugId s) :=
  @instDecidableAnd _ _ inferInstance (List.decidableBAll _ _)

/-- A bug of a benchmark, such as `Lang_10`. -/
structure ProjectId where
  subject : String
  bugId : String
  isSubject : IsSubject subject
  isBugId : IsBugId bugId
deriving DecidableEq

namespace ProjectId

def text (p : ProjectId) : String := p.subject ++ "_" ++ p.bugId

/-- The id that a text names. -/
def parse? (raw : String) : Option ProjectId :=
  let subject := String.ofList (raw.toList.takeWhile (· ≠ '_'))
  match raw.toList.dropWhile (· ≠ '_') with
  | [] => none
  | _ :: rest =>
    if h : IsSubject subject ∧ IsBugId (String.ofList rest) then
      some ⟨subject, String.ofList rest, h.1, h.2⟩
    else none

theorem not_mem_of_isSubject {s : String} (h : IsSubject s) : '_' ∉ s.toList :=
  fun hc => absurd (h.2 _ hc) (by decide)

theorem parse?_text (p : ProjectId) : parse? p.text = some p := by
  have hs : ∀ c ∈ p.subject.toList, decide (c ≠ '_') = true := fun c hc =>
    decide_eq_true fun h => not_mem_of_isSubject p.isSubject (h ▸ hc)
  have ht : p.text.toList = p.subject.toList ++ '_' :: p.bugId.toList := by
    simp [text]
  have hw : p.text.toList.takeWhile (· ≠ '_') = p.subject.toList := by
    rw [ht, List.takeWhile_append_of_pos hs]
    simp
  have hd : p.text.toList.dropWhile (· ≠ '_') = '_' :: p.bugId.toList := by
    rw [ht, List.dropWhile_append_of_pos hs]
    simp
  unfold parse?
  simp only [hw, hd, String.ofList_toList, p.isSubject, p.isBugId, and_self, ↓reduceDIte]

theorem text_of_parse? {raw : String} {p : ProjectId} (h : parse? raw = some p) : p.text = raw := by
  unfold parse? at h
  simp only at h
  split at h
  · cases h
  · rename_i c rest hd
    split at h
    · obtain rfl := Option.some.inj h
      have hc : c = '_' := by
        have := List.head?_dropWhile_not (fun x : Char => decide (x ≠ '_')) raw.toList
        rw [hd] at this
        simpa using this
      subst hc
      apply String.toList_injective
      simp only [text, String.toList_append, String.toList_ofList]
      conv => rhs; rw [← List.takeWhile_append_dropWhile (p := fun x : Char => decide (x ≠ '_'))
        (l := raw.toList), hd]
      simp
    · cases h

/-- A text is read as an id exactly if it is that id's text. -/
theorem parse?_eq_some_iff {raw : String} {p : ProjectId} : parse? raw = some p ↔ raw = p.text :=
  ⟨fun h => (text_of_parse? h).symm, fun h => h ▸ parse?_text p⟩

theorem text_injective {p q : ProjectId} (h : p.text = q.text) : p = q :=
  Option.some.inj ((parse?_text p).symm.trans (h ▸ parse?_text q))

/-! ## Names made from an id -/

/-- The checkout's name in the workspace. -/
def dirName (p : ProjectId) : String := p.text

/-- The name of the directory next to the checkout that the archive is unpacked in. -/
def stagingName (p : ProjectId) : String := "." ++ p.dirName ++ ".extract"

/-- The archive's name in the archive directory. -/
def archiveName (p : ProjectId) : String := p.subject ++ "-" ++ p.bugId ++ ".tar.gz"

/-- What an archive's name ends in while it is being downloaded, in place of `gz`. -/
def partialExtension : String := "gz.part"

/-- A text without the slashes at its end. -/
def trimSlashes (s : String) : String :=
  String.ofList (s.toList.reverse.dropWhile (· = '/')).reverse

/-- Where the archive is downloaded from: each subject has a repository of its own. -/
def archiveUrl (p : ProjectId) (baseUrl : String) : String :=
  trimSlashes baseUrl ++ "/d4j-" ++ String.ofList (p.subject.toList.map Char.toLower) ++
    "/raw/master/" ++ p.archiveName

end ProjectId

end BenchCheckout
