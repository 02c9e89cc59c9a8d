import BenchCheckout.Checkout
import BenchCheckout.Proofs.Archive.Places
import BenchCheckout.Proofs.Checkout.Footprint
import Mathlib.Data.List.TakeWhile

/-!
# Projects that share a directory

Each project has four things in the workspace and the archive directory, and each of them has a
name that tells both the project and which of the four it is. So all projects can have everything
in one directory.

* `ProjectId.archiveUrl_eq_iff`: an archive's address tells the project, and the base but for the
  slashes at its end.
* `ProjectId.fileName_eq_iff`, `ProjectId.along_filePath_isPrefix_iff`: the names, and the places.
* `ProjectId.Change.get?_eq`: what is done to one project's files leaves those of another.
* `ProjectId.change_of_isOwn`: a checkout does nothing else, apart from exclusions and patches.
* `ProjectId.names_apart`: all of it for two projects.
-/

namespace BenchCheckout

namespace ProjectId

open FileTree

variable {p q : ProjectId} {cwd : Location} {dir : String} {t u : FileTree} {k : Location}

/-! ## Addresses -/

/-- The texts differ in the slashes at their ends only. -/
def SameButSlashes (a b : String) : Prop :=
  ∃ s m n, a.toList = s ++ List.replicate m '/' ∧ b.toList = s ++ List.replicate n '/'

theorem exists_eq_trimSlashes (a : String) :
    ∃ m, a.toList = (trimSlashes a).toList ++ List.replicate m '/' := by
  let slash : Char → Bool := fun c => decide (c = '/')
  refine ⟨(a.toList.reverse.takeWhile slash).length, ?_⟩
  have hall : a.toList.reverse.takeWhile slash =
      List.replicate (a.toList.reverse.takeWhile slash).length '/' :=
    List.eq_replicate_iff.mpr ⟨rfl, fun c hc => by simpa [slash] using List.mem_takeWhile_imp hc⟩
  rw [trimSlashes, String.toList_ofList, ← List.reverse_inj, List.reverse_append,
    List.reverse_reverse, List.reverse_replicate, ← hall, List.takeWhile_append_dropWhile]

theorem trimSlashes_eq_iff {a b : String} :
    trimSlashes a = trimSlashes b ↔ SameButSlashes a b := by
  constructor
  · intro h
    obtain ⟨m, hm⟩ := exists_eq_trimSlashes a
    obtain ⟨n, hn⟩ := exists_eq_trimSlashes b
    exact ⟨_, m, n, hm, h ▸ hn⟩
  · rintro ⟨s, m, n, ha, hb⟩
    have key {r : String} {m : Nat} (h : r.toList = s ++ List.replicate m '/') :
        trimSlashes r = String.ofList (s.reverse.dropWhile (· = '/')).reverse := by
      rw [trimSlashes, h, List.reverse_append, List.reverse_replicate,
        List.dropWhile_append_of_pos (by simp)]
    rw [key ha, key hb]

/-- An archive's name has no slash, so it is all that stands behind the last one of its address. -/
theorem archiveUrl_eq_iff {base base' : String} :
    p.archiveUrl base = q.archiveUrl base' ↔ p = q ∧ SameButSlashes base base' := by
  have hurl (r : ProjectId) (base : String) :
      r.archiveUrl base = trimSlashes base ++ "/d4j-" ++
        String.ofList (r.subject.toList.map Char.toLower) ++ "/raw/master" ++ "/" ++
          r.archiveName := by
    apply String.toList_injective
    simp [archiveUrl]
  have hpieces (r : ProjectId) : Path.pieces r.archiveName = [r.archiveName] :=
    r.isName_archiveName.isStep.pieces_eq
  rw [← trimSlashes_eq_iff]
  constructor
  · intro h
    have h := congrArg Path.pieces h
    rw [hurl, hurl, Path.pieces_append_slash, Path.pieces_append_slash, hpieces, hpieces] at h
    obtain ⟨hfront, hname⟩ := List.append_inj' h rfl
    obtain rfl := archiveName_injective (List.singleton_inj.mp hname)
    have hfront := Path.pieces_injective hfront
    simp only [String.append_assoc] at hfront
    exact ⟨rfl, String.append_left_inj _ |>.mp hfront⟩
  · rintro ⟨rfl, h⟩
    rw [archiveUrl, archiveUrl, h]

/-! ## Names -/

/-- What a project has in the workspace and in the archive directory. -/
inductive Role where
  | checkout
  /-- The directory that the archive is unpacked in. -/
  | staging
  | archive
  /-- The archive while it is being downloaded. -/
  | download
deriving DecidableEq

def fileName (p : ProjectId) : Role → String
  | .checkout => p.dirName
  | .staging => p.stagingName
  | .archive => p.archiveName
  | .download => p.partialName

theorem isName_fileName (p : ProjectId) (a : Role) : IsName (p.fileName a) := by
  cases a with
  | checkout => exact p.isName_dirName
  | staging => exact p.isName_stagingName
  | archive => exact p.isName_archiveName
  | download => exact p.isName_partialName

theorem stagingName_injective (h : p.stagingName = q.stagingName) : p = q := by
  have h := congrArg String.toList h
  simp only [stagingName, String.toList_append] at h
  exact text_injective (String.toList_injective
    (List.append_cancel_left (List.append_cancel_right h)))

theorem partialName_injective (h : p.partialName = q.partialName) : p = q := by
  have h := congrArg String.toList h
  rw [toList_partialName, toList_partialName] at h
  refine archiveName_injective (String.toList_injective ?_)
  rw [toList_archiveName, toList_archiveName, List.append_cancel_right h]

/-- A name tells the project, and what the project has under it. -/
theorem fileName_eq_iff {a b : Role} : p.fileName a = q.fileName b ↔ p = q ∧ a = b := by
  constructor
  · intro h
    cases a <;> cases b <;> simp only [fileName] at h
    case checkout.checkout => exact ⟨text_injective h, rfl⟩
    case staging.staging => exact ⟨stagingName_injective h, rfl⟩
    case archive.archive => exact ⟨archiveName_injective h, rfl⟩
    case download.download => exact ⟨partialName_injective h, rfl⟩
    case checkout.staging => exact absurd h (dirName_ne_stagingName p q)
    case staging.checkout => exact absurd h.symm (dirName_ne_stagingName q p)
    case checkout.archive => exact absurd h (dirName_ne_archiveName p q)
    case archive.checkout => exact absurd h.symm (dirName_ne_archiveName q p)
    case checkout.download => exact absurd h (dirName_ne_partialName p q)
    case download.checkout => exact absurd h.symm (dirName_ne_partialName q p)
    case staging.archive => exact absurd h (stagingName_ne_archiveName p q)
    case archive.staging => exact absurd h.symm (stagingName_ne_archiveName q p)
    case staging.download => exact absurd h (stagingName_ne_partialName p q)
    case download.staging => exact absurd h.symm (stagingName_ne_partialName q p)
    case archive.download => exact absurd h (archiveName_ne_partialName p q)
    case download.archive => exact absurd h.symm (archiveName_ne_partialName q p)
  · rintro ⟨rfl, rfl⟩
    rfl

/-! ## Places and changes -/

/-- The path of the directory `dir`, as the path of what lies there begins with it. -/
def Role.base (cwd : Location) (dir : String) : Role → String
  | .checkout | .staging => dir
  | .archive | .download => Archive.home cwd dir

/-- The path of a project's file, where `dir` is both its workspace and its archive directory. -/
def filePath (p : ProjectId) (cwd : Location) (dir : String) (a : Role) : String :=
  Path.join (a.base cwd dir) (p.fileName a)

theorem ends_filePath (p : ProjectId) (cwd : Location) (dir : String) (a : Role) :
    Path.Ends (p.filePath cwd dir a) (a.base cwd dir) (p.fileName a) :=
  Path.ends_join (p.isName_fileName a).isStep

/-- What is done to the files of a project, where `dir` is both its workspace and its archive
directory. -/
inductive Change (p : ProjectId) (cwd : Location) (dir : String) : Call → Prop where
  | makeHome : Change p cwd dir (.createDirs (Archive.dir cwd dir))
  | make (a : Role) : Change p cwd dir (.createDirs (p.filePath cwd dir a))
  | removeTree (a : Role) : Change p cwd dir (.removeTree (p.filePath cwd dir a))
  | removeFile (a : Role) : Change p cwd dir (.removeFile (p.filePath cwd dir a))
  | move (a b : Role) : Change p cwd dir (.rename (p.filePath cwd dir a) (p.filePath cwd dir b))
  | moveOut (a b : Role) {n : String} (hn : IsName n) :
      Change p cwd dir (.rename (Path.join (p.filePath cwd dir a) n) (p.filePath cwd dir b))

section Places

variable (hcwd : ∀ n ∈ cwd, IsName n)

include hcwd

theorem along_base (a : Role) : cwd.along (a.base cwd dir) = cwd.along dir := by
  cases a with
  | checkout | staging => rfl
  | archive | download => exact Archive.along_home hcwd

theorem along_filePath (a : Role) :
    cwd.along (p.filePath cwd dir a) = cwd.along dir ++ [p.fileName a] := by
  rw [Location.along_ends (ends_filePath p cwd dir a), along_base hcwd]

/-- None of the places lies at another one or below it. -/
theorem along_filePath_isPrefix_iff {a b : Role} :
    cwd.along (p.filePath cwd dir a) <+: cwd.along (q.filePath cwd dir b) ↔ p = q ∧ a = b := by
  rw [along_filePath hcwd, along_filePath hcwd, ← fileName_eq_iff]
  simp

theorem base_up (hup : ".." ∉ Path.steps dir) (a : Role) : ".." ∉ Path.steps (a.base cwd dir) := by
  cases a with
  | checkout | staging => exact hup
  | archive | download => exact Archive.up_not_mem_steps_home hcwd hup

/-- What is done to the files of one project leaves those of another, and all that lies in them. -/
theorem Change.get?_eq {call : Call} (h : p.Change cwd dir call) (hpq : p ≠ q)
    (hup : ".." ∉ Path.steps dir) (ht : t.SymlinkFree) {b : Role}
    (hk : cwd.along (q.filePath cwd dir b) <+: k) : (call.perform cwd t).2.get? k = t.get? k := by
  have hbase (a : Role) : ".." ∉ Path.steps (a.base cwd dir) := base_up hcwd hup a
  have hends (a : Role) := ends_filePath p cwd dir a
  have hpath (a : Role) : ".." ∉ Path.steps (p.filePath cwd dir a) :=
    (hends a).up_not_mem_steps (hbase a) (p.isName_fileName a).2.2.1
  -- `k` is the place of a file of `q` or below it, so no place of `p` is on the way.
  have hout (a : Role) : ¬ cwd.along (p.filePath cwd dir a) <+: k := by
    intro ha
    rcases List.prefix_or_prefix_of_prefix ha hk with h | h
    · exact hpq ((along_filePath_isPrefix_iff hcwd).mp h).1
    · exact hpq ((along_filePath_isPrefix_iff hcwd).mp h).1.symm
  have hmake {r : String} (hr : ".." ∉ Path.steps r)
      (hk' : ¬ cwd.along (q.filePath cwd dir b) <+: cwd.along r) :
      (t.createDirs cwd r).2.get? k = t.get? k :=
    (createDirs_adds_along cwd ht hr).get?_of_not fun h => hk' (hk.trans h)
  cases h with
  | makeHome =>
    refine hmake ?_ ?_
    · exact Archive.up_not_mem_steps_dir hcwd hup
    · rw [Archive.along_dir hcwd, along_filePath hcwd]
      intro h
      have := h.length_le
      rw [List.length_append, List.length_singleton] at this
      omega
  | make a =>
    exact hmake (hpath a) fun h => hpq ((along_filePath_isPrefix_iff hcwd).mp h).1.symm
  | removeTree a => exact get?_of_removeTree ht (hends a) (hpath a) (hout a)
  | removeFile a =>
    rw [Call.perform_removeFile]
    cases hu : t.removeFile cwd (p.filePath cwd dir a) with
    | error fault => rfl
    | ok u =>
      exact get?_of_removeFile ht (hends a) (hbase a) hu fun h => hout a (h ▸ List.prefix_refl _)
  | move a c =>
    rw [Call.perform_rename]
    cases hu : t.rename cwd (p.filePath cwd dir a) (p.filePath cwd dir c) with
    | error fault => rfl
    | ok u => exact get?_of_rename ht (hends a) (hbase a) (hends c) (hbase c) hu (hout a) (hout c)
  | @moveOut a c n hn =>
    rw [Call.perform_rename]
    cases hu : t.rename cwd (Path.join (p.filePath cwd dir a) n) (p.filePath cwd dir c) with
    | error fault => rfl
    | ok u =>
      refine get?_of_rename ht (Path.ends_join hn.isStep) (hpath a) (hends c) (hbase c) hu ?_
        (hout c)
      rw [Location.along_join_step hn.isStep]
      exact fun h => hout a ((List.prefix_append _ [n]).trans h)

end Places

/-- The changes that a checkout makes itself are of this kind, apart from what is excluded and what
is written. -/
theorem change_of_isOwn {config : Config} {root : String} {call : Call} (hroot : IsName root)
    (hconfig : config.exclusions = [])
    (h : Checkout.IsOwn cwd config config.archiveDir p.subject p.bugId root call) :
    p.Change cwd config.archiveDir call ∨ ∃ path text, call = .write path text := by
  have hdownload : Path.join (Archive.home cwd config.archiveDir)
      (p.subject ++ "-" ++ p.bugId ++ ".tar.gz.part") =
        p.filePath cwd config.archiveDir .download := by
    rw [← Checkout.partialName_eq]
    rfl
  cases h with
  | removeCheckout => exact .inl (.removeTree .checkout)
  | removeStaging => exact .inl (.removeTree .staging)
  | makeStaging => exact .inl (.make .staging)
  | makeArchiveDir => exact .inl .makeHome
  | moveDownload => exact .inl (hdownload ▸ .move .download .archive)
  | removePartial => exact .inl (hdownload ▸ .removeFile .download)
  | removeArchive => exact .inl (.removeFile .archive)
  | excludeTree excluded => rw [hconfig] at excluded; cases excluded
  | excludeFile excluded => rw [hconfig] at excluded; cases excluded
  | moveRoot => exact .inl (.moveOut .staging .checkout hroot)
  | patchManifest text => exact .inr ⟨_, text, rfl⟩

/-- Names made from ids do not collide. Equal names of checkouts or of archives are those of one
project; equal addresses are too, and their bases differ in slashes at the end only. Whatever two
projects have in the workspace and the archive directory has different names, that can stand there;
the paths end in these names, also the one that a download is made under. So two projects can have
all of it in one directory: nothing lies at or below anything else, and what is done to the files of
one project leaves those of the other as they are. A checkout there without exclusions does nothing
to files but this, and patch its manifest. -/
theorem names_apart (p q : ProjectId) :
    (p.dirName = q.dirName ↔ p = q) ∧ (p.archiveName = q.archiveName ↔ p = q) ∧
    (∀ base base', p.archiveUrl base = q.archiveUrl base' ↔ p = q ∧ SameButSlashes base base') ∧
    (∀ a b, p.fileName a = q.fileName b ↔ p = q ∧ a = b) ∧
    (∀ a, IsName (p.fileName a)) ∧
    (∀ cwd dir, Checkout.place dir p = p.filePath cwd dir .checkout ∧
      Checkout.staging dir p = p.filePath cwd dir .staging ∧
      Archive.pathFrom cwd dir p = .ok (p.filePath cwd dir .archive) ∧
      Archive.partialPath (p.filePath cwd dir .archive) = p.filePath cwd dir .download) ∧
    (∀ (cwd : Location) (config : Config) (root : String) (call : Call), IsName root →
      config.exclusions = [] →
      Checkout.IsOwn cwd config config.archiveDir p.subject p.bugId root call →
        p.Change cwd config.archiveDir call ∨ ∃ path text, call = .write path text) ∧
    ∀ (cwd : Location) (dir : String), (∀ n ∈ cwd, IsName n) →
      (∀ a b, cwd.along (p.filePath cwd dir a) <+: cwd.along (q.filePath cwd dir b) ↔
        p = q ∧ a = b) ∧
      (p ≠ q → ".." ∉ Path.steps dir → ∀ (t : FileTree) (call : Call), t.SymlinkFree →
        p.Change cwd dir call → ∀ (b : Role) (k : Location),
          cwd.along (q.filePath cwd dir b) <+: k → (call.perform cwd t).2.get? k = t.get? k) := by
  refine ⟨⟨text_injective, fun h => h ▸ rfl⟩, ⟨archiveName_injective, fun h => h ▸ rfl⟩,
    fun base base' => archiveUrl_eq_iff, fun a b => fileName_eq_iff, p.isName_fileName,
    fun cwd dir => ⟨rfl, rfl, Archive.pathFrom_eq, Archive.partialPath_place⟩,
    fun _ _ _ _ hroot hconfig => change_of_isOwn hroot hconfig,
    fun cwd dir hcwd => ⟨fun a b => along_filePath_isPrefix_iff hcwd, ?_⟩⟩
  intro hpq hup t call ht hcall b k hk
  exact hcall.get?_eq hcwd hpq hup ht hk

/-- Another bug of the same subject. -/
def lang1 : ProjectId := ⟨lang10.subject, "1", lang10.isSubject, by decide⟩

/-- The checkouts of two bugs side by side. -/
def twoCheckouts : FileTree :=
  ((FileTree.empty.put [] "w" .directory).put ["w"] "Lang_10" .directory).put
    ["w"] "Lang_1" .directory

theorem names_apart_lang :
    ¬ Location.along [] "w/Lang_1" <+: Location.along [] "w/Lang_10" ∧
    ((Call.removeTree "w/Lang_10").perform [] twoCheckouts).2.get? ["w", "Lang_1"] =
      some .directory ∧
    ((Call.removeTree "w/Lang_10").perform [] twoCheckouts).2.get? ["w", "Lang_10"] = none := by
  have hcheckout : lang10.filePath [] "w" .checkout = "w/Lang_10" := by decide +kernel
  have hother : lang1.filePath [] "w" .checkout = "w/Lang_1" := by decide +kernel
  have ht : twoCheckouts.SymlinkFree :=
    ((symlinkFree_empty.put (by simp)).put (by simp)).put (by simp)
  obtain ⟨-, -, -, -, -, -, -, hplaces⟩ := names_apart lang10 lang1
  obtain ⟨-, hkeeps⟩ := hplaces [] "w" nofun
  obtain ⟨-, -, -, -, -, -, -, hplaces'⟩ := names_apart lang1 lang10
  refine ⟨?_, ?_, by decide +kernel⟩
  · rw [← hcheckout, ← hother, (hplaces' [] "w" nofun).1]
    decide
  · rw [← hcheckout, hkeeps (by decide) (by decide +kernel) twoCheckouts _ ht
      (.removeTree .checkout) .checkout ["w", "Lang_1"] (by decide +kernel)]
    decide +kernel

end ProjectId

end BenchCheckout
