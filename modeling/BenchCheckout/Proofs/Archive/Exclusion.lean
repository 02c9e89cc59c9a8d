import BenchCheckout.Proofs.Checkout.Footprint
import BenchCheckout.Proofs.Checkout.Unpacking
import BenchCheckout.Proofs.Files.Inside

/-!
# What exclusions remove

An exclusion is a path under the extracted root, by its text. As long as the text is an inner path,
what is removed lies below the root, and the root stays; so exclusions do nothing outside the
staging directory.

* `Archive.removeExcluded_loses`, `Checkout.removeAllExcluded_loses`: one exclusion, and a row of
  them.
* `Archive.exclusions_stay_inside`: both under the root of an extracted archive.
* `Archive.exclusion_leaves_root`: a path that goes up does remove things outside.
-/

namespace BenchCheckout

open BenchCheckout.Action Checkout FileTree

variable {host : Host} {t u : FileTree} {root path : String} {l : Location}

section Rows

variable (ht : t.SymlinkFree) (hroot : t.locate host.cwd root = .ok l)

include ht hroot

/-- An inner path loses entries below the root. What was lost before does not matter. -/
theorem Archive.removeExcluded_loses (hpath : Path.IsInner path) (hu : LosesBelow l t u) :
    LosesBelow l u ((Archive.removeExcluded root path).outcome host u).files := by
  have hfiles (call : Call) :
      (((change (.removingExcluded (Path.join root path)) call).outcome host u).andThen fun _ v =>
        .value true v).files = (call.perform host.cwd u).2 := by
    rw [outcome_change]
    cases (call.perform host.cwd u).1 <;> rfl
  rw [outcome_removeExcluded]
  split
  · rw [hfiles]
    exact removeTree_inner ht hroot hpath hu
  split
  · rw [hfiles, Call.perform_removeFile]
    cases hv : u.removeFile host.cwd (Path.join root path) with
    | error fault => exact .refl l u
    | ok v => exact removeFile_inner ht hroot hpath hu hv
  · exact .refl l u

theorem Checkout.removeAllExcluded_loses {paths : List String}
    (hpaths : ∀ path ∈ paths, Path.IsInner path) (hu : LosesBelow l t u) :
    LosesBelow l u ((Checkout.removeAllExcluded root paths).outcome host u).files := by
  induction paths generalizing u with
  | nil => exact .refl l u
  | cons path paths ih =>
    rw [outcome_removeAllExcluded_cons]
    have hfirst := Archive.removeExcluded_loses ht hroot (hpaths path List.mem_cons_self) hu
    generalize (Archive.removeExcluded root path).outcome host u = o at hfirst
    obtain ⟨r, v, history⟩ := o
    cases r with
    | error f => exact hfirst
    | ok removed =>
      exact hfirst.trans (ih (fun p hp => hpaths p (List.mem_cons_of_mem path hp)) (hu.trans hfirst))

end Rows

namespace Archive

/-- The root that is found is a directory. -/
theorem isDirectory_of_rootIn {project : ProjectId} {archive staging : String} {cwd : Location}
    (h : rootIn project archive staging t cwd = .ok root) : t.isDirectory cwd root := by
  unfold rootIn at h
  split at h
  · rename_i hd
    cases h
    exact hd
  split at h
  · cases h
  · split at h
    · rename_i hd
      cases h
      exact hd
    · cases h
  · cases h

theorem rootIn_of_extract {config : Config} {project : ProjectId} {archive staging : String}
    (h : ((extract config project archive staging).outcome host t).result = .ok root) :
    rootIn project archive staging ((extract config project archive staging).outcome host t).files
      host.cwd = .ok root := by
  have ho := Outcome.eq_of_result h
  generalize ((extract config project archive staging).outcome host t).files = v at ho ⊢
  rw [outcome_extract] at ho
  obtain ⟨_, u, _, _, -, ho, -⟩ := Outcome.andThen_eq_ok ho
  obtain ⟨_, w, _, _, -, ho, -⟩ := Outcome.andThen_eq_ok ho
  obtain ⟨hroot, rfl, -⟩ := Outcome.mk.inj ho
  exact hroot

/-- **Exclusions stay inside, where their paths do.** Without links, an inner path removes nothing
but what lies below the root, and the root stays a directory. So the exclusions of a subject, if all
are inner paths, remove nothing outside the staging directory that an archive was unpacked in. -/
theorem exclusions_stay_inside (host : Host) :
    (∀ (root path : String) (t : FileTree), t.SymlinkFree → t.isDirectory host.cwd root →
      Path.IsInner path → ∃ l, t.locate host.cwd root = .ok l ∧
        let u := ((removeExcluded root path).outcome host t).files
        LosesBelow l t u ∧ u.get? l = some .directory) ∧
    (∀ (config : Config) (project : ProjectId) (workspace archive root : String) (t : FileTree),
      let staging := Checkout.staging workspace project
      let o := (extract config project archive staging).outcome host t
      o.result = .ok root → o.files.SymlinkFree →
      (∀ path ∈ config.exclusionsFor project.subject, Path.IsInner path) →
      ∃ s l, o.files.locate host.cwd staging = .ok s ∧ o.files.locate host.cwd root = .ok l ∧
        s <+: l ∧
        let u := ((Checkout.removeAllExcluded root
          (config.exclusionsFor project.subject)).outcome host o.files).files
        LosesBelow l o.files u ∧ u.get? l = some .directory) := by
  have hplace {t : FileTree} {root : String} (h : t.isDirectory host.cwd root) :
      ∃ l, t.locate host.cwd root = .ok l ∧ t.get? l = some .directory := by
    obtain ⟨l, hl, hd⟩ := resolve_of_isDirectory h
    exact ⟨l, locate_eq_ok.mpr hl, hd⟩
  have hstays {t u : FileTree} {l : Location} (hd : t.get? l = some .directory)
      (hu : LosesBelow l t u) : u.get? l = some .directory :=
    (hu.get?_of_not fun h => h.2 rfl).trans hd
  refine ⟨fun root path t ht hroot hpath => ?_, fun config project workspace archive root t => ?_⟩
  · obtain ⟨l, hl, hd⟩ := hplace hroot
    have hloses := removeExcluded_loses ht hl hpath (.refl l t)
    exact ⟨l, hl, hloses, hstays hd hloses⟩
  · intro staging o hresult ht hpaths
    have hrootIn : rootIn project archive staging o.files host.cwd = .ok root :=
      rootIn_of_extract hresult
    obtain ⟨n, hn, hjoin⟩ := Checkout.exists_root_of_rootIn hrootIn
    obtain ⟨l, hl, hd⟩ := hplace (isDirectory_of_rootIn hrootIn)
    have hstep := project.isName_stagingName.isStep
    obtain ⟨s, hs, hsl⟩ := locate_of_join ht (Path.join_ne_empty hstep)
      (Path.endsWithSlash_join hstep) hn (hjoin ▸ hl)
    have hloses := Checkout.removeAllExcluded_loses ht hl hpaths (.refl l _)
    exact ⟨s, l, hs, hl, hsl, hloses, hstays hd hloses⟩

theorem small_exclusion_stays_inside :
    (∃ l, smallTree.locate [] "w" = .ok l ∧
      LosesBelow l smallTree
        ((removeExcluded "w" "a/../b").outcome (smallHost (.exited 0)) smallTree).files) ∧
    let o := (extract smallConfig lang10 (place [] "." lang10) (staging "w" lang10)).outcome
      (smallHost (.exited 0)) smallTree
    let u := ((Checkout.removeAllExcluded "w/.Lang_10.extract/10"
      (smallConfig.exclusionsFor lang10.subject)).outcome (smallHost (.exited 0)) o.files).files
    ∃ l, o.files.locate [] "w/.Lang_10.extract/10" = .ok l ∧ LosesBelow l o.files u ∧
      u.get? l = some .directory := by
  obtain ⟨hone, hall⟩ := exclusions_stay_inside (smallHost (.exited 0))
  constructor
  · obtain ⟨l, hl, hloses, -⟩ := hone "w" "a/../b" smallTree symlinkFree_smallTree
      (by decide +kernel) (by decide +kernel)
    exact ⟨l, hl, hloses⟩
  · intro o u
    have hresult : o.result = .ok "w/.Lang_10.extract/10" := by decide +kernel
    obtain ⟨-, -, -, -, -, -, -, hsf, -⟩ := extract_ok (paths_small _) (extracts_small _)
      symlinkFree_smallTree (Outcome.eq_of_result hresult)
    obtain ⟨s, l, -, hl, -, hu⟩ := hall smallConfig lang10 "w" _
      "w/.Lang_10.extract/10" smallTree hresult hsf (by decide +kernel)
    exact ⟨l, hl, hu⟩

/-- A directory and a file next to it. -/
def neighbours : FileTree :=
  (FileTree.empty.put [] "root" .directory).put [] "next" (.file "z".toUTF8 false none)

/-- The text of a path under a root need not lead there: one that goes up removes a file outside,
and an empty one removes the root. -/
theorem exclusion_leaves_root :
    neighbours.SymlinkFree ∧ neighbours.isDirectory [] "root" ∧
    neighbours.get? ["next"] = some (.file "z".toUTF8 false none) ∧
    (((removeExcluded "root" "../next").outcome idleHost neighbours).result = .ok true ∧
      ((removeExcluded "root" "../next").outcome idleHost neighbours).files.get? ["next"] = none) ∧
    (((removeExcluded "root" "").outcome idleHost neighbours).result = .ok true ∧
      ((removeExcluded "root" "").outcome idleHost neighbours).files.get? ["root"] = none) :=
  ⟨(symlinkFree_empty.put (by simp)).put (by simp), by decide +kernel, by decide +kernel,
    by decide +kernel, by decide +kernel⟩

end Archive

end BenchCheckout
