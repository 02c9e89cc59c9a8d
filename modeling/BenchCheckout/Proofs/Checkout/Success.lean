import BenchCheckout.Proofs.Checkout.Before
import BenchCheckout.Proofs.Checkout.Unpacking

/-!
# The content of a checkout

A checkout that succeeds has exactly what the extractor left under the project's root, without what
is excluded for the subject. What is excluded stays only where its path is longer than the system
takes.

* `putInPlace_ok`, `putInPlace_succeeds`: unpacking, leaving out and moving.
* `checkout_content`: the whole checkout, without a build.
* `excluded_path_stays`: a path can be too long to be left out.
-/

namespace BenchCheckout.Checkout

open BenchCheckout.Action FileTree

variable {host : Host} {config : Config} {project : ProjectId} {policy : ArchivePolicy}
  {raw workspace dest : String} {t u : FileTree} {history : List Event}

/-- Something lies at or below a path that is excluded for exactly the project's subject, and that
the system takes as a path under `root`. -/
def IsExcluded (config : Config) (project : ProjectId) (root : String) (k : Location) : Prop :=
  ∃ e ∈ config.exclusions, e.subject = project.subject ∧
    Path.IsUsable (Path.join root e.path) ∧ Path.steps e.path <+: k

instance (config : Config) (project : ProjectId) (root : String) (k : Location) :
    Decidable (IsExcluded config project root k) :=
  inferInstanceAs (Decidable (∃ _ ∈ _, _))

theorem isExcluded_iff {root : String} {l k : Location} :
    (∃ path ∈ config.exclusionsFor project.subject,
      Path.IsUsable (Path.join root path) ∧ l ++ Path.steps path <+: l ++ k) ↔
      IsExcluded config project root k := by
  simp only [List.prefix_append_right_inj, IsExcluded, Config.exclusionsFor, List.mem_map,
    List.mem_filter, beq_iff_eq]
  constructor
  · rintro ⟨_, ⟨e, ⟨he, hs⟩, rfl⟩, h⟩
    exact ⟨e, he, hs, h⟩
  · rintro ⟨e, he, hs, h⟩
    exact ⟨_, ⟨e, ⟨he, hs⟩, rfl⟩, h⟩

theorem isPlain_of_mem (hx : ∀ e ∈ config.exclusions, Path.IsPlain e.path) {path : String}
    (h : path ∈ config.exclusionsFor project.subject) : Path.IsPlain path := by
  obtain ⟨e, he, rfl⟩ := List.mem_map.mp h
  exact hx e (List.mem_filter.mp he).1

/-- What is left of the project's root once all that is excluded is gone. Nothing else changes. -/
theorem removeAllExcluded_root {n : String} (hw : ".." ∉ Path.steps workspace) (hn : IsName n)
    (hx : ∀ e ∈ config.exclusions, Path.IsPlain e.path) (ht : t.SymlinkFree)
    (hroot : t.get? (host.cwd.along (staging workspace project) ++ [n]) = some .directory) :
    ∃ u history, (removeAllExcluded (Path.join (staging workspace project) n)
        (config.exclusionsFor project.subject)).outcome host t = ⟨.ok (), u, history⟩ ∧
      u.SymlinkFree ∧
      (∀ k, u.get? (host.cwd.along (staging workspace project) ++ n :: k) =
        if IsExcluded config project (Path.join (staging workspace project) n) k then none
        else t.get? (host.cwd.along (staging workspace project) ++ n :: k)) ∧
      (∀ k, ¬ host.cwd.along (staging workspace project) ++ [n] <+: k → u.get? k = t.get? k) ∧
      history.filterMap (·.job?) = [] := by
  have halong : host.cwd.along (Path.join (staging workspace project) n) =
      host.cwd.along (staging workspace project) ++ [n] := Location.along_join_step hn.isStep
  have hup : ".." ∉ Path.steps (Path.join (staging workspace project) n) :=
    (Path.ends_join hn.isStep).up_not_mem_steps (staging_up project hw) hn.2.2.1
  obtain ⟨u, history, ho, hu, hget, hjobs, -⟩ := removeAllExcluded_spec host rfl hn.isStep hup
    (fun path hp => isPlain_of_mem hx hp) ht fun e he => by
      rw [halong, hroot] at he
      exact (Option.some.inj he).symm
  simp only [halong] at hget
  refine ⟨u, history, ho, hu, fun k => ?_, fun k hk => ?_, hjobs⟩
  · have hk : host.cwd.along (staging workspace project) ++ n :: k =
        host.cwd.along (staging workspace project) ++ [n] ++ k := by simp
    rw [hk, hget]
    exact if_congr isExcluded_iff rfl rfl
  · rw [hget, if_neg]
    rintro ⟨path, -, -, hpre⟩
    exact hk ((List.prefix_append _ _).trans hpre)

/-- What the extractor left, and what of it is in place in the end. -/
structure Placed (host : Host) (config : Config) (project : ProjectId) (workspace : String)
    (t left u : FileTree) (n : String) : Prop where
  symlinkFree : u.SymlinkFree
  isRoot : IsRoot left (host.cwd.along (staging workspace project)) project n
  get?_dest : ∀ k, u.get? (host.cwd.along (place workspace project) ++ k) =
    if IsExcluded config project (Path.join (staging workspace project) n) k then none
    else left.get? (host.cwd.along (staging workspace project) ++ n :: k)
  get?_staging : ∀ k, host.cwd.along (staging workspace project) <+: k → u.get? k = none
  get?_eq : ∀ k, ¬ host.cwd.along (place workspace project) <+: k →
    ¬ host.cwd.along (staging workspace project) <+: k → u.get? k = t.get? k ∨
      k <+: host.cwd.along (staging workspace project) ∧ t.get? k = none ∧
        u.get? k = some .directory

theorem putInPlace_ok (hp : Paths host config project workspace)
    (he : ExtractsToStaging host config project workspace)
    (hx : ∀ e ∈ config.exclusions, Path.IsPlain e.path) (ht : t.SymlinkFree)
    (h : (putInPlace config project (Archive.place host.cwd config.archiveDir project)
      (staging workspace project) (place workspace project)).outcome host t =
        ⟨.ok (), u, history⟩) :
    ∃ before left after n,
      history = before ++ .launched (unpackJob host config project workspace) (.ok (.exited 0))
        left :: after ∧
      after.filterMap (·.job?) = [] ∧ Placed host config project workspace t left u n := by
  have hup := staging_up project hp.workspace_up
  rw [outcome_putInPlace] at h
  obtain ⟨root, left, h₁, h₂, hextract, hrest, rfl⟩ := Outcome.andThen_eq_ok h
  obtain ⟨before, n, rfl, -, hn, rfl, hroot, hleft, hframe⟩ := extract_ok hp he ht hextract
  obtain ⟨v, h₃, hremoved, hv, hvbelow, hvelse, hjobs⟩ :=
    removeAllExcluded_root hp.workspace_up hn hx hleft hroot.1
  have hvoutside {k : Location} (hk : ¬ host.cwd.along (staging workspace project) <+: k) :
      v.get? k = left.get? k := hvelse k fun hc => hk ((List.prefix_append _ _).trans hc)
  rw [hremoved, Outcome.ok_andThen, ← moving] at hrest
  rcases moving_cases host project hp.workspace_up hn hv fun e he => by
      rw [hvbelow []] at he
      split at he
      · cases he
      · rw [hroot.1] at he
        exact (Option.some.inj he).symm with
    ⟨f, event, hmoving, -⟩ |
      ⟨x, first, second, hmoving, hfirst, hsecond, hx, hdest, hstaging, houtside⟩
  · rw [hmoving] at hrest
    cases (Outcome.mk.inj hrest).1
  · rw [hmoving] at hrest
    obtain ⟨-, rfl, rfl⟩ := Outcome.mk.inj hrest
    refine ⟨before, left, h₃ ++ [first, second], n, by simp, ?_, hx, hroot, fun k => ?_, hstaging,
      fun k hk hk' => ?_⟩
    · cases first <;> cases hfirst
      cases second <;> cases hsecond
      rw [List.filterMap_append, hjobs]
      rfl
    · rw [hdest, hvbelow]
    · rw [houtside k hk hk', hvoutside hk']
      exact hframe k hk'

/-- Where the extractor leaves the directory named after the bug, which is not excluded itself, that is
put in place. -/
theorem putInPlace_succeeds {v left : FileTree} {before : List Event} {output errors : String}
    (hp : Paths host config project workspace)
    (hx : ∀ e ∈ config.exclusions, Path.IsPlain e.path)
    (hreset : (Archive.resetStaging (staging workspace project)).outcome host t =
      ⟨.ok (), v, before⟩)
    (hjob : host.launch (unpackJob host config project workspace) v =
      ⟨.ok (.exited 0), left, output, errors⟩)
    (hleft : left.SymlinkFree)
    (hroot : left.get? (host.cwd.along (staging workspace project) ++ [project.bugId]) =
      some .directory)
    (hdest : left.get? (host.cwd.along (place workspace project)) = none)
    (husable : Path.IsUsable (Path.join (staging workspace project) project.bugId))
    (husable' : Path.IsUsable (place workspace project))
    (hkeep : ¬ IsExcluded config project (Path.join (staging workspace project) project.bugId) []) :
    ∃ u history, (putInPlace config project (Archive.place host.cwd config.archiveDir project)
        (staging workspace project) (place workspace project)).outcome host t =
          ⟨.ok (), u, history⟩ ∧
      ∀ k, u.get? (host.cwd.along (place workspace project) ++ k) =
        if IsExcluded config project (Path.join (staging workspace project) project.bugId) k then none
        else left.get? (host.cwd.along (staging workspace project) ++ project.bugId :: k) := by
  have hn := project.isName_bugId
  have hdirectory : left.isDirectory host.cwd
      (Path.join (staging workspace project) project.bugId) := by
    have hup := (Path.ends_join hn.isStep).up_not_mem_steps
      (staging_up project hp.workspace_up) hn.2.2.1
    exact (isDirectory_iff hleft hup).mpr ⟨husable, Location.along_join_step hn.isStep ▸ hroot⟩
  obtain ⟨w, after, hremoved, hw, hbelow, helse, -⟩ :=
    removeAllExcluded_root hp.workspace_up hn hx hleft hroot
  have hwroot : w.get? (host.cwd.along (staging workspace project) ++ [project.bugId]) =
      some .directory := by
    rw [hbelow [], if_neg hkeep, hroot]
  have hwdest : w.get? (host.cwd.along (place workspace project)) = none := by
    rw [helse _ fun hc => not_staging_prefix_dest ((List.prefix_append _ _).trans hc), hdest]
  obtain ⟨x, hrename⟩ := rename_root_succeeds hp.workspace_up hn hw husable husable' hwroot hwdest
  obtain ⟨u, last, hmoving, hcontent⟩ : ∃ u last, moving host project workspace
      (Path.join (staging workspace project) project.bugId) w = ⟨.ok (), u, last⟩ ∧
      ∀ k, u.get? (host.cwd.along (place workspace project) ++ k) =
        w.get? (host.cwd.along (staging workspace project) ++ project.bugId :: k) := by
    rcases moving_cases host project hp.workspace_up hn hw fun e he => by
        rw [hwroot] at he
        exact (Option.some.inj he).symm with
      ⟨f, event, hmoving, -⟩ | ⟨u, first, second, hmoving, -, -, -, hcontent, -⟩
    · -- A removal comes behind a move that succeeds.
      rw [moving, outcome_change, Call.perform_rename, hrename] at hmoving
      simp [Except.mapError, Outcome.ok_andThen, outcome_change] at hmoving
    · exact ⟨u, _, hmoving, hcontent⟩
  rw [outcome_putInPlace, Archive.outcome_extract, hreset, Outcome.ok_andThen]
  have hextract : Archive.extractJob config (Archive.place host.cwd config.archiveDir project)
    (staging workspace project) = unpackJob host config project workspace := rfl
  have hverdict : config.extractor.verdict "extract" (.ok (.exited 0)) = .ok () := rfl
  have hrootIn : Archive.rootIn project (Archive.place host.cwd config.archiveDir project)
      (staging workspace project) left host.cwd =
        .ok (Path.join (staging workspace project) project.bugId) := if_pos hdirectory
  rw [hextract, hjob, hverdict]
  simp only [Outcome.ok_andThen, hrootIn, hremoved]
  rw [← moving, hmoving]
  exact ⟨u, _, rfl, fun k => by rw [hcontent, hbelow]⟩

/-! ## The whole checkout -/

/-- What lies neither where the checkout and the staging directory are, nor where the archive is and
is downloaded to. -/
def IsOutside (host : Host) (config : Config) (project : ProjectId) (workspace : String)
    (k : Location) : Prop :=
  ¬ host.cwd.along (place workspace project) <+: k ∧
  ¬ host.cwd.along (staging workspace project) <+: k ∧
  ¬ host.cwd.along (Archive.partialPlace host.cwd config.archiveDir project) <+: k ∧
  ¬ host.cwd.along (Archive.place host.cwd config.archiveDir project) <+: k

/-- A fetch that succeeds changes nothing outside but for directories above the archive. -/
theorem FetchedFrom.get?_eq {home part archive : Location} (h : FetchedFrom t u home part archive)
    {k : Location} (hpart : ¬ part <+: k) (harchive : ¬ archive <+: k) :
    u.get? k = t.get? k ∨ k <+: home ∧ t.get? k = none ∧ u.get? k = some .directory := by
  rcases h with ⟨rfl, -⟩ | ⟨v, e, -, hframe, -, -, ⟨rfl, -⟩ | hu⟩
  · exact .inl rfl
  · exact hframe k hpart
  · rw [hu k, if_neg harchive, if_neg hpart]
    exact hframe k hpart

/-- The deletion of the archive is one change at most, and it changes nothing else. -/
theorem deletion_spec (policy : ArchivePolicy) (hp : Paths host config project workspace)
    (ht : t.SymlinkFree) :
    let o := deletion policy host t (Archive.place host.cwd config.archiveDir project)
    o.jobs = [] ∧
    o.calls = (if policy = .transient then
      [.removeFile (Archive.place host.cwd config.archiveDir project)] else []) ∧
    o.files.SymlinkFree ∧
    (policy = .cached → o.files = t) ∧
    ∀ k, k ≠ host.cwd.along (Archive.place host.cwd config.archiveDir project) →
      o.files.get? k = t.get? k := by
  cases policy with
  | cached => exact ⟨rfl, rfl, ht, fun _ => rfl, fun _ _ => rfl⟩
  | transient =>
    simp only [deletion, outcome_change, Call.perform_removeFile]
    cases hr : t.removeFile host.cwd (Archive.place host.cwd config.archiveDir project) with
    | error fault => exact ⟨rfl, rfl, ht, fun _ => rfl, fun _ _ => rfl⟩
    | ok v =>
      refine ⟨rfl, rfl, ht.removeFile hr, fun hc => (by cases hc), fun k hk => ?_⟩
      obtain ⟨s, e, hs, -, -, -, -, hv⟩ := removeFile_eq_ok hr
      obtain rfl := ((spot_iff ht (Path.ends_join project.isName_archiveName.isStep)
        (home_up hp)).mp hs).1
      rw [hv, if_neg]
      rintro rfl
      refine hk ?_
      rw [Spot.location, Archive.along_home hp.isName_cwd, Archive.along_place hp.isName_cwd]

/-- A checkout without a build that succeeds has the content of the project's root as the extractor
left it, without the paths that are excluded for exactly the subject, as far as they can be paths;
the staging directory is gone, and all that lies outside is as it was but for directories above the
archive. -/
theorem checkout_content
    (hsetting : ∀ p, ProjectId.parse? raw = some p → Paths host config p workspace ∧
      DownloadsToOutput host config p ∧ ExtractsToStaging host config p workspace)
    (hx : ∀ e ∈ config.exclusions, Path.IsPlain e.path) (ht : t.SymlinkFree)
    (h : (checkout config raw workspace ⟨false, policy⟩).outcome host t =
      ⟨.ok dest, u, history⟩) :
    ∃ p, ProjectId.parse? raw = some p ∧ dest = place workspace p ∧
      ∃ before left after n,
        history = before ++ .launched (unpackJob host config p workspace) (.ok (.exited 0))
          left :: after ∧
        after.filterMap (·.job?) = [] ∧
        IsRoot left (host.cwd.along (staging workspace p)) p n ∧
        (∀ k, u.get? (host.cwd.along dest ++ k) =
          if IsExcluded config p (Path.join (staging workspace p) n) k then none
          else left.get? (host.cwd.along (staging workspace p) ++ n :: k)) ∧
        (∀ k, host.cwd.along (staging workspace p) <+: k → u.get? k = none) ∧
        ∀ k, IsOutside host config p workspace k → u.get? k = t.get? k ∨
          k <+: host.cwd.along config.archiveDir ∧ t.get? k = none ∧
            u.get? k = some .directory := by
  rw [outcome_checkout] at h
  cases hparse : ProjectId.parse? raw with
  | none =>
    rw [hparse] at h
    cases (Outcome.mk.inj h).1
  | some p =>
    obtain ⟨hp, hd, he⟩ := hsetting p hparse
    rw [hparse] at h
    simp only at h
    split at h
    · rename_i hworkspace
      rw [outcome_run] at h
      obtain ⟨⟨⟩, t₁, h₁, h₂, hstale, hrest, rfl⟩ := Outcome.andThen_eq_ok h
      obtain ⟨archive, t₂, h₃, h₄, hfetch, hrest', rfl⟩ := Outcome.andThen_eq_ok hrest
      have hrest'' := Outcome.andThen_eq_ok hrest'
      obtain ⟨⟨⟩, t₄, h₅, h₆, hunpack, hlast, rfl⟩ := hrest''
      obtain ⟨hdest, rfl, rfl⟩ := Outcome.mk.inj hlast
      obtain ⟨ht₁, hstaleget, -⟩ := removeStale_ok hp.workspace_up ht hstale
      obtain ⟨rfl, ht₂, hfetched⟩ := fetch_ok hp hd ht₁ hfetch
      rw [outcome_unpackInto] at hunpack
      rcases hplace : (putInPlace config p (Archive.place host.cwd config.archiveDir p)
        (staging workspace p) (place workspace p)).outcome host t₂ with ⟨r, t₃, h₇⟩
      rw [hplace] at hunpack
      cases r with
      | error f => cases (Outcome.mk.inj hunpack).1
      | ok =>
        obtain ⟨before, left, after, n, rfl, hjobs, hplaced⟩ := putInPlace_ok hp he hx ht₂ hplace
        obtain ⟨hr, hu, rfl⟩ := Outcome.mk.inj hunpack
        obtain ⟨hdjobs, -, -, -, hdelete⟩ := deletion_spec policy hp hplaced.symlinkFree
        rw [hu] at hdelete
        refine ⟨p, rfl, (Except.ok.inj hdest).symm, h₁ ++ (h₃ ++ before), left, after ++ _, n,
          by simp; rfl, by rw [List.filterMap_append, hjobs]; exact hdjobs, hplaced.isRoot,
          fun k => ?_, fun k hk => ?_, fun k hk => ?_⟩
        · rw [← Except.ok.inj hdest, hdelete _ fun hc => hp.outside_dest (hc ▸ List.prefix_append _ _),
            hplaced.get?_dest]
        · rw [hdelete k fun hc => hp.outside_staging (hc ▸ hk), hplaced.get?_staging k hk]
        · obtain ⟨hdestk, hstagingk, hpartk, harchivek⟩ := hk
          rw [hdelete k fun hc => harchivek (hc ▸ List.prefix_refl _), ← hstaleget k hdestk]
          have h₂ := hfetched.get?_eq hpartk harchivek
          rcases hplaced.get?_eq k hdestk hstagingk with h₃ | ⟨hpre, hnone, -⟩
          · rw [h₃]
            exact h₂
          · -- The workspace was there from the start, with all above it.
            have habove : t.get? k = some .directory := by
              obtain ⟨-, hw⟩ := (isDirectory_iff ht hp.workspace_up).mp hworkspace
              refine get?_of_prefix hw ?_
              rw [along_staging] at hpre
              exact (List.prefix_concat_iff.mp hpre).resolve_left fun hc =>
                hstagingk (by rw [along_staging]; exact hc ▸ List.prefix_refl _)
            rw [hnone, hstaleget k hdestk, habove] at h₂
            rcases h₂ with h₂ | ⟨-, h₂, -⟩ <;> cases h₂
    · cases (Outcome.mk.inj h).1

theorem content_of_small_checkout :
    ∃ u history left n,
      (checkout smallConfig "Lang_10" "w" ⟨false, .cached⟩).outcome (smallHost (.exited 0))
        smallTree = ⟨.ok "w/Lang_10", u, history⟩ ∧
      IsRoot left ["w", ".Lang_10.extract"] lang10 n ∧
      ∀ k, u.get? (["w", "Lang_10"] ++ k) =
        if IsExcluded smallConfig lang10 (Path.join (staging "w" lang10) n) k then none
        else left.get? (["w", ".Lang_10.extract"] ++ n :: k) := by
  have hparse {p : ProjectId} (hp : ProjectId.parse? "Lang_10" = some p) : p = lang10 :=
    Option.some.inj (hp.symm.trans parse?_lang10)
  have hrun := Outcome.eq_of_result (show ((checkout smallConfig "Lang_10" "w" ⟨false, .cached⟩).outcome
    (smallHost (.exited 0)) smallTree).result = .ok "w/Lang_10" by decide +kernel)
  obtain ⟨p, hp, -, -, left, -, n, -, -, hroot, hget, -⟩ := checkout_content
    (fun p hp => by
      rw [hparse hp]
      exact ⟨paths_small _, downloads_small _, extracts_small _⟩)
    isPlain_smallConfig symlinkFree_smallTree hrun
  obtain rfl := hparse hp
  have hdest : (smallHost (.exited 0)).cwd.along "w/Lang_10" = ["w", "Lang_10"] := by
    show Location.along [] "w/Lang_10" = _
    decide +kernel
  rw [along_staging_small] at hroot hget
  rw [hdest] at hget
  exact ⟨_, _, left, n, hrun, hroot, hget⟩

/-! ## A path that is too long -/

/-- A directory in the directory at `l`, one in that, and so on. -/
def nested (l : Location) : List String → FileTree → FileTree
  | [], t => t
  | n :: ns, t => nested (l ++ [n]) ns (t.put l n .directory)

theorem symlinkFree_nested {l : Location} {ns : List String} (ht : t.SymlinkFree) :
    (nested l ns t).SymlinkFree := by
  induction ns generalizing l t with
  | nil => exact ht
  | cons n ns ih => exact ih (ht.put (by simp))

theorem get?_nested_of_not {l k : Location} {ns : List String} (h : ¬ l <+: k) :
    (nested l ns t).get? k = t.get? k := by
  induction ns generalizing l t with
  | nil => rfl
  | cons n ns ih =>
    have hne : k ≠ l ++ [n] := by
      rintro rfl
      exact h (List.prefix_append _ _)
    rw [nested, ih fun hc => h ((List.prefix_append _ _).trans hc), get?_put_of_ne _ hne]

theorem get?_nested {l : Location} {ns : List String} (hns : ∀ n ∈ ns, IsName n)
    (h : t.get? l = some .directory) : (nested l ns t).get? (l ++ ns) = some .directory := by
  induction ns generalizing l t with
  | nil => rwa [List.append_nil]
  | cons n ns ih =>
    have hput : t.CanPut l n .directory := ⟨hns n List.mem_cons_self, h, fun _ => rfl⟩
    have := ih (l := l ++ [n]) (t := t.put l n .directory)
      (fun m hm => hns m (List.mem_cons_of_mem n hm)) (by rw [get?_put hput, if_pos rfl])
    rwa [List.append_assoc, List.singleton_append] at this

def longName (size : Nat) : String := String.ofList (List.replicate size 'x')

theorem isName_longName {size : Nat} (h : 2 < size) : IsName (longName size) := by
  have hlist : (longName size).toList = List.replicate size 'x' := by simp [longName]
  have hne (s : String) (hs : s.toList.length ≤ 2) : longName size ≠ s := by
    rintro rfl
    rw [hlist, List.length_replicate] at hs
    omega
  refine ⟨hne _ (by decide), hne _ (by decide), hne _ (by decide), ?_, ?_⟩ <;>
    simp [hlist, List.mem_replicate]

/-- Names that are about as long as a path may be, all together. -/
def deepNames : List String := List.replicate 16 (longName 254)

def deepExclusion : Exclusion := ⟨"Lang", "/".intercalate deepNames⟩

def deepConfig : Config := { Config.default with exclusions := [deepExclusion] }

/-- The extractor unpacks nested directories of those names. -/
def deepLaunch (job : Job) (t : FileTree) : Run :=
  if job.cwd = "w/.Lang_10.extract" then
    ⟨.ok (.exited 0), nested ["w", ".Lang_10.extract"] ("10" :: deepNames) t, "", ""⟩
  else ⟨.ok (.exited 1), t, "", ""⟩

def deepHost : Host := .plain deepLaunch

theorem isName_of_mem_deepNames {n : String} (h : n ∈ deepNames) : IsName n := by
  rw [(List.mem_replicate.mp h).2]
  exact isName_longName (by decide)

theorem isPlain_deepConfig : ∀ e ∈ deepConfig.exclusions, Path.IsPlain e.path := by
  intro e he
  rw [List.mem_singleton.mp he]
  refine ⟨deepNames, rfl, fun n hn => ?_⟩
  obtain ⟨hempty, hdot, hup, hslash, -⟩ := isName_of_mem_deepNames hn
  exact ⟨hempty, hdot, hup, hslash⟩

theorem steps_deep : Path.steps deepExclusion.path = deepNames := by
  rw [deepExclusion, Path.steps,
    Path.pieces_intercalate (by decide) fun n hn => (isName_of_mem_deepNames hn).2.2.2.1,
    List.filter_eq_self]
  intro n hn
  simp [(isName_of_mem_deepNames hn).isStep.2]

/-- The path of the innermost directory is too long for the system. -/
theorem not_isExcluded_deep (k : Location) :
    ¬ IsExcluded deepConfig lang10 (Path.join (staging "w" lang10) lang10.bugId) k := by
  rintro ⟨e, he, -, ⟨-, -, hsize, -⟩, -⟩
  obtain rfl := List.mem_singleton.mp he
  have hjoin : Path.join (Path.join (staging "w" lang10) lang10.bugId) deepExclusion.path =
      Path.join (staging "w" lang10) lang10.bugId ++ "/" ++ deepExclusion.path := by
    rw [Path.join, if_neg, if_neg (by decide +kernel)]
    simp [(isPlain_deepConfig _ he).startsAtRoot_eq]
  have hroot : (Path.join (staging "w" lang10) lang10.bugId).utf8ByteSize = 21 := by decide +kernel
  have hdeep : deepExclusion.path.utf8ByteSize = 4079 := by decide +kernel
  rw [hjoin, String.utf8ByteSize_append, String.utf8ByteSize_append, hroot, hdeep] at hsize
  revert hsize
  decide

theorem paths_deep : Paths deepHost deepConfig lang10 "w" :=
  ⟨nofun, by decide +kernel, by decide +kernel, by decide +kernel, by decide +kernel⟩

theorem launch_unpack_deep (t : FileTree) :
    deepHost.launch (unpackJob deepHost deepConfig lang10 "w") t =
      ⟨.ok (.exited 0), nested ["w", ".Lang_10.extract"] ("10" :: deepNames) t, "", ""⟩ := by
  have h : (unpackJob deepHost deepConfig lang10 "w").cwd = "w/.Lang_10.extract" := by
    show staging "w" lang10 = _
    decide +kernel
  show deepLaunch (unpackJob deepHost deepConfig lang10 "w") t = _
  rw [deepLaunch, if_pos h]

theorem launch_download_deep (t : FileTree) :
    deepHost.launch (Archive.downloadJob deepConfig lang10 deepHost.cwd) t =
      ⟨.ok (.exited 1), t, "", ""⟩ := by
  show deepLaunch (Archive.downloadJob deepConfig lang10 []) t = _
  rw [deepLaunch, if_neg (by decide +kernel)]

theorem along_staging_deep :
    deepHost.cwd.along (staging "w" lang10) = ["w", ".Lang_10.extract"] := by
  show Location.along [] (staging "w" lang10) = _
  decide +kernel

theorem downloads_deep : DownloadsToOutput deepHost deepConfig lang10 := by
  intro t ht
  rw [launch_download_deep]
  exact ⟨ht, fun _ _ => rfl⟩

theorem extracts_deep : ExtractsToStaging deepHost deepConfig lang10 "w" := by
  intro t ht
  rw [launch_unpack_deep, along_staging_deep]
  dsimp only
  exact ⟨symlinkFree_nested ht, fun k hk => get?_nested_of_not hk⟩

/-- The checkout succeeds, and the innermost directory is in it. -/
theorem checkout_deep :
    ∃ u history, (checkout deepConfig "Lang_10" "w" ⟨false, .cached⟩).outcome deepHost smallTree =
        ⟨.ok (place "w" lang10), u, history⟩ ∧
      u.get? (deepHost.cwd.along (place "w" lang10) ++ deepNames) = some .directory := by
  have hfetching : fetching deepConfig lang10 "w" .cached deepHost smallTree =
      .value (Archive.place deepHost.cwd deepConfig.archiveDir lang10) smallTree := by
    rw [fetching, outcome_removeStale, if_neg (by decide +kernel), Outcome.value_andThen,
      Archive.outcome_fetch _ _ _ _ paths_deep.isName_cwd (by decide +kernel),
      if_pos ⟨rfl, by decide +kernel⟩]
  have hreset := Outcome.eq_of_result (show ((Archive.resetStaging (staging "w" lang10)).outcome
    deepHost smallTree).result = .ok () by decide +kernel)
  have hw : ".." ∉ Path.steps "w" := by decide +kernel
  obtain ⟨hv, hdir, -, hframe, -⟩ := resetStaging_ok hw symlinkFree_smallTree hreset
  generalize ((Archive.resetStaging (staging "w" lang10)).outcome deepHost smallTree).files = v
    at hreset hv hdir hframe
  have hstaging := ((isDirectory_iff hv (by decide +kernel)).mp hdir).2
  have hleft : (nested ["w", ".Lang_10.extract"] ("10" :: deepNames) v).get?
      (["w", ".Lang_10.extract"] ++ [lang10.bugId] ++ deepNames) = some .directory := by
    rw [show lang10.bugId = "10" by decide +kernel, List.append_assoc]
    refine get?_nested (fun n hn => ?_) (along_staging_deep ▸ hstaging)
    rcases List.mem_cons.mp hn with rfl | hn
    · decide
    · exact isName_of_mem_deepNames hn
  obtain ⟨u, history, hplace, hget⟩ := putInPlace_succeeds paths_deep isPlain_deepConfig hreset
    (launch_unpack_deep v) (symlinkFree_nested hv) (by
      rw [along_staging_deep]
      exact get?_of_append hleft (by decide))
    (by
      rw [get?_nested_of_not (along_staging_deep ▸ not_staging_prefix_dest)]
      rcases hframe _ not_staging_prefix_dest with h | ⟨h, -⟩
      · rw [h]
        decide +kernel
      · exact absurd h not_dest_prefix_staging)
    (by decide +kernel) (by decide +kernel) (not_isExcluded_deep [])
  rw [outcome_checkout_of_isDirectory parse?_lang10 (by decide +kernel), hfetching,
    Outcome.value_andThen, outcome_unpackInto, hplace]
  refine ⟨u, _, rfl, ?_⟩
  rw [hget, if_neg (not_isExcluded_deep _), along_staging_deep, List.append_cons]
  exact hleft

/-- What is excluded stays where its path is longer than the system takes. -/
theorem excluded_path_stays :
    ¬ ∀ (host : Host) (config : Config) (raw workspace dest : String) (policy : ArchivePolicy)
        (t u : FileTree) (history : List Event) (p : ProjectId) (e : Exclusion),
      (∀ p, ProjectId.parse? raw = some p → Paths host config p workspace ∧
        DownloadsToOutput host config p ∧ ExtractsToStaging host config p workspace) →
      (∀ e ∈ config.exclusions, Path.IsPlain e.path) → t.SymlinkFree →
      (checkout config raw workspace ⟨false, policy⟩).outcome host t = ⟨.ok dest, u, history⟩ →
      ProjectId.parse? raw = some p → e ∈ config.exclusions → e.subject = p.subject →
      u.get? (host.cwd.along dest ++ Path.steps e.path) = none := by
  intro h
  obtain ⟨u, history, hrun, hget⟩ := checkout_deep
  have hgone := h deepHost deepConfig "Lang_10" "w" _ .cached smallTree u history lang10
    deepExclusion (fun p hp => by
      obtain rfl := Option.some.inj (hp.symm.trans parse?_lang10)
      exact ⟨paths_deep, downloads_deep, extracts_deep⟩)
    isPlain_deepConfig symlinkFree_smallTree hrun parse?_lang10 (List.mem_singleton.mpr rfl)
    (by decide +kernel)
  rw [steps_deep, hget] at hgone
  cases hgone

end BenchCheckout.Checkout
