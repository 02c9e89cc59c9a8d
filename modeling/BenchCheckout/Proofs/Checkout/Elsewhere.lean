import BenchCheckout.Proofs.Build
import BenchCheckout.Proofs.Checkout.Unpacking
import BenchCheckout.Proofs.Files.Contents

/-!
# What a checkout leaves alone

A location that lies neither in the checkout nor in the staging directory stays as it is through all
stages behind the fetch, in trees without links: the children leave it alone, and what is left out
lies in the project's root. A patch may rewrite a file there, if the manifest is that very file, but
makes none and removes none.

* `Outcome.Spares`: what an outcome means for one location; `Spares.andThen`: for two in a row.
* `unpackInto_spares`, `unpackInto_deletes`: unpacking, with a transient archive's deletion.
* `buildInto_spares`: builds, with the patches between them.
-/

namespace BenchCheckout

open BenchCheckout.Action FileTree

/-! ## One location -/

/-- The manifest was written, and `l` is a name of its file. -/
def Event.Patches (manifest : String) (cwd l : Location) : Event → Prop
  | .changed (.write path _) (.ok ()) files =>
    path = manifest ∧ ∃ k, files.landing cwd path = .ok k ∧ files.isSameFile k l
  | _ => False

/-- A job that makes no link and leaves `l` alone. -/
def Host.Spares (host : Host) (job : Job) (l : Location) : Prop :=
  ∀ t, t.SymlinkFree →
    (host.launch job t).files.SymlinkFree ∧ (host.launch job t).files.get? l = t.get? l

namespace Outcome

variable {α β : Type} {l : Location} {children : List Job} {writes : Event → Prop} {t : FileTree}
  {o : Outcome α}

/-- From `t` on, only `children` are started and no link is made. A file at `l` stays one and none
comes to be there. Only an event that `writes` may have changed anything at `l`. -/
structure Spares (l : Location) (children : List Job) (writes : Event → Prop) (t : FileTree)
    (o : Outcome α) : Prop where
  symlinkFree : o.files.SymlinkFree
  isFileAt_iff : o.files.IsFileAt l ↔ t.IsFileAt l
  get?_eq_or : o.files.get? l = t.get? l ∨ ∃ e ∈ o.history, writes e
  starts : ∀ job ∈ o.jobs, job ∈ children

theorem Spares.of_get?_eq (hsf : o.files.SymlinkFree) (h : o.files.get? l = t.get? l)
    (hjobs : ∀ job ∈ o.jobs, job ∈ children) : o.Spares l children writes t :=
  ⟨hsf, by rw [IsFileAt, IsFileAt, h], .inl h, hjobs⟩

theorem spares_value (a : α) (ht : t.SymlinkFree) : (value a t).Spares l children writes t :=
  .of_get?_eq ht rfl nofun

theorem spares_failure (f : Failure) (ht : t.SymlinkFree) :
    (failure f t : Outcome α).Spares l children writes t :=
  .of_get?_eq ht rfl nofun

theorem Spares.andThen {next : α → FileTree → Outcome β} (h : o.Spares l children writes t)
    (hnext : ∀ a, o.result = .ok a → o.files.SymlinkFree →
      (next a o.files).Spares l children writes o.files) :
    (o.andThen next).Spares l children writes t := by
  obtain ⟨r, u, history⟩ := o
  cases r with
  | error f => exact ⟨h.symlinkFree, h.isFileAt_iff, h.get?_eq_or, h.starts⟩
  | ok a =>
    have hn := hnext a rfl h.symlinkFree
    rw [ok_andThen]
    refine ⟨hn.symlinkFree, hn.isFileAt_iff.trans h.isFileAt_iff, ?_, fun job hj => ?_⟩
    · rcases h.get?_eq_or with hget | ⟨e, he, hw⟩
      · refine hn.get?_eq_or.imp (·.trans hget) ?_
        rintro ⟨e, he, hw⟩
        exact ⟨e, List.mem_append_right _ he, hw⟩
      · exact .inr ⟨e, List.mem_append_left _ he, hw⟩
    · rw [jobs, List.filterMap_append, List.mem_append] at hj
      exact hj.elim (h.starts job) (hn.starts job)

theorem Spares.mono {more : List Job} (h : o.Spares l children writes t)
    (hchildren : ∀ job ∈ children, job ∈ more) : o.Spares l more writes t :=
  ⟨h.symlinkFree, h.isFileAt_iff, h.get?_eq_or, fun job hj => hchildren job (h.starts job hj)⟩

end Outcome

section Steps

variable {host : Host} {l : Location} (children : List Job) (writes : Event → Prop) {t : FileTree}

/-- A change that does not touch `l`. -/
theorem Action.change_spares {call : Call} (activity : Activity)
    (hsf : (call.perform host.cwd t).2.SymlinkFree)
    (h : (call.perform host.cwd t).2.get? l = t.get? l) :
    ((change activity call).outcome host t).Spares l children writes t := by
  rw [outcome_change]
  exact .of_get?_eq hsf h nofun

theorem Action.removeTree_spares {p q n : String} (activity : Activity) (ht : t.SymlinkFree)
    (hp : Path.Ends p q n) (hup : ".." ∉ Path.steps p) (hl : ¬ host.cwd.along p <+: l) :
    ((change activity (.removeTree p)).outcome host t).Spares l children writes t :=
  change_spares children writes activity ht.removeTree (get?_of_removeTree ht hp hup hl)

/-- A job that spares `l` and comes to a verdict. -/
theorem Outcome.launched_spares {α : Type} {children : List Job} {writes : Event → Prop}
    {job : Job} (r : Except Failure α)
    (h : host.Spares job l) (hjob : job ∈ children) (ht : t.SymlinkFree) :
    Outcome.Spares l children writes t
      ⟨r, (host.launch job t).files,
        [.launched job (host.launch job t).outcome (host.launch job t).files]⟩ := by
  obtain ⟨hsf, hget⟩ := h t ht
  refine .of_get?_eq hsf hget fun j hj => ?_
  rw [List.mem_singleton.mp hj]
  exact hjob

end Steps

namespace Checkout

variable {host : Host} {config : Config} {project : ProjectId} {policy : ArchivePolicy}
  {workspace archive : String} {l : Location} (children : List Job) (writes : Event → Prop)
  {t u : FileTree}

/-! ## Unpacking -/

/-- What is removed at the path under `root` lies at `root` or below it. -/
def StaysBelow (host : Host) (root path : String) : Prop :=
  ∀ (t : FileTree) (l : Location), t.SymlinkFree → ¬ host.cwd.along root <+: l →
    (t.removeTree host.cwd (Path.join root path)).2.get? l = t.get? l ∧
    ∀ u, t.removeFile host.cwd (Path.join root path) = .ok u → u.get? l = t.get? l

/-- Names with slashes between lead nowhere else. -/
theorem staysBelow_of_isPlain {q n root path : String} (hroot : root = Path.join q n)
    (hn : Path.IsStep n) (hup : ".." ∉ Path.steps root) (hpath : Path.IsPlain path) :
    StaysBelow host root path := by
  intro t l ht hl
  obtain ⟨q', m, hends, -⟩ := hpath.ends_join (q := q) hn
  rw [← hroot] at hends
  have hout : ¬ host.cwd.along (Path.join root path) <+: l := fun hc => hl (by
    rw [Location.along_join hpath.startsAtRoot_eq] at hc
    exact (List.prefix_append _ _).trans hc)
  have hupt : ".." ∉ Path.steps (Path.join root path) := by
    rw [Path.steps_join hpath.startsAtRoot_eq, List.mem_append, not_or]
    exact ⟨hup, hpath.not_mem_steps⟩
  refine ⟨get?_of_removeTree ht hends hupt hout, fun u hu =>
    get?_of_removeFile ht hends (fun hc => hupt (by simp [hends.steps_eq, hc])) hu ?_⟩
  rintro rfl
  exact hout (List.prefix_refl _)

theorem removeExcluded_spares {root path : String} (ht : t.SymlinkFree)
    (hstays : StaysBelow host root path) (hl : ¬ host.cwd.along root <+: l) :
    ((Archive.removeExcluded root path).outcome host t).Spares l children writes t := by
  obtain ⟨htree, hfile⟩ := hstays t l ht hl
  have hremove (call : Call) (hsf : (call.perform host.cwd t).2.SymlinkFree)
      (hget : (call.perform host.cwd t).2.get? l = t.get? l) :
      (((change (.removingExcluded (Path.join root path)) call).outcome host t).andThen fun _ u =>
        .value true u).Spares l children writes t :=
    (change_spares children writes (.removingExcluded (Path.join root path)) hsf hget).andThen
      fun _ _ => Outcome.spares_value true
  rw [Archive.outcome_removeExcluded]
  split
  · exact hremove (.removeTree (Path.join root path)) ht.removeTree htree
  split
  · have hperform : (Call.perform host.cwd (.removeFile (Path.join root path)) t).2.SymlinkFree ∧
        (Call.perform host.cwd (.removeFile (Path.join root path)) t).2.get? l = t.get? l := by
      rw [Call.perform_removeFile]
      cases hr : t.removeFile host.cwd (Path.join root path) with
      | error fault => exact ⟨ht, rfl⟩
      | ok u => exact ⟨ht.removeFile hr, hfile u hr⟩
    exact hremove _ hperform.1 hperform.2
  · exact Outcome.spares_value false ht

theorem removeAllExcluded_spares {root : String} {paths : List String} (ht : t.SymlinkFree)
    (hstays : ∀ path ∈ paths, StaysBelow host root path) (hl : ¬ host.cwd.along root <+: l) :
    ((removeAllExcluded root paths).outcome host t).Spares l children writes t := by
  induction paths generalizing t with
  | nil => exact Outcome.spares_value () ht
  | cons path paths ih =>
    rw [outcome_removeAllExcluded_cons]
    exact (removeExcluded_spares children writes ht (hstays path List.mem_cons_self) hl).andThen
      fun _ _ hsf => ih hsf fun p hp => hstays p (List.mem_cons_of_mem path hp)

section Unpacking

variable (hw : ".." ∉ Path.steps workspace)
  (hs : ¬ host.cwd.along (staging workspace project) <+: l)

include hw hs

theorem resetStaging_spares (ht : t.SymlinkFree)
    (hin : l <+: host.cwd.along (staging workspace project) → t.get? l ≠ none) :
    ((Archive.resetStaging (staging workspace project)).outcome host t).Spares l children
      writes t := by
  rw [Archive.outcome_resetStaging]
  have hup := staging_up project hw
  have hcreate (v : FileTree) (hv : v.SymlinkFree) (hget : v.get? l = t.get? l) :
      ((change (.creatingStaging (staging workspace project))
        (.createDirs (staging workspace project))).outcome host v).Spares l children writes v := by
    have hadds := createDirs_adds_along host.cwd hv hup
    refine change_spares _ _ _ (hadds.symlinkFree hv) ?_
    exact (hadds l).resolve_right fun h => hin h.1 (hget ▸ h.2.1)
  split
  · refine (removeTree_spares children writes _ ht ends_staging hup hs).andThen
      fun _ _ hsf => hcreate _ hsf ?_
    rw [outcome_change]
    exact get?_of_removeTree ht ends_staging hup hs
  · exact hcreate t ht rfl

theorem moving_spares {n : String} (hn : IsName n) (ht : t.SymlinkFree)
    (hd : ¬ host.cwd.along (place workspace project) <+: l) :
    (moving host project workspace (Path.join (staging workspace project) n) t).Spares l
      children writes t := by
  have hup := staging_up project hw
  have hrename : ((change (.movingCheckout (Path.join (staging workspace project) n)
      (place workspace project)) (.rename (Path.join (staging workspace project) n)
        (place workspace project))).outcome host t).Spares l children writes t := by
    have hroot : ¬ host.cwd.along (Path.join (staging workspace project) n) <+: l := fun hc => hs (by
      rw [Location.along_join_step hn.isStep] at hc
      exact (List.prefix_append _ _).trans hc)
    have hperform : (Call.perform host.cwd (.rename (Path.join (staging workspace project) n)
          (place workspace project)) t).2.SymlinkFree ∧
        (Call.perform host.cwd (.rename (Path.join (staging workspace project) n)
          (place workspace project)) t).2.get? l = t.get? l := by
      rw [Call.perform_rename]
      cases hr : t.rename host.cwd (Path.join (staging workspace project) n)
        (place workspace project) with
      | error fault => exact ⟨ht, rfl⟩
      | ok u => exact ⟨ht.rename hr, get?_of_rename ht (Path.ends_join hn.isStep) hup ends_dest hw hr
          hroot hd⟩
    exact change_spares _ _ _ hperform.1 hperform.2
  exact hrename.andThen fun _ _ hsf => removeTree_spares _ _ _ hsf ends_staging hup hs

section Extraction

variable
  (he : host.Spares (Archive.extractJob config archive (staging workspace project)) l)
  (ht : t.SymlinkFree)
  (hin : l <+: host.cwd.along (staging workspace project) → t.get? l ≠ none)

include he ht hin

theorem extract_spares
    (hmem : Archive.extractJob config archive (staging workspace project) ∈ children) :
    ((Archive.extract config project archive (staging workspace project)).outcome host t).Spares
      l children writes t := by
  rw [Archive.outcome_extract]
  refine (resetStaging_spares _ _ hw hs ht hin).andThen fun _ _ hsf => ?_
  refine (Outcome.launched_spares _ he hmem hsf).andThen fun _ _ hsf => ?_
  exact .of_get?_eq hsf rfl nofun

/-- The root that is found is an entry of the staging directory. -/
theorem extract_root {root : String}
    (h : ((Archive.extract config project archive (staging workspace project)).outcome host t).result =
      .ok root) :
    ∃ n, IsName n ∧ root = Path.join (staging workspace project) n := by
  rw [Archive.outcome_extract] at h
  obtain ⟨_, u, _, _, hreset, hunpack, -⟩ := Outcome.andThen_eq_ok (Outcome.eq_of_result h)
  obtain ⟨_, v, _, _, hjob, hroot, -⟩ := Outcome.andThen_eq_ok hunpack
  have hu : u.SymlinkFree := by
    simpa [hreset] using (resetStaging_spares [] (fun _ => False) hw hs ht hin).symlinkFree
  obtain ⟨-, rfl, -⟩ := Outcome.mk.inj hjob
  obtain ⟨n, hn, hroot, -⟩ := rootIn_eq_ok hw (he u hu).1 (Outcome.mk.inj hroot).1
  exact ⟨n, hn, hroot⟩

variable
  (hmem : Archive.extractJob config archive (staging workspace project) ∈ children)
  (hx : ∀ n path, IsName n → path ∈ config.exclusionsFor project.subject →
    StaysBelow host (Path.join (staging workspace project) n) path)
  (hd : ¬ host.cwd.along (place workspace project) <+: l)

include hmem hx hd

/-- Unpacking, leaving out and moving. -/
theorem putInPlace_spares :
    ((putInPlace config project archive (staging workspace project)
      (place workspace project)).outcome host t).Spares l children writes t := by
  rw [outcome_putInPlace]
  refine (extract_spares children writes hw hs he ht hin hmem).andThen fun root hroot hsf => ?_
  obtain ⟨n, hn, rfl⟩ := extract_root hw hs he ht hin hroot
  have hout : ¬ host.cwd.along (Path.join (staging workspace project) n) <+: l := fun hc => hs (by
    rw [Location.along_join_step hn.isStep] at hc
    exact (List.prefix_append _ _).trans hc)
  exact (removeAllExcluded_spares _ _ hsf (fun path => hx n path hn) hout).andThen
    fun _ _ hsf => moving_spares _ _ hw hs hn hsf hd

/-- What comes before the archive's deletion spares what lies elsewhere. -/
theorem unpackInto_cases (policy : ArchivePolicy) :
    ∃ r u before, (⟨.ok (), u, before⟩ : Outcome Unit).Spares l children writes t ∧
      (unpackInto config project policy archive (staging workspace project)
        (place workspace project)).outcome host t =
          ⟨r, (deletion policy host u archive).files,
            before ++ (deletion policy host u archive).history⟩ := by
  have hplace := putInPlace_spares children writes hw hs he ht hin hmem hx hd
  rw [outcome_unpackInto]
  generalize (putInPlace config project archive (staging workspace project)
    (place workspace project)).outcome host t = o at hplace
  obtain ⟨r, u, history⟩ := o
  cases r with
  | ok => exact ⟨_, u, history, hplace, rfl⟩
  | error f =>
    obtain ⟨husf, hfile, hget, hstarts⟩ := hplace
    refine ⟨.error f, (Call.perform host.cwd (.removeTree (staging workspace project)) u).2,
      history ++ [.changed (.removeTree (staging workspace project))
        (Call.perform host.cwd (.removeTree (staging workspace project)) u).1
        (Call.perform host.cwd (.removeTree (staging workspace project)) u).2], ?_, by simp⟩
    have hkeep : (Call.perform host.cwd (.removeTree (staging workspace project)) u).2.get? l =
        u.get? l :=
      get?_of_removeTree husf ends_staging (staging_up project hw) hs
    refine ⟨husf.removeTree, ?_, hget.imp hkeep.trans ?_, fun job hj => hstarts job ?_⟩
    · rw [← hfile, IsFileAt, IsFileAt, hkeep]
    · rintro ⟨e, hmem, hw⟩
      exact ⟨e, List.mem_append_left _ hmem, hw⟩
    · simpa [Outcome.jobs, Event.job?] using hj

/-- Unpacking spares what lies elsewhere and is not an archive to delete. -/
theorem unpackInto_spares {q n : String} (hends : Path.Ends archive q n) (hup : ".." ∉ Path.steps q)
    (hkeep : policy = .transient → l ≠ host.cwd.along archive) :
    ((unpackInto config project policy archive (staging workspace project)
      (place workspace project)).outcome host t).Spares l children writes t := by
  obtain ⟨r, u, before, hbefore, ho⟩ :=
    unpackInto_cases children writes hw hs he ht hin hmem hx hd policy
  have hu : u.SymlinkFree := hbefore.symlinkFree
  have hdelete : (deletion policy host u archive).Spares l children writes u := by
    cases policy with
    | cached => exact Outcome.spares_value () hu
    | transient =>
      have hperform : (Call.perform host.cwd (.removeFile archive) u).2.SymlinkFree ∧
          (Call.perform host.cwd (.removeFile archive) u).2.get? l = u.get? l := by
        rw [Call.perform_removeFile]
        cases hr : u.removeFile host.cwd archive with
        | error fault => exact ⟨hu, rfl⟩
        | ok v => exact ⟨hu.removeFile hr, get?_of_removeFile hu hends hup hr (hkeep rfl)⟩
      exact change_spares _ _ _ hperform.1 hperform.2
  have hboth : (Outcome.andThen ⟨.ok (), u, before⟩ fun _ v =>
      deletion policy host v archive).Spares l children writes t := hbefore.andThen fun _ _ _ => hdelete
  rw [ho]
  exact ⟨hboth.symlinkFree, hboth.isFileAt_iff, hboth.get?_eq_or, hboth.starts⟩

/-- A transient archive is no file any more. -/
theorem unpackInto_deletes {q n : String} (hends : Path.Ends archive q n)
    (hup : ".." ∉ Path.steps archive) (hl : l = host.cwd.along archive)
    (hpolicy : policy = .transient) (hfile : t.isFile host.cwd archive) :
    let o := (unpackInto config project policy archive (staging workspace project)
      (place workspace project)).outcome host t
    o.files.SymlinkFree ∧ ¬ o.files.IsFileAt l ∧ ∀ job ∈ o.jobs, job ∈ children := by
  subst hpolicy
  obtain ⟨r, u, before, ⟨hsf, hiff, -, hstarts⟩, ho⟩ :=
    unpackInto_cases children (fun _ => False) hw hs he ht hin hmem hx hd .transient
  obtain ⟨husable, hidle, hthere⟩ := (isFile_iff ht hup).mp hfile
  have hu : u.isFile host.cwd archive :=
    (isFile_iff hsf hup).mpr ⟨husable, hidle, hl ▸ hiff.mpr (hl ▸ hthere)⟩
  have hne : host.cwd.along archive ≠ [] := by simp [Location.along_ends hends]
  rw [ho, deletion, outcome_change, Call.perform_removeFile,
    removeFile_of_isFile hsf hends hup hu]
  refine ⟨hsf.prune hne, ?_, fun job hj => hstarts job ?_⟩
  · rintro ⟨b, x, k, hb⟩
    rw [hl, get?_prune hne, if_pos (List.prefix_refl _)] at hb
    cases hb
  · simpa [Outcome.jobs, Event.job?] using hj

end Extraction

end Unpacking

/-! ## Building -/

section Building

variable {build : BuildConfig} {dest : String} (more attempt : Nat)
  (hwrites : ∀ e : Event, e.Patches (Build.manifest build dest) host.cwd l → writes e)
  (ht : t.SymlinkFree)

include hwrites ht

/-- A patch pass writes to a file that is there. -/
theorem patchPass_spares :
    ((Build.patchPass build project dest attempt).outcome host t).Spares l children writes t := by
  rw [Build.outcome_patchPass]
  cases hread : t.readText host.cwd (Build.manifest build dest) with
  | error fault => exact Outcome.spares_failure _ ht
  | ok content =>
    obtain ⟨hsf, hfile, hget⟩ := Call.perform_write_of_readText
      (Manifest.applyRules content build.patches).1 ht hread
    simp only
    rw [outcome_change]
    refine ⟨hsf, hfile l, (hget l).imp_right fun h =>
      ⟨_, List.mem_cons_self, hwrites _ ?_⟩, by simp [Outcome.jobs, Event.job?]⟩
    rw [Build.patching, h.1]
    exact ⟨rfl, h.2⟩

variable (hjob : host.Spares (Build.buildJob build dest) l)
  (hmem : Build.buildJob build dest ∈ children)

include hjob hmem

theorem buildFrom_spares :
    ((Build.buildFrom build project dest more attempt).outcome host t).Spares l children writes
      t := by
  have hrun (t : FileTree) (ht : t.SymlinkFree) :
      ((build.command.tryRun "build" [] dest).outcome host t).Spares l children writes t := by
    rw [ToolCommand.outcome_tryRun]
    exact Outcome.launched_spares _ hjob hmem ht
  induction more generalizing attempt t with
  | zero =>
    rw [Build.buildFrom, outcome_bind]
    refine (hrun t ht).andThen fun succeeded _ hsf => ?_
    cases succeeded
    · exact Outcome.spares_failure _ hsf
    · exact Outcome.spares_value attempt hsf
  | succ more ih =>
    rw [Build.buildFrom, outcome_bind]
    refine (hrun t ht).andThen fun succeeded _ hsf => ?_
    cases succeeded
    · rw [if_neg (by simp), outcome_bind]
      exact (patchPass_spares children writes attempt hwrites hsf).andThen
        fun _ _ hsf => ih (attempt + 1) hsf
    · exact Outcome.spares_value attempt hsf

end Building

theorem buildInto_spares {dest : String} (ht : t.SymlinkFree)
    (hwrites : ∀ e : Event, e.Patches (Build.manifest config.build dest) host.cwd l → writes e)
    (hjob : host.Spares (Build.buildJob config.build dest) l)
    (hmem : Build.buildJob config.build dest ∈ children) :
    ((buildInto config project dest).outcome host t).Spares l children writes t := by
  rw [outcome_buildInto]
  refine Outcome.Spares.andThen ?_ fun _ _ hsf => Outcome.spares_value () hsf
  rcases Build.outcome_build_cases config project dest host t with ⟨-, ho⟩ | ⟨more, -, ho⟩
  · rw [ho]
    exact Outcome.spares_failure _ ht
  · rw [ho]
    exact buildFrom_spares children writes _ _ hwrites ht hjob hmem

end Checkout

end BenchCheckout
