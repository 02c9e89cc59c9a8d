import BenchCheckout.Proofs.Checkout.Footprint
import BenchCheckout.Proofs.Instrument

/-!
# The children that are started

`o.Starts allowed` says that every job of an outcome is `allowed`. A stage starts no other jobs than
its own, whatever the files are and whatever became of the stages before it.

* `Checkout.checkout_starts`: a checkout starts the downloader, the extractor and the build.
* `instrument_starts`: instrumenting starts the instrumenter, with absolute paths.
-/

namespace BenchCheckout

open BenchCheckout.Action

/-! ## The jobs of an outcome -/

namespace Outcome

variable {α β : Type} {allowed : Job → Prop}

/-- Every program that is started, or tried to be started, is `allowed`. -/
def Starts (allowed : Job → Prop) (o : Outcome α) : Prop := ∀ job ∈ o.jobs, allowed job

theorem starts_value (a : α) (t : FileTree) : (value a t).Starts allowed := nofun

theorem starts_failure (f : Failure) (t : FileTree) :
    (failure f t : Outcome α).Starts allowed := nofun

theorem starts_launched {job : Job} (h : allowed job) (r : Except Failure α)
    (ended : Except Fault ExitStatus) (t u : FileTree) :
    (⟨r, t, [.launched job ended u]⟩ : Outcome α).Starts allowed := by
  intro j hj
  rw [List.mem_singleton.mp hj]
  exact h

theorem Starts.andThen {o : Outcome α} {next : α → FileTree → Outcome β} (h : o.Starts allowed)
    (hnext : ∀ a, o.result = .ok a → (next a o.files).Starts allowed) :
    (o.andThen next).Starts allowed := by
  obtain ⟨r, t, history⟩ := o
  cases r with
  | error f => exact h
  | ok a =>
    intro job hj
    rw [ok_andThen, jobs, List.filterMap_append, List.mem_append] at hj
    exact hj.elim (h job) (hnext a rfl job)

/-- Behind an outcome, nothing more is started by what starts nothing. -/
theorem jobs_andThen {o : Outcome α} {next : α → FileTree → Outcome β}
    (h : ∀ a t, (next a t).Starts fun _ => False) : (o.andThen next).jobs = o.jobs := by
  obtain ⟨r, t, history⟩ := o
  cases r with
  | error f => rfl
  | ok a =>
    have hnone : (next a t).history.filterMap (·.job?) = [] :=
      List.eq_nil_iff_forall_not_mem.mpr (h a t)
    rw [ok_andThen, jobs, List.filterMap_append, hnone, List.append_nil, jobs]

theorem starts_change (activity : Activity) (call : Call) (host : Host) (t : FileTree) :
    ((change activity call).outcome host t).Starts allowed := by
  rw [outcome_change]
  exact nofun

end Outcome

open Outcome (Starts)

variable {config : Config} {project : ProjectId} {workspace : String} {host : Host}
  {allowed : Job → Prop}

/-! ## Builds -/

namespace Build

variable {build : BuildConfig} {dest : String}

/-- A build starts nothing but its command. -/
theorem Ends.job_eq {tries first : Nat} {t : FileTree} {o : Outcome Nat}
    (h : Ends build project dest host tries first t o) :
    ∀ job ∈ o.jobs, job = buildJob build dest := by
  have hrounds {n : Nat} {u : FileTree} {history : List Event}
      (hr : Rounds build dest host n t history u) :
      ∀ job ∈ history.filterMap (·.job?), job = buildJob build dest := by
    rw [hr.jobs_eq]
    exact fun job hj => List.eq_of_mem_replicate hj
  cases h with
  | success rounds | gaveUp rounds | notStarted rounds | unreadable rounds | unwritable rounds =>
    intro job hj
    rw [Outcome.jobs, List.filterMap_append, List.mem_append] at hj
    exact hj.elim (hrounds rounds job) List.mem_singleton.mp

end Build

/-! ## Fetching and unpacking -/

namespace Archive

theorem fetch_starts (policy : ArchivePolicy) (hcwd : ∀ n ∈ host.cwd, IsName n)
    (h : allowed (downloadJob config project host.cwd)) (t : FileTree) :
    ((fetch config project policy).outcome host t).Starts allowed := by
  have hf := fetched config project policy host hcwd t
  generalize (fetch config project policy).outcome host t = o at hf ⊢
  cases hf with
  | pathless | reused | homeless => exact nofun
  | failed | ended =>
    intro job hj
    rw [List.mem_singleton.mp hj]
    exact h

theorem extract_starts {archive staging : String}
    (h : allowed (extractJob config archive staging)) (t : FileTree) :
    ((extract config project archive staging).outcome host t).Starts allowed := by
  rw [outcome_extract, outcome_resetStaging]
  refine .andThen ?_ fun _ _ => .andThen (Outcome.starts_launched h _ _ _ _) fun _ _ => nofun
  split
  · exact .andThen (Outcome.starts_change _ _ _ _) fun _ _ => Outcome.starts_change _ _ _ _
  · exact Outcome.starts_change _ _ _ _

theorem removeExcluded_starts (root path : String) (t : FileTree) :
    ((removeExcluded root path).outcome host t).Starts allowed := by
  rw [outcome_removeExcluded]
  split
  · exact .andThen (Outcome.starts_change _ _ _ _) fun _ _ => Outcome.starts_value _ _
  split
  · exact .andThen (Outcome.starts_change _ _ _ _) fun _ _ => Outcome.starts_value _ _
  · exact Outcome.starts_value _ _

end Archive

namespace Checkout

theorem removeStale_starts (dest : String) (t : FileTree) :
    ((removeStale dest).outcome host t).Starts allowed := by
  rw [outcome_removeStale]
  split
  · exact Outcome.starts_change _ _ _ _
  · exact Outcome.starts_value _ _

theorem removeAllExcluded_starts (root : String) (paths : List String) (t : FileTree) :
    ((removeAllExcluded root paths).outcome host t).Starts allowed := by
  induction paths generalizing t with
  | nil => exact Outcome.starts_value _ _
  | cons path paths ih =>
    rw [outcome_removeAllExcluded_cons]
    exact .andThen (Archive.removeExcluded_starts root path t) fun _ _ => ih _

theorem putInPlace_starts {archive staging : String}
    (h : allowed (Archive.extractJob config archive staging)) (dest : String) (t : FileTree) :
    ((putInPlace config project archive staging dest).outcome host t).Starts allowed := by
  rw [outcome_putInPlace]
  exact .andThen (Archive.extract_starts h t) fun _ _ =>
    .andThen (removeAllExcluded_starts _ _ _) fun _ _ =>
      .andThen (Outcome.starts_change _ _ _ _) fun _ _ => Outcome.starts_change _ _ _ _

theorem deletion_starts (policy : ArchivePolicy) (archive : String) (t : FileTree) :
    (deletion policy host t archive).Starts allowed := by
  cases policy with
  | cached => exact Outcome.starts_value _ _
  | transient => exact Outcome.starts_change _ _ _ _

theorem unpackInto_starts (policy : ArchivePolicy) {archive staging : String}
    (h : allowed (Archive.extractJob config archive staging)) (dest : String) (t : FileTree) :
    ((unpackInto config project policy archive staging dest).outcome host t).Starts allowed := by
  have hplaced : ((putInPlace config project archive staging dest).outcome host t).Starts allowed :=
    putInPlace_starts h dest t
  rw [outcome_unpackInto]
  generalize (putInPlace config project archive staging dest).outcome host t = o at hplaced
  obtain ⟨r | _, u, history⟩ := o
  all_goals
    intro job hj
    rw [Outcome.jobs, List.filterMap_append, List.mem_append] at hj
    exact hj.elim (hplaced job) (deletion_starts policy archive _ job)

theorem buildInto_starts {dest : String} (h : allowed (Build.buildJob config.build dest))
    (t : FileTree) : ((buildInto config project dest).outcome host t).Starts allowed := by
  rw [outcome_buildInto]
  refine .andThen (fun job hj => ?_) fun _ _ => Outcome.starts_value _ _
  rcases Build.outcome_build_cases config project dest host t with ⟨-, ho⟩ | ⟨more, -, ho⟩
  · rw [ho] at hj
    cases hj
  · rw [ho] at hj
    rw [(Build.ends config.build project dest host more 1 t).job_eq job hj]
    exact h

/-- The jobs of a checkout: one that downloads its archive, one that unpacks it, and one that builds
what was unpacked. -/
inductive IsChild (host : Host) (config : Config) (project : ProjectId) (workspace : String) :
    Job → Prop where
  | download : IsChild host config project workspace (Archive.downloadJob config project host.cwd)
  | unpack : IsChild host config project workspace (unpackJob host config project workspace)
  | build : IsChild host config project workspace
      (Build.buildJob config.build (place workspace project))

theorem checkout_starts {raw : String} (hproject : ProjectId.parse? raw = some project)
    (hcwd : ∀ n ∈ host.cwd, IsName n) (options : Options) (t : FileTree) :
    ((checkout config raw workspace options).outcome host t).Starts
      (IsChild host config project workspace) := by
  rw [outcome_checkout, hproject]
  simp only
  split
  · rw [outcome_run]
    refine .andThen (removeStale_starts _ _) fun _ _ =>
      .andThen (Archive.fetch_starts options.archive hcwd .download _) fun archive ha => ?_
    -- Only now is it known which archive is unpacked.
    rw [fetch_eq_ok options.archive hcwd ha]
    refine .andThen (unpackInto_starts options.archive .unpack _ _) fun _ _ => ?_
    split
    · exact .andThen (buildInto_starts .build _) fun _ _ => Outcome.starts_value _ _
    · exact Outcome.starts_value _ _
  · exact Outcome.starts_failure _ _

end Checkout

/-! ## Instrumenting -/

namespace Instrument

theorem copySupportClass_starts (instrumenter : InstrumenterConfig) (ownClasses classes : String)
    (t : FileTree) :
    ((copySupportClass instrumenter project ownClasses classes).outcome host t).Starts
      allowed := by
  rw [outcome_copySupportClass, outcome_copyInto]
  refine .andThen ?_ fun _ _ => nofun
  cases Path.parent? (Path.join classes instrumenter.supportClass) with
  | none => exact nofun
  | some dir =>
    simp only
    cases (Call.perform host.cwd (.createDirs dir) t).1 <;> exact nofun

/-- The jobs of instrumenting: the classes are there, and all paths are absolute. -/
inductive IsChild (host : Host) (t : FileTree) (config : InstrumenterConfig) (project : ProjectId)
    (workspace : String) : Job → Prop where
  | mk {jar ownClasses : String} (there : t.isDirectory host.cwd (targetClasses workspace project))
    (jar_eq : t.absolute host.cwd config.jar = .ok jar)
    (own_eq : t.absolute host.cwd config.classesDir = .ok ownClasses) :
    IsChild host t config project workspace
      (instrumentJob config workspace jar ownClasses (classesPlace host.cwd workspace project))

end Instrument

theorem instrument_starts {raw : String} (hproject : ProjectId.parse? raw = some project)
    (config : Config) (workspace : String) (host : Host) (t : FileTree) :
    ((instrument config raw workspace).outcome host t).Starts
      (Instrument.IsChild host t config.instrumenter project workspace) := by
  have ho := instrumented hproject config workspace host t
  generalize (instrument config raw workspace).outcome host t = o at ho ⊢
  cases ho with
  | unstarted f => exact Outcome.starts_failure _ _
  | started there jar_eq own_eq =>
    refine .andThen (Outcome.starts_launched (.mk there jar_eq own_eq) _ _ _ _)
      fun succeeded _ => ?_
    split
    · exact Instrument.copySupportClass_starts _ _ _ _
    · exact Outcome.starts_failure _ _

/-- Where the classes are there and all paths can be made absolute, the instrumenter is started, and
nothing else. -/
theorem jobs_instrument {raw jar ownClasses : String}
    (hproject : ProjectId.parse? raw = some project) {t : FileTree}
    (hthere : t.isDirectory host.cwd (Instrument.targetClasses workspace project))
    (hjar : t.absolute host.cwd config.instrumenter.jar = .ok jar)
    (hown : t.absolute host.cwd config.instrumenter.classesDir = .ok ownClasses) :
    ((instrument config raw workspace).outcome host t).jobs =
      [Instrument.instrumentJob config.instrumenter workspace jar ownClasses
        (Instrument.classesPlace host.cwd workspace project)] := by
  rw [outcome_instrument, hproject]
  simp only
  rw [if_pos hthere, Instrument.outcome_run hjar hown (Instrument.absolute_of_there hthere),
    ToolCommand.outcome_tryRun, Outcome.jobs_andThen]
  · rfl
  · intro succeeded u
    split
    · exact Instrument.copySupportClass_starts _ _ _ _
    · exact Outcome.starts_failure _ _

end BenchCheckout
