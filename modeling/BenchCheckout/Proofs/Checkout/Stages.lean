import BenchCheckout.Checkout
import BenchCheckout.Proofs.Archive.Fetching

/-!
# What the stages of a checkout come to

* `outcome_unpackedRoot`: the choice of the project's root changes nothing.
* `outcome_putInPlace`: unpacking, leaving out and moving, one after the other.
* `outcome_unpackInto`: how a failure in between is cleaned up after.
* `outcome_checkout`: all stages.
-/

namespace BenchCheckout

open BenchCheckout.Action

/-! ## Unpacking -/

namespace Archive

variable (config : Config) (project : ProjectId) (archive staging root : String) (host : Host)
  (t : FileTree)

/-- The job that unpacks an archive. -/
def extractJob : Job := config.extractor.job [("archive", archive)] staging

/-- The project's root in a staging directory, as `unpackedRoot` finds it. -/
def rootIn (cwd : Location) : Except Failure String :=
  if t.isDirectory cwd (Path.join staging project.bugId) then
    .ok (Path.join staging project.bugId)
  else
    match t.list cwd staging with
    | .error fault => .error (.during (.readingStaging staging) (.file fault))
    | .ok [name] =>
      if t.isDirectory cwd (Path.join staging name) then .ok (Path.join staging name)
      else .error (.ofCause (.archiveLayout archive))
    | .ok _ => .error (.ofCause (.archiveLayout archive))

instance : Memoryless (resetStaging staging) :=
  inferInstanceAs (Memoryless (_ >>= _))

instance : Memoryless (unpackedRoot project archive staging) := by
  refine .bind inferInstance fun found => ?_
  cases found
  · exact .bind inferInstance fun _ => .bind inferInstance fun r => by split <;> infer_instance
  · exact inferInstanceAs (Memoryless (pure _))

instance : Memoryless (extract config project archive staging) :=
  inferInstanceAs (Memoryless (_ >>= _))

instance (relative : String) : Memoryless (removeExcluded root relative) :=
  inferInstanceAs (Memoryless (_ >>= _))

theorem outcome_resetStaging :
    (resetStaging staging).outcome host t =
      if t.exists? host.cwd staging then
        ((change (.clearingStaging staging) (.removeTree staging)).outcome host t).andThen fun _ u =>
          (change (.creatingStaging staging) (.createDirs staging)).outcome host u
      else (change (.creatingStaging staging) (.createDirs staging)).outcome host t := by
  unfold resetStaging
  rw [outcome_bind, outcome_exists?, Outcome.value_andThen]
  split
  · rw [outcome_bind]
  · rfl

theorem outcome_unpackedRoot :
    (unpackedRoot project archive staging).outcome host t =
      ⟨rootIn project archive staging t host.cwd, t, []⟩ := by
  unfold unpackedRoot rootIn
  simp only
  rw [outcome_bind_of, outcome_isDirectory, Outcome.value_andThen]
  · cases t.isDirectory host.cwd (Path.join staging project.bugId) with
    | true => rfl
    | false =>
      rw [if_neg (by simp), if_neg (by simp)]
      rw [outcome_bind_of, outcome_look, Outcome.value_andThen, outcome_bind_of, outcome_orFail]
      · cases t.list host.cwd staging with
        | error fault => rfl
        | ok names =>
          show Outcome.andThen ⟨.ok names, t, []⟩ _ = _
          rw [Outcome.ok_andThen]
          match names with
          | [] => rfl
          | [name] =>
            simp only
            rw [outcome_bind, outcome_isDirectory, Outcome.value_andThen]
            cases t.isDirectory host.cwd (Path.join staging name) <;> rfl
          | _ :: _ :: _ => rfl
      · exact fun r => by split <;> infer_instance
      · exact fun _ => .bind inferInstance fun r => by split <;> infer_instance
  · intro found
    cases found
    · exact .bind inferInstance fun _ => .bind inferInstance fun r => by split <;> infer_instance
    · exact inferInstanceAs (Memoryless (pure _))

theorem outcome_extract :
    (extract config project archive staging).outcome host t =
      ((resetStaging staging).outcome host t).andThen fun _ u =>
        Outcome.andThen
          ⟨config.extractor.verdict "extract"
              (host.launch (extractJob config archive staging) u).outcome,
            (host.launch (extractJob config archive staging) u).files,
            [.launched (extractJob config archive staging)
              (host.launch (extractJob config archive staging) u).outcome
              (host.launch (extractJob config archive staging) u).files]⟩
          fun _ v => ⟨rootIn project archive staging v host.cwd, v, []⟩ := by
  unfold extract
  rw [outcome_bind]
  congr 1
  funext _ u
  rw [outcome_bind, ToolCommand.outcome_run]
  simp only [outcome_unpackedRoot]
  rfl

/-- An excluded path that is there is removed, and then a success tells so. -/
theorem outcome_removeExcluded (relative : String) :
    (removeExcluded root relative).outcome host t =
      if t.isDirectory host.cwd (Path.join root relative) then
        ((change (.removingExcluded (Path.join root relative))
          (.removeTree (Path.join root relative))).outcome host t).andThen fun _ u => .value true u
      else if t.exists? host.cwd (Path.join root relative) then
        ((change (.removingExcluded (Path.join root relative))
          (.removeFile (Path.join root relative))).outcome host t).andThen fun _ u => .value true u
      else .value false t := by
  unfold removeExcluded
  simp only
  rw [outcome_bind, outcome_isDirectory, Outcome.value_andThen]
  split
  · rw [outcome_bind]
    rfl
  rw [outcome_bind, outcome_exists?, Outcome.value_andThen]
  split
  · rw [outcome_bind]
    rfl
  · rfl

end Archive

/-! ## Building -/

namespace Build

variable (config : BuildConfig) (project : ProjectId) (dest : String)

instance (path : String) (rules : List PatchRule) : Memoryless (Manifest.patchFile path rules) :=
  inferInstanceAs (Memoryless (_ >>= _))

instance (attempt : Nat) : Memoryless (patchPass config project dest attempt) :=
  inferInstanceAs (Memoryless (_ >>= _))

theorem memoryless_buildFrom (more attempt : Nat) :
    Memoryless (buildFrom config project dest more attempt) := by
  induction more generalizing attempt with
  | zero => exact inferInstanceAs (Memoryless (_ >>= _))
  | succ more ih => exact inferInstanceAs (Memoryless (_ >>= _))

instance (more attempt : Nat) : Memoryless (buildFrom config project dest more attempt) :=
  memoryless_buildFrom config project dest more attempt

instance (config : Config) : Memoryless (build config project dest) := by
  unfold build
  split <;> infer_instance

end Build

/-! ## Checking out -/

namespace Checkout

variable (config : Config) (project : ProjectId) (policy : ArchivePolicy)

instance (label text : String) : Memoryless (printLabelled label text) :=
  inferInstanceAs (Memoryless (_ >>= _))

instance (text : String) : Memoryless (printStage text) :=
  inferInstanceAs (Memoryless (_ >>= _))

instance (dest : String) : Memoryless (removeStale dest) :=
  inferInstanceAs (Memoryless (_ >>= _))

theorem memoryless_removeAllExcluded (root : String) (paths : List String) :
    Memoryless (removeAllExcluded root paths) := by
  induction paths with
  | nil => exact inferInstanceAs (Memoryless (pure ()))
  | cons path paths ih => exact inferInstanceAs (Memoryless (_ >>= _))

instance (root : String) (paths : List String) : Memoryless (removeAllExcluded root paths) :=
  memoryless_removeAllExcluded root paths

instance (archive staging dest : String) :
    Memoryless (putInPlace config project archive staging dest) :=
  inferInstanceAs (Memoryless (_ >>= _))

instance (archive staging dest : String) :
    Memoryless (unpackInto config project policy archive staging dest) := by
  refine .bind inferInstance fun placed => ?_
  cases placed <;> cases policy <;> infer_instance

variable (host : Host) (t : FileTree) (archive staging dest root : String)

@[simp]
theorem outcome_printLabelled (label text : String) :
    (printLabelled label text).outcome host t = .value () t := by
  unfold printLabelled
  rw [outcome_bind, outcome_painted, Outcome.value_andThen, outcome_printLine]

@[simp]
theorem outcome_printStage (text : String) :
    (printStage text).outcome host t = .value () t := by
  unfold printStage
  rw [outcome_bind, outcome_painted, Outcome.value_andThen, outcome_printLine]

theorem outcome_removeStale :
    (removeStale dest).outcome host t =
      if t.exists? host.cwd dest then
        (change (.removingStale dest) (.removeTree dest)).outcome host t
      else .value () t := by
  unfold removeStale
  rw [outcome_bind, outcome_exists?, Outcome.value_andThen]
  split
  · rw [outcome_bind]
    simp only [outcome_printLabelled]
    exact Outcome.andThen_value _
  · rfl

theorem outcome_removeAllExcluded_cons (path : String) (paths : List String) :
    (removeAllExcluded root (path :: paths)).outcome host t =
      ((Archive.removeExcluded root path).outcome host t).andThen fun _ u =>
        (removeAllExcluded root paths).outcome host u := by
  rw [removeAllExcluded, outcome_bind]
  congr 1
  funext removed u
  cases removed with
  | true =>
    rw [if_pos rfl, outcome_bind, outcome_printLabelled, Outcome.value_andThen]
  | false => rfl

theorem outcome_putInPlace :
    (putInPlace config project archive staging dest).outcome host t =
      ((Archive.extract config project archive staging).outcome host t).andThen fun root u =>
        ((removeAllExcluded root (config.exclusionsFor project.subject)).outcome host u).andThen
          fun _ v => ((change (.movingCheckout root dest) (.rename root dest)).outcome host v).andThen
            fun _ w => (change (.removingStaging staging) (.removeTree staging)).outcome host w := by
  unfold putInPlace
  rw [outcome_bind, outcome_printStage, Outcome.value_andThen, outcome_bind]
  congr 1
  funext root u
  rw [outcome_bind]
  congr 1
  funext _ v
  rw [outcome_bind]
  congr 1
  funext _ w
  rw [outcome_bind]
  simp only [outcome_printLabelled]
  exact Outcome.andThen_value _

/-- What becomes of the archive behind a checkout. -/
def deletion : Outcome Unit :=
  match policy with
  | .transient => (change (.deletingArchive archive) (.removeFile archive)).outcome host t
  | .cached => .value () t

/-- The archive's deletion, and then the failure that counts first. -/
theorem outcome_deletion (placed : Except Failure Unit) :
    (match policy with
      | .transient => do
        let deleted ← attempt (change (.deletingArchive archive) (.removeFile archive))
        Action.ofExcept placed
        Action.ofExcept deleted
      | .cached => do
        let deleted ← pure (Except.ok ())
        Action.ofExcept placed
        Action.ofExcept deleted : Action Unit).outcome host t =
      match placed with
      | .ok () => deletion policy host t archive
      | .error f => ⟨.error f, (deletion policy host t archive).files,
        (deletion policy host t archive).history⟩ := by
  cases policy with
  | cached =>
    simp only
    rw [outcome_bind, outcome_pure, Outcome.value_andThen, outcome_bind]
    cases placed <;> rfl
  | transient =>
    simp only
    rw [outcome_bind, outcome_attempt, Outcome.ok_andThen, outcome_bind]
    simp only [outcome_ofExcept, deletion]
    generalize (change (.deletingArchive archive) (.removeFile archive)).outcome host t = o
    cases placed with
    | error f => simp [Outcome.andThen]
    | ok => simp [Outcome.andThen]

theorem outcome_unpackInto :
    (unpackInto config project policy archive staging dest).outcome host t =
      match (putInPlace config project archive staging dest).outcome host t with
      | ⟨.ok (), u, history⟩ =>
        ⟨(deletion policy host u archive).result, (deletion policy host u archive).files,
          history ++ (deletion policy host u archive).history⟩
      | ⟨.error f, u, history⟩ =>
        let removed := Call.perform host.cwd (.removeTree staging) u
        ⟨.error f, (deletion policy host removed.2 archive).files,
          history ++ .changed (.removeTree staging) removed.1 removed.2 ::
            (deletion policy host removed.2 archive).history⟩ := by
  unfold unpackInto
  rw [outcome_bind_of, outcome_attempt]
  · generalize (putInPlace config project archive staging dest).outcome host t = placed
    obtain ⟨r, u, history⟩ := placed
    rw [Outcome.ok_andThen]
    cases r with
    | ok placed =>
      have h := outcome_deletion policy host u archive (.ok placed)
      cases policy <;> simp only at h ⊢ <;> simp only [h]
    | error f =>
      have h := fun u => outcome_deletion policy host u archive (.error f)
      simp only at h ⊢
      rw [outcome_bind_of, outcome_attemptCall, Outcome.ok_andThen]
      · cases policy <;> simp only at h ⊢ <;> simp only [h, List.singleton_append]
      · intro _
        cases policy <;> infer_instance
  · intro placed
    cases placed <;> cases policy <;> infer_instance

instance : Memoryless (buildInto config project dest) :=
  inferInstanceAs (Memoryless (_ >>= _))

instance (workspace : String) (options : Options) :
    Memoryless (run config project workspace options) :=
  inferInstanceAs (Memoryless (_ >>= _))

theorem outcome_buildInto :
    (buildInto config project dest).outcome host t =
      ((build config project dest).outcome host t).andThen fun _ u => .value () u := by
  unfold buildInto
  rw [outcome_bind, outcome_printStage, Outcome.value_andThen, outcome_bind]
  rfl

theorem outcome_run (workspace : String) (options : Options) :
    (run config project workspace options).outcome host t =
      ((removeStale (place workspace project)).outcome host t).andThen fun _ u =>
        ((Archive.fetch config project options.archive).outcome host u).andThen fun archive v =>
          ((unpackInto config project options.archive archive (Checkout.staging workspace project)
            (place workspace project)).outcome host v).andThen fun _ w =>
              if options.build then
                ((buildInto config project (place workspace project)).outcome host w).andThen
                  fun _ x => .value (place workspace project) x
              else .value (place workspace project) w := by
  unfold run
  rw [outcome_bind, outcome_printLabelled, Outcome.value_andThen, outcome_bind]
  refine congrArg (Outcome.andThen _) ?_
  funext _ u
  rw [outcome_bind, outcome_printStage, Outcome.value_andThen, outcome_bind]
  refine congrArg (Outcome.andThen _) ?_
  funext archive v
  rw [outcome_bind]
  congr 1
  funext _ w
  split
  · rw [outcome_bind]
    rfl
  · rfl

end Checkout

instance (raw : String) : Memoryless (readProject raw) := by
  unfold readProject
  split <;> infer_instance

/-- A checkout: the id is read and the workspace looked at before anything is touched. -/
theorem outcome_checkout (config : Config) (raw workspace : String) (options : Checkout.Options)
    (host : Host) (t : FileTree) :
    (checkout config raw workspace options).outcome host t =
      match ProjectId.parse? raw with
      | none => .failure (.ofCause (.invalidProject raw)) t
      | some project =>
        if t.isDirectory host.cwd workspace then
          (Checkout.run config project workspace options).outcome host t
        else .failure (.ofCause (.noWorkspace workspace)) t := by
  unfold checkout readProject
  rw [outcome_bind]
  cases ProjectId.parse? raw with
  | none => rfl
  | some project =>
    simp only
    rw [outcome_pure, Outcome.value_andThen, outcome_bind, outcome_isDirectory,
      Outcome.value_andThen]
    split <;> rfl

end BenchCheckout
