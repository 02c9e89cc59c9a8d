import BenchCheckout.Instrument
import BenchCheckout.Proofs.Absolute
import BenchCheckout.Proofs.Build

/-!
# What instrumenting comes to

* `Instrument.outcome_copyInto`: a copy is the creation of the directories above it and one change.
* `Instrument.outcome_run`: with paths that can be made absolute, instrumenting is one job and the
  copy of the support class.
* `Instrument.outcome_run_of_unresolvable`: a path that cannot be is a failure before that.
* `instrumented`: the two ways that instrumenting can go.
-/

namespace BenchCheckout

open BenchCheckout.Action

namespace Instrument

variable (config : InstrumenterConfig) (project : ProjectId) (workspace : String) (host : Host)
  (t : FileTree)

/-! ## Copying the support class -/

/-- The copy of a file where its directory is there. -/
def copied (source dest : String) : Outcome (Except Fault Unit) :=
  let done := Call.perform host.cwd (.copy source dest) t
  ⟨.ok done.1, done.2, [.changed (.copy source dest) done.1 done.2]⟩

instance (source dest : String) : Memoryless (copyInto source dest) := by
  unfold copyInto
  cases Path.parent? dest with
  | none => exact .bind inferInstance fun r => by cases r <;> infer_instance
  | some dir => exact .bind inferInstance fun r => by cases r <;> infer_instance

theorem outcome_copyInto (source dest : String) :
    (copyInto source dest).outcome host t =
      match Path.parent? dest with
      | none => copied host t source dest
      | some dir =>
        let made := Call.perform host.cwd (.createDirs dir) t
        match made.1 with
        | .error fault => ⟨.ok (.error fault), made.2, [.changed (.createDirs dir) made.1 made.2]⟩
        | .ok () =>
          ⟨(copied host made.2 source dest).result, (copied host made.2 source dest).files,
            .changed (.createDirs dir) made.1 made.2 ::
              (copied host made.2 source dest).history⟩ := by
  unfold copyInto
  cases Path.parent? dest with
  | none =>
    simp only
    rw [outcome_bind_of, outcome_pure, Outcome.value_andThen, outcome_attemptCall]
    · rfl
    · intro r
      cases r <;> infer_instance
  | some dir =>
    simp only
    rw [outcome_bind_of, outcome_attemptCall, Outcome.ok_andThen]
    · cases (Call.perform host.cwd (.createDirs dir) t).1 with
      | error fault => rfl
      | ok => rfl
    · intro r
      cases r <;> infer_instance

instance (ownClasses classes : String) :
    Memoryless (copySupportClass config project ownClasses classes) := by
  refine .bind inferInstance fun r => ?_
  cases r <;> infer_instance

/-- Where the support class ends up, or why it does not. -/
def copyVerdict (dest : String) : Except Fault Unit → Except Failure String
  | .ok () => .ok dest
  | .error fault => .error (.ofCause (.supportCopyFailed project.text fault))

/-- The copy of the support class between two class roots. -/
theorem outcome_copySupportClass (ownClasses classes : String) :
    (copySupportClass config project ownClasses classes).outcome host t =
      ((copyInto (Path.join ownClasses config.supportClass)
        (Path.join classes config.supportClass)).outcome host t).andThen fun r u =>
          ⟨copyVerdict project (Path.join classes config.supportClass) r, u, []⟩ := by
  unfold copySupportClass
  rw [outcome_bind_of]
  · congr 1
    funext r u
    cases r with
    | error fault => rfl
    | ok =>
      simp only
      rw [outcome_bind, outcome_log, Outcome.value_andThen, outcome_bind,
        Checkout.outcome_printLabelled, Outcome.value_andThen, outcome_pure]
      rfl
  · intro r
    cases r <;> infer_instance

/-! ## Running the instrumenter -/

/-- The job that instruments classes. -/
def instrumentJob (jar ownClasses classes : String) : Job :=
  config.command.job
    [("jar", jar), ("instrumenter_classes", ownClasses), ("target_classes", classes)] workspace

instance (activity : Activity) (path : String) : Memoryless (absolute activity path) :=
  inferInstanceAs (Memoryless (_ >>= _))

instance (classes : String) : Memoryless (run config project workspace classes) :=
  inferInstanceAs (Memoryless (_ >>= _))

theorem outcome_absolute (activity : Activity) (path : String) :
    (absolute activity path).outcome host t =
      ⟨(t.absolute host.cwd path).mapError fun fault => .during activity (.file fault), t, []⟩ := by
  unfold Action.absolute
  rw [outcome_bind, outcome_look, Outcome.value_andThen, outcome_orFail]

theorem outcome_absolute_of_ok {activity : Activity} {path q : String}
    (h : t.absolute host.cwd path = .ok q) :
    (absolute activity path).outcome host t = .value q t := by
  rw [outcome_absolute, h]
  rfl

theorem outcome_absolute_of_error {activity : Activity} {path : String} {fault : Fault}
    (h : t.absolute host.cwd path = .error fault) :
    (absolute activity path).outcome host t = .failure (.during activity (.file fault)) t := by
  rw [outcome_absolute, h]
  rfl

/-- The first of the instrumenter's own paths that cannot be made absolute, and why. -/
inductive Unresolvable (config : InstrumenterConfig) (host : Host) (t : FileTree) :
    String → Fault → Prop where
  | jar {fault : Fault} (h : t.absolute host.cwd config.jar = .error fault) :
    Unresolvable config host t config.jar fault
  | classesDir {jar : String} {fault : Fault} (jar_eq : t.absolute host.cwd config.jar = .ok jar)
    (h : t.absolute host.cwd config.classesDir = .error fault) :
    Unresolvable config host t config.classesDir fault

variable {config project workspace host t} {jar ownClasses target classes : String}

/-- Where all paths can be made absolute: one job, and then the copy of the support class. -/
theorem outcome_run (hjar : t.absolute host.cwd config.jar = .ok jar)
    (hown : t.absolute host.cwd config.classesDir = .ok ownClasses)
    (htarget : t.absolute host.cwd classes = .ok target) :
    (run config project workspace classes).outcome host t =
      ((config.command.tryRun "instrument" [("jar", jar), ("instrumenter_classes", ownClasses),
        ("target_classes", target)] workspace).outcome host t).andThen fun succeeded u =>
          if succeeded then (copySupportClass config project ownClasses target).outcome host u
          else .failure (.ofCause (.instrumentationFailed project.text)) u := by
  unfold run
  rw [outcome_bind, outcome_absolute_of_ok host t hjar, Outcome.value_andThen, outcome_bind,
    outcome_absolute_of_ok host t hown, Outcome.value_andThen, outcome_bind,
    outcome_absolute_of_ok host t htarget, Outcome.value_andThen, outcome_bind,
    Checkout.outcome_printStage, Outcome.value_andThen, outcome_bind]
  congr 1
  funext succeeded u
  cases succeeded <;> rfl

/-- A path that cannot be made absolute is the end, so nothing is started. -/
theorem outcome_run_of_unresolvable {path : String} {fault : Fault}
    (h : Unresolvable config host t path fault) :
    (run config project workspace classes).outcome host t =
      .failure (.during (.resolvingPath path) (.file fault)) t := by
  unfold run
  rw [outcome_bind]
  cases h with
  | jar h =>
    rw [outcome_absolute_of_error host t h]
    rfl
  | classesDir hjar h =>
    rw [outcome_absolute_of_ok host t hjar, Outcome.value_andThen, outcome_bind,
      outcome_absolute_of_error host t h]
    rfl

variable (config host t) in
theorem resolved_or_unresolvable :
    (∃ jar ownClasses, t.absolute host.cwd config.jar = .ok jar ∧
        t.absolute host.cwd config.classesDir = .ok ownClasses) ∨
      ∃ path fault, Unresolvable config host t path fault := by
  cases hjar : t.absolute host.cwd config.jar with
  | error fault => exact .inr ⟨_, _, .jar hjar⟩
  | ok jar =>
    cases hown : t.absolute host.cwd config.classesDir with
    | error fault => exact .inr ⟨_, _, .classesDir hjar hown⟩
    | ok ownClasses => exact .inl ⟨_, _, rfl, rfl⟩

/-- The absolute path of a checkout's compiled classes. -/
def classesPlace (cwd : Location) (workspace : String) (project : ProjectId) : String :=
  Path.join (Path.absoluteDir cwd.text (Path.join (Checkout.place workspace project) "target"))
    "classes"

theorem isStep_classes : Path.IsStep "classes" := by decide

theorem absolute_targetClasses (cwd : Location) (workspace : String) (project : ProjectId) :
    Path.absolute cwd.text (targetClasses workspace project) =
      .ok (classesPlace cwd workspace project) :=
  Path.absolute_join isStep_classes

theorem pieces_targetClasses (workspace : String) (project : ProjectId) :
    Path.pieces (targetClasses workspace project) =
      Path.openPieces workspace ++ [project.dirName, "target", "classes"] := by
  have hdir := project.isName_dirName.isStep
  have htarget : Path.IsStep "target" := by decide
  have hopen {a n : String} (hn : Path.IsStep n) :
      Path.openPieces (Path.join a n) = Path.openPieces a ++ [n] := by
    rw [Path.openPieces_of_not (Path.join_ne_empty hn) (Path.endsWithSlash_join hn),
      Path.pieces_join hn.startsAtRoot_eq, hn.pieces_eq]
  rw [targetClasses, Path.pieces_join isStep_classes.startsAtRoot_eq, hopen htarget, Checkout.place,
    hopen hdir, isStep_classes.pieces_eq]
  simp

/-- Compiled classes that are there have an absolute path. -/
theorem absolute_of_there (h : t.isDirectory host.cwd (targetClasses workspace project)) :
    t.absolute host.cwd (targetClasses workspace project) =
      .ok (classesPlace host.cwd workspace project) :=
  FileTree.absolute_eq_ok_iff.mpr
    ⟨absolute_targetClasses _ _ _, FileTree.hasStart_of_isDirectory h⟩

end Instrument

instance (config : Config) (raw workspace : String) :
    Memoryless (instrument config raw workspace) := by
  unfold instrument
  infer_instance

/-- Instrumenting: the id is read and the classes are looked for first. -/
theorem outcome_instrument (config : Config) (raw workspace : String) (host : Host)
    (t : FileTree) :
    (instrument config raw workspace).outcome host t =
      match ProjectId.parse? raw with
      | none => .failure (.ofCause (.invalidProject raw)) t
      | some project =>
        if t.isDirectory host.cwd (Instrument.targetClasses workspace project) then
          (Instrument.run config.instrumenter project workspace
            (Instrument.targetClasses workspace project)).outcome host t
        else
          .failure (.ofCause (.missingClasses (Instrument.targetClasses workspace project))) t := by
  unfold instrument readProject
  rw [outcome_bind]
  cases ProjectId.parse? raw with
  | none => rfl
  | some project =>
    simp only
    rw [outcome_pure, Outcome.value_andThen, outcome_bind, outcome_isDirectory,
      Outcome.value_andThen]
    split <;> rfl

/-- What instrumenting can come to: a failure before anything is started; or else the classes are
there, all paths can be made absolute, and the instrumenter's job decides about the copy. -/
inductive Instrumented (config : InstrumenterConfig) (project : ProjectId) (workspace : String)
    (host : Host) (t : FileTree) : Outcome String → Prop where
  | unstarted (f : Failure) : Instrumented config project workspace host t (.failure f t)
  | started {jar ownClasses : String}
    (there : t.isDirectory host.cwd (Instrument.targetClasses workspace project))
    (jar_eq : t.absolute host.cwd config.jar = .ok jar)
    (own_eq : t.absolute host.cwd config.classesDir = .ok ownClasses) :
    Instrumented config project workspace host t
      (let job := Instrument.instrumentJob config workspace jar ownClasses
          (Instrument.classesPlace host.cwd workspace project)
        let run := host.launch job t
        Outcome.andThen
          ⟨(run.outcome.map (·.isSuccess)).mapError fun fault =>
              .ofCause (.notStarted "instrument" config.command.program fault),
            run.files, [.launched job run.outcome run.files]⟩
          fun succeeded u =>
            if succeeded then
              (Instrument.copySupportClass config project ownClasses
                (Instrument.classesPlace host.cwd workspace project)).outcome host u
            else .failure (.ofCause (.instrumentationFailed project.text)) u)

theorem instrumented {raw : String} {project : ProjectId}
    (hproject : ProjectId.parse? raw = some project) (config : Config) (workspace : String)
    (host : Host) (t : FileTree) :
    Instrumented config.instrumenter project workspace host t
      ((instrument config raw workspace).outcome host t) := by
  rw [outcome_instrument, hproject]
  simp only
  split
  · rename_i hthere
    rcases Instrument.resolved_or_unresolvable config.instrumenter host t with
      ⟨jar, own, hjar, hown⟩ | ⟨path, fault, h⟩
    · rw [Instrument.outcome_run hjar hown (Instrument.absolute_of_there hthere),
        ToolCommand.outcome_tryRun]
      exact .started hthere hjar hown
    · rw [Instrument.outcome_run_of_unresolvable h]
      exact .unstarted _
  · exact .unstarted _

end BenchCheckout
