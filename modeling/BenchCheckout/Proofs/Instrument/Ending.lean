import BenchCheckout.Proofs.Resolution

/-!
# How instrumenting ends

Instrumenting is a row of stages: the id is read, the classes are looked for, the paths are made
absolute, the instrumenter is started, it ends, and the support class is copied. Each stage has one
way to fail, and a failure is the end.

* `Instrument.Setup`: what the first three stages find out.
* `Instrument.Ending`: the seven ends, each with all that it leaves.
* `Instrument.ending_iff`: instrumenting comes to exactly one of them.
* `Instrument.ends_at_first_failing_stage`: what follows from that for the child, for the program's
  own changes and for the files.
-/

namespace BenchCheckout

open BenchCheckout.Action

namespace Instrument

variable {config : InstrumenterConfig} {raw workspace : String} {host : Host} {t : FileTree}

/-- All that instrumenting needs before it starts anything, as long as the working directory is
there. -/
def Ready (config : InstrumenterConfig) (raw workspace : String) (host : Host) (t : FileTree) :
    Prop :=
  (∃ project, ProjectId.parse? raw = some project ∧
    t.isDirectory host.cwd (targetClasses workspace project)) ∧
  config.jar ≠ "" ∧ config.classesDir ≠ ""

/-- What instrumenting works with: an id that can be read, a checkout that has compiled classes, and
paths that can be made absolute. -/
structure Setup (config : InstrumenterConfig) (raw workspace : String) (host : Host)
    (t : FileTree) where
  project : ProjectId
  jar : String
  ownClasses : String
  project_eq : ProjectId.parse? raw = some project
  there : t.isDirectory host.cwd (targetClasses workspace project)
  jar_eq : t.absolute host.cwd config.jar = .ok jar
  own_eq : t.absolute host.cwd config.classesDir = .ok ownClasses

namespace Setup

variable (s : Setup config raw workspace host t)

/-- The absolute path of the checkout's compiled classes. -/
def classes : String := classesPlace host.cwd workspace s.project

def job : Job := instrumentJob config workspace s.jar s.ownClasses s.classes

/-- What the instrumenter makes of the files. -/
def run : Run := host.launch s.job t

def event : Event := .launched s.job s.run.outcome s.run.files

/-- Where the support class comes from. -/
def source : String := Path.join s.ownClasses config.supportClass

/-- Where the support class goes. -/
def dest : String := Path.join s.classes config.supportClass

/-- The copy of the support class, on the files that the instrumenter left. -/
def copying : Outcome (Except Fault Unit) := (copyInto s.source s.dest).outcome host s.run.files

theorem nonempty_iff :
    Nonempty (Setup config raw workspace host t) ↔
      Ready config raw workspace host t ∧ t.hasStart host.cwd config.jar ∧
        t.hasStart host.cwd config.classesDir := by
  constructor
  · rintro ⟨s⟩
    exact ⟨⟨⟨s.project, s.project_eq, s.there⟩, FileTree.ne_empty_of_absolute s.jar_eq,
      FileTree.ne_empty_of_absolute s.own_eq⟩, (FileTree.absolute_eq_ok_iff.mp s.jar_eq).2,
      (FileTree.absolute_eq_ok_iff.mp s.own_eq).2⟩
  · rintro ⟨⟨⟨project, hproject, hthere⟩, hjar, hown⟩, hjarStart, hownStart⟩
    obtain ⟨jar, hjar⟩ := FileTree.exists_absolute hjar hjarStart
    obtain ⟨own, hown⟩ := FileTree.exists_absolute hown hownStart
    exact ⟨⟨project, jar, own, hproject, hthere, hjar, hown⟩⟩

theorem not_unresolvable (s : Setup config raw workspace host t) {path : String} {fault : Fault} :
    ¬ Unresolvable config host t path fault := by
  rintro (h | ⟨-, h⟩)
  · cases h.symm.trans s.jar_eq
  · cases h.symm.trans s.own_eq

/-- Instrumenting from a setup: one job, and the copy if that succeeds. -/
theorem outcome_eq (config : Config) (s : Setup config.instrumenter raw workspace host t) :
    (instrument config raw workspace).outcome host t =
      Outcome.andThen
        ⟨(s.run.outcome.map (·.isSuccess)).mapError fun fault =>
            .ofCause (.notStarted "instrument" config.instrumenter.command.program fault),
          s.run.files, [s.event]⟩
        fun succeeded u =>
          if succeeded then
            ((copyInto s.source s.dest).outcome host u).andThen fun r v =>
              ⟨copyVerdict s.project s.dest r, v, []⟩
          else .failure (.ofCause (.instrumentationFailed s.project.text)) u := by
  rw [outcome_instrument, s.project_eq]
  simp only
  rw [if_pos s.there, outcome_run s.jar_eq s.own_eq (absolute_of_there s.there),
    ToolCommand.outcome_tryRun]
  congr 1
  funext succeeded u
  rw [outcome_copySupportClass]
  rfl

/-- After a success the copy decides. -/
theorem outcome_of_success (config : Config) (s : Setup config.instrumenter raw workspace host t)
    (succeeded : s.run.outcome = .ok (.exited 0)) {r : Except Fault Unit}
    (hr : s.copying.result = .ok r) :
    (instrument config raw workspace).outcome host t =
      ⟨copyVerdict s.project s.dest r, s.copying.files, s.event :: s.copying.history⟩ := by
  have hcopy : (copyInto s.source s.dest).outcome host s.run.files =
      ⟨.ok r, s.copying.files, s.copying.history⟩ := Outcome.eq_of_result hr
  rw [s.outcome_eq, succeeded]
  simp [Except.map, Except.mapError, Outcome.ok_andThen, ExitStatus.isSuccess, hcopy]

end Setup

/-! ## Copies -/

/-- A copy's own changes, in order: first the directories that it lies in. -/
def copyCalls (source dest : String) : List Call :=
  (Path.parent? dest).toList.map .createDirs ++ [.copy source dest]

/-- A copy is made of its own changes, as far as they succeed, and starts nothing. -/
theorem calls_copyInto (host : Host) (t : FileTree) (source dest : String) :
    let o := (copyInto source dest).outcome host t
    (∃ r, o.result = .ok r) ∧ o.jobs = [] ∧ o.calls <+: copyCalls source dest ∧
      (o.result = .ok (.ok ()) → o.calls = copyCalls source dest) := by
  rw [outcome_copyInto]
  unfold copyCalls
  cases Path.parent? dest with
  | none => exact ⟨⟨_, rfl⟩, rfl, List.prefix_rfl, fun _ => rfl⟩
  | some dir =>
    simp only
    split
    · exact ⟨⟨_, rfl⟩, rfl, ⟨[.copy source dest], rfl⟩, fun h => by cases h⟩
    · exact ⟨⟨_, rfl⟩, rfl, List.prefix_rfl, fun _ => rfl⟩

/-! ## Ends -/

/-- The ends of instrumenting, in the order of the stages. The first three are before the
instrumenter is started; the last two are after a copy was tried. -/
inductive Ending (config : InstrumenterConfig) (raw workspace : String) (host : Host)
    (t : FileTree) : Outcome String → Prop where
  | invalidProject (h : ProjectId.parse? raw = none) :
    Ending config raw workspace host t (.failure (.ofCause (.invalidProject raw)) t)
  | missingClasses {project : ProjectId} (project_eq : ProjectId.parse? raw = some project)
    (h : ¬ t.isDirectory host.cwd (targetClasses workspace project)) :
    Ending config raw workspace host t
      (.failure (.ofCause (.missingClasses (targetClasses workspace project))) t)
  | unresolvable {project : ProjectId} (project_eq : ProjectId.parse? raw = some project)
    (there : t.isDirectory host.cwd (targetClasses workspace project)) {path : String}
    {fault : Fault} (h : Unresolvable config host t path fault) :
    Ending config raw workspace host t (.failure (.during (.resolvingPath path) (.file fault)) t)
  | notStarted (s : Setup config raw workspace host t) {fault : Fault}
    (h : s.run.outcome = .error fault) :
    Ending config raw workspace host t
      ⟨.error (.ofCause (.notStarted "instrument" config.command.program fault)), s.run.files,
        [s.event]⟩
  | unsuccessful (s : Setup config raw workspace host t) {status : ExitStatus}
    (ended : s.run.outcome = .ok status) (h : status ≠ .exited 0) :
    Ending config raw workspace host t
      ⟨.error (.ofCause (.instrumentationFailed s.project.text)), s.run.files, [s.event]⟩
  | notCopied (s : Setup config raw workspace host t) (succeeded : s.run.outcome = .ok (.exited 0))
    {fault : Fault} (h : s.copying.result = .ok (.error fault)) :
    Ending config raw workspace host t
      ⟨.error (.ofCause (.supportCopyFailed s.project.text fault)), s.copying.files,
        s.event :: s.copying.history⟩
  | copied (s : Setup config raw workspace host t) (succeeded : s.run.outcome = .ok (.exited 0))
    (h : s.copying.result = .ok (.ok ())) :
    Ending config raw workspace host t
      ⟨.ok s.dest, s.copying.files, s.event :: s.copying.history⟩

theorem Ending.eq (config : Config) {o : Outcome String}
    (h : Ending config.instrumenter raw workspace host t o) :
    o = (instrument config raw workspace).outcome host t := by
  cases h with
  | invalidProject h => rw [outcome_instrument, h]
  | missingClasses project_eq h =>
    rw [outcome_instrument, project_eq]
    exact (if_neg h).symm
  | unresolvable project_eq there h =>
    rw [outcome_instrument, project_eq]
    simp only
    rw [if_pos there, outcome_run_of_unresolvable h]
  | notStarted s h =>
    rw [s.outcome_eq, h]
    rfl
  | @unsuccessful s status ended h =>
    have hfails : status.isSuccess = false := by simpa [ExitStatus.isSuccess] using h
    rw [s.outcome_eq, ended]
    simp [Outcome.andThen, Except.map, Except.mapError, hfails, Outcome.failure]
  | notCopied s succeeded h => rw [s.outcome_of_success config succeeded h, copyVerdict]
  | copied s succeeded h => rw [s.outcome_of_success config succeeded h, copyVerdict]

/-- Instrumenting comes to one of the ends. -/
theorem ending (config : Config) (raw workspace : String) (host : Host) (t : FileTree) :
    Ending config.instrumenter raw workspace host t
      ((instrument config raw workspace).outcome host t) := by
  suffices h : ∃ o, Ending config.instrumenter raw workspace host t o by
    obtain ⟨o, ho⟩ := h
    exact ho.eq config ▸ ho
  cases hproject : ProjectId.parse? raw with
  | none => exact ⟨_, .invalidProject hproject⟩
  | some project =>
    by_cases hthere : t.isDirectory host.cwd (targetClasses workspace project)
    swap
    · exact ⟨_, .missingClasses hproject hthere⟩
    rcases resolved_or_unresolvable config.instrumenter host t with
      ⟨jar, own, hjar, hown⟩ | ⟨path, fault, h⟩
    swap
    · exact ⟨_, .unresolvable hproject hthere h⟩
    let s : Setup config.instrumenter raw workspace host t :=
      ⟨project, jar, own, hproject, hthere, hjar, hown⟩
    cases hrun : s.run.outcome with
    | error fault => exact ⟨_, .notStarted s hrun⟩
    | ok status =>
      by_cases hstatus : status = .exited 0
      swap
      · exact ⟨_, .unsuccessful s hrun hstatus⟩
      subst hstatus
      obtain ⟨r, hr⟩ := (calls_copyInto host s.run.files s.source s.dest).1
      cases r with
      | error fault => exact ⟨_, .notCopied s hrun hr⟩
      | ok => exact ⟨_, .copied s hrun hr⟩

namespace Ending

variable {o : Outcome String}

/-- Nothing is started and nothing is done, or one job is started before anything else is done. -/
theorem jobs_cases (h : Ending config raw workspace host t o) :
    (IsEmpty (Setup config raw workspace host t) ∧ ∃ f, o = .failure f t) ∨
      ∃ s : Setup config raw workspace host t, o.jobs = [s.job] ∧ o.history.head? = some s.event := by
  have hcopy (s : Setup config raw workspace host t) (r : Except Failure String) :
      Outcome.jobs ⟨r, s.copying.files, s.event :: s.copying.history⟩ = [s.job] :=
    congrArg (s.job :: ·) (calls_copyInto host s.run.files s.source s.dest).2.1
  cases h with
  | invalidProject h => exact .inl ⟨⟨fun s => by cases h.symm.trans s.project_eq⟩, _, rfl⟩
  | missingClasses project_eq h =>
    refine .inl ⟨⟨fun s => h ?_⟩, _, rfl⟩
    rw [Option.some.inj (project_eq.symm.trans s.project_eq)]
    exact s.there
  | unresolvable project_eq there h => exact .inl ⟨⟨fun s => s.not_unresolvable h⟩, _, rfl⟩
  | notStarted s h => exact .inr ⟨s, rfl, rfl⟩
  | unsuccessful s ended h => exact .inr ⟨s, rfl, rfl⟩
  | notCopied s succeeded h => exact .inr ⟨s, hcopy s _, rfl⟩
  | copied s succeeded h => exact .inr ⟨s, hcopy s _, rfl⟩

/-- The program changes files only to copy the support class, behind an exit with success. -/
theorem calls_cases (h : Ending config raw workspace host t o) :
    o.calls = [] ∨ ∃ s : Setup config raw workspace host t, s.run.outcome = .ok (.exited 0) ∧
      o.history.head? = some s.event ∧ o.calls <+: copyCalls s.source s.dest := by
  have hcalls (s : Setup config raw workspace host t) (r : Except Failure String) :
      Outcome.calls ⟨r, s.copying.files, s.event :: s.copying.history⟩ <+:
        copyCalls s.source s.dest :=
    (calls_copyInto host s.run.files s.source s.dest).2.2.1
  cases h with
  | invalidProject => exact .inl rfl
  | missingClasses => exact .inl rfl
  | unresolvable => exact .inl rfl
  | notStarted => exact .inl rfl
  | unsuccessful => exact .inl rfl
  | notCopied s succeeded h => exact .inr ⟨s, succeeded, rfl, hcalls s _⟩
  | copied s succeeded h => exact .inr ⟨s, succeeded, rfl, hcalls s _⟩

end Ending

/-- A host in `/home/u` whose children remove everything and fail. -/
def wreckingHost : Host := { homeHost with launch := fun _ _ => ⟨.ok (.exited 1), .empty, "", ""⟩ }

end Instrument

end BenchCheckout
