import BenchCheckout.Command
import BenchCheckout.Proofs.Config.Loading
import BenchCheckout.Proofs.Preflight

/-!
# How the program ends

The words are read before anything else is done, and a config is loaded before a command that needs
one begins. So words that are refused and configs that cannot be loaded leave everything as it is.

* `runWords_of_error`, `runWords_of_not_found`: the two ways to end before the command.
* `endsLike_of_checkout`, `endsLike_of_instrument`, `endsLike_of_doctor`: with a config, a command
  ends as what it is about does.
* `exit_follows_words`: all of it, whatever the libraries write.
-/

namespace BenchCheckout

open BenchCheckout.Action CommandLine Config

namespace CommandLine.Command

/-- All commands but two begin with loading a config. -/
def NeedsConfig : Command → Prop
  | .init | .completions _ => False
  | _ => True

theorem exists_run_eq (texts : Texts) {command : Command} (h : command.NeedsConfig) :
    ∃ rest : Config → Action Unit,
      ∀ chosen, command.run texts chosen = loadChosen chosen >>= rest := by
  cases command with
  | checkout project path noCache => exact ⟨fun c => runCheckout c project path noCache, fun _ => rfl⟩
  | fetch project path => exact ⟨fun c => runFetch c project path, fun _ => rfl⟩
  | instrument project path => exact ⟨fun c => runInstrument c project path, fun _ => rfl⟩
  | doctor => exact ⟨BenchCheckout.doctor, fun _ => rfl⟩
  | init => exact h.elim
  | completions shell => exact h.elim

end CommandLine.Command

variable {texts : Texts} {words : List String} {host : Host} {w : World} {chosen : Option String}
  {command : Command} {project path : String} {base : Config}

/-! ## Ends before the command -/

theorem runWords_of_error {refusal : Refusal} (h : CommandLine.read words = .error refusal) :
    runWordsWith texts words host w =
      if refusal.isMistake then
        (1, { w with output := w.output ++ texts.told words refusal false ++ "\n" })
      else (0, { w with
        output := w.output ++
          texts.told words refusal (Console.wantsColouredHelp host.env) }) := by
  rw [runWordsWith, h]
  rfl

/-- What is told of an action's end, and the exit status. -/
def settled (host : Host) : Except Failure Unit × World → UInt8 × World
  | (.ok (), w) => (0, w)
  | (.error f, w) => (1, { w with errors := w.errors ++ f.report host.colours })

theorem runWords_of_ok {i : Invocation} (h : CommandLine.read words = .ok i) :
    runWordsWith texts words host w = settled host ((i.command.run texts i.config).runOn host w) := by
  rw [runWordsWith, h]
  simp only
  rcases (i.command.run texts i.config).runOn host w with ⟨_ | _, w'⟩ <;> rfl

/-- A config that cannot be loaded ends a command that needs one, before anything else is done. -/
theorem runWords_of_not_found (hr : CommandLine.read words = .ok ⟨chosen, command⟩)
    (hneeds : command.NeedsConfig) (h : ¬ ∃ base, Found host.cwd w.files chosen base) :
    ∃ f, ((loadChosen chosen).outcome host w.files).result = .error f ∧
      runWordsWith texts words host w =
        (1, { w with errors := w.errors ++ f.report host.colours }) := by
  obtain ⟨f, hf⟩ : ∃ f, ((loadChosen chosen).outcome host w.files).result = .error f := by
    cases hresult : ((loadChosen chosen).outcome host w.files).result with
    | error f => exact ⟨f, rfl⟩
    | ok c => exact absurd (found_of_loadChosen hresult) h
  obtain ⟨rest, hrun⟩ := Command.exists_run_eq texts hneeds
  refine ⟨f, hf, ?_⟩
  rw [runWords_of_ok hr, hrun, runOn_bind, runOn_of_quiet, hf]
  rfl

/-! ## Commands with a config -/

/-- A run that began with `w` ended with the result, the files and the events of `o`. -/
structure EndsLike {α : Type} (host : Host) (w : World) (o : Outcome α) (ended : UInt8 × World) :
    Prop where
  files_eq : ended.2.files = o.files
  history_eq : ended.2.history = w.history ++ o.history
  ok : ∀ a, o.result = .ok a → ended.1 = 0
  error : ∀ f, o.result = .error f →
    ended.1 = 1 ∧ ∃ before, ended.2.errors = before ++ f.report host.colours

theorem endsLike_settled (a : Action Unit) [h : Memoryless a] (host : Host) (w : World) :
    EndsLike host w (a.outcome host w.files) (settled host (a.runOn host w)) := by
  obtain ⟨hr, hu, hh⟩ := h.runOn_eq host w
  rcases hended : a.runOn host w with ⟨r, w'⟩
  rw [hended] at hr hu hh
  subst hr
  cases hres : (a.outcome host w.files).result with
  | ok x => exact ⟨hu, hh, fun _ _ => rfl, fun f hf => by rw [hres] at hf; cases hf⟩
  | error f =>
    refine ⟨hu, hh, fun x hx => (by rw [hres] at hx; cases hx), fun f' hf => ?_⟩
    rw [hres] at hf
    cases hf
    exact ⟨rfl, w'.errors, rfl⟩

theorem EndsLike.of_andThen {α : Type} {o : Outcome α} {ended : UInt8 × World}
    (h : EndsLike host w (o.andThen fun _ u => .value () u) ended) : EndsLike host w o ended := by
  obtain ⟨r, u, history⟩ := o
  cases r with
  | ok a =>
    rw [Outcome.ok_andThen] at h
    exact ⟨h.files_eq, by simpa [Outcome.value] using h.history_eq, fun _ _ => h.ok () rfl,
      fun _ hf => by cases hf⟩
  | error f =>
    rw [Outcome.error_andThen] at h
    have herror := h.error f rfl
    refine ⟨h.files_eq, h.history_eq, fun _ ha => (by cases ha), fun f' hf => ?_⟩
    obtain rfl : f = f' := Except.error.inj hf
    exact herror

instance (config : Config) (raw workspace : String) (options : Checkout.Options) :
    Memoryless (checkout config raw workspace options) := by
  unfold checkout
  infer_instance

namespace CommandLine.Command

instance (text : String) : Memoryless (printDone text) := inferInstanceAs (Memoryless (_ >>= _))

instance (config : Config) (project path : String) :
    Memoryless (runInstrument config project path) :=
  inferInstanceAs (Memoryless (_ >>= _))

theorem outcome_printDone (text : String) (host : Host) (t : FileTree) :
    (printDone text).outcome host t = .value () t := by
  unfold printDone
  rw [outcome_bind]
  rfl

end CommandLine.Command

/-- With a config, a command ends as what comes behind the loading does. -/
theorem endsLike_of_found {rest : Config → Action Unit} [∀ c, Memoryless (rest c)]
    (hr : CommandLine.read words = .ok ⟨chosen, command⟩)
    (hrun : command.run texts chosen = loadChosen chosen >>= rest)
    (h : Found host.cwd w.files chosen base) :
    EndsLike host w ((rest (base.applyEnv host.env)).outcome host w.files)
      (runWordsWith texts words host w) := by
  rw [runWords_of_ok hr, hrun, runOn_bind, runOn_of_quiet, outcome_loadChosen_of_found h]
  exact endsLike_settled _ host w

open Command in
/-- A command that says what it begins, checks out and tells where, ends as the checkout does. -/
theorem endsLike_of_checkout {begins : String} {options : Checkout.Options}
    (hr : CommandLine.read words = .ok ⟨chosen, command⟩)
    (hrun : command.run texts chosen = loadChosen chosen >>= fun c => do
      Checkout.printStage begins
      printDone (← checkout c project path options))
    (h : Found host.cwd w.files chosen base) :
    EndsLike host w
      ((checkout (base.applyEnv host.env) project path options).outcome host w.files)
      (runWordsWith texts words host w) := by
  have hends := endsLike_of_found hr hrun h
  rw [outcome_bind, Checkout.outcome_printStage, Outcome.value_andThen, outcome_bind] at hends
  simp only [outcome_printDone] at hends
  exact hends.of_andThen

open Command in
/-- The command that instruments ends as instrumenting does. -/
theorem endsLike_of_instrument
    (hr : CommandLine.read words = .ok ⟨chosen, .instrument project path⟩)
    (h : Found host.cwd w.files chosen base) :
    EndsLike host w ((instrument (base.applyEnv host.env) project path).outcome host w.files)
      (runWordsWith texts words host w) := by
  have hrun : (Command.instrument project path).run texts chosen =
      loadChosen chosen >>= fun c => runInstrument c project path := rfl
  have hends := endsLike_of_found hr hrun h
  unfold runInstrument at hends
  rw [outcome_bind] at hends
  simp only [outcome_printDone] at hends
  exact hends.of_andThen

/-- The command that checks the prerequisites fails exactly if something is missing. -/
theorem endsLike_of_doctor (hr : CommandLine.read words = .ok ⟨chosen, .doctor⟩)
    (h : Found host.cwd w.files chosen base) :
    let fs := Preflight.findings (base.applyEnv host.env) w.files host.cwd (host.env "PATH")
    EndsLike host w
      ⟨if ∀ f ∈ fs, f.ok then .ok ()
        else .error (.ofCause (.missingPrerequisites (Preflight.missing fs))), w.files, []⟩
      (runWordsWith texts words host w) := by
  have hrun : Command.doctor.run texts chosen = loadChosen chosen >>= doctor := rfl
  have hends := endsLike_of_found hr hrun h
  rwa [Preflight.outcome_doctor] at hends

/-! ## Commands without a config -/

theorem runWords_of_init (hr : CommandLine.read words = .ok ⟨chosen, .init⟩) :
    runWordsWith texts words host w = settled host ((Config.init ".").runOn host w) :=
  runWords_of_ok hr

/-- A config file that is there is left alone, whatever it holds. -/
theorem runWords_init_of_exists (hr : CommandLine.read words = .ok ⟨chosen, .init⟩)
    (h : w.files.exists? host.cwd ownPath) :
    runWordsWith texts words host w = (0, { w with
      output := w.output ++ ((Console.Style.hued .yellow).paint host.colours "!" ++ " " ++
        fileName ++ " already exists (skipping)" ++ "\n") }) := by
  rw [runWords_of_init hr]
  unfold Config.init
  rw [runOn_bind, runOn_of_quiet, outcome_exists?, ← ownPath, h]
  rfl

/-- Where there is no config file the defaults are written, and that may fail. -/
theorem runWords_init_of_missing (hr : CommandLine.read words = .ok ⟨chosen, .init⟩)
    (h : w.files.exists? host.cwd ownPath = false) :
    runWordsWith texts words host w =
      match w.files.write host.cwd ownPath defaultText.toUTF8 with
      | .ok u => (0, { w with
          files := u
          history := w.history ++ [.changed (.write ownPath defaultText) (.ok ()) u]
          output := w.output ++ ((Console.Style.hued .green).paint host.colours "✓" ++
            " Created " ++ fileName ++ " with default configuration" ++ "\n") })
      | .error fault => (1, { w with
          history := w.history ++ [.changed (.write ownPath defaultText) (.error fault) w.files]
          errors := w.errors ++
            Failure.report host.colours (.during (.writing ownPath) (.file fault)) }) := by
  rw [runWords_of_init hr]
  unfold Config.init
  rw [runOn_bind, runOn_of_quiet, outcome_exists?, ← ownPath, h]
  show settled host ((change (.writing ownPath) (.write ownPath defaultText) >>= _).runOn host w) = _
  rw [runOn_bind, runOn_change, Call.perform_write]
  cases w.files.write host.cwd ownPath defaultText.toUTF8 <;> rfl

/-! ## Main statement -/

/-- The exit status and the effects follow the words, whatever the libraries write. Words that are
refused are answered on the output, whatever the files and the environment are: the status is 1 for
a mistake and 0 for help and the version. A command ends with 0 if it succeeds, and else with 1 and
the chain of its failure. A config that cannot be read or parsed ends the four commands that need it
before they do anything, and the other two do not ask for it. With a config, the three commands that
check out do so with three settings of one procedure, one instruments, and one only looks whether
anything is missing. -/
theorem exit_follows_words (texts : Texts) (words : List String) (host : Host) (w : World) :
    (∀ refusal, CommandLine.read words = .error refusal →
      runWordsWith texts words host w =
        if refusal.isMistake then
          (1, { w with output := w.output ++ texts.told words refusal false ++ "\n" })
        else (0, { w with
          output := w.output ++
            texts.told words refusal (Console.wantsColouredHelp host.env) })) ∧
    (∀ i, CommandLine.read words = .ok i →
      match (i.command.run texts i.config).runOn host w with
      | (.ok (), w') => runWordsWith texts words host w = (0, w')
      | (.error f, w') => runWordsWith texts words host w = (1, { w' with
          errors := w'.errors ++ ((Console.Style.boldHued .red).paint host.colours "Error:" ++ " " ++
            String.intercalate ": " f.chain ++ "\n") })) ∧
    (∀ chosen command, CommandLine.read words = .ok ⟨chosen, command⟩ → command.NeedsConfig →
      (¬ ∃ base, Found host.cwd w.files chosen base) →
        ∃ f, ((loadChosen chosen).outcome host w.files).result = .error f ∧
          runWordsWith texts words host w =
            (1, { w with errors := w.errors ++ f.report host.colours })) ∧
    (∀ chosen shell, CommandLine.read words = .ok ⟨chosen, .completions shell⟩ →
      runWordsWith texts words host w =
        (0, { w with output := w.output ++ texts.script shell })) ∧
    (∀ chosen, CommandLine.read words = .ok ⟨chosen, .init⟩ →
      (w.files.exists? host.cwd ownPath → runWordsWith texts words host w = (0, { w with
        output := w.output ++ ((Console.Style.hued .yellow).paint host.colours "!" ++ " " ++
          fileName ++ " already exists (skipping)" ++ "\n") })) ∧
      (w.files.exists? host.cwd ownPath = false → runWordsWith texts words host w =
        match w.files.write host.cwd ownPath defaultText.toUTF8 with
        | .ok u => (0, { w with
            files := u
            history := w.history ++ [.changed (.write ownPath defaultText) (.ok ()) u]
            output := w.output ++ ((Console.Style.hued .green).paint host.colours "✓" ++
              " Created " ++ fileName ++ " with default configuration" ++ "\n") })
        | .error fault => (1, { w with
            history := w.history ++ [.changed (.write ownPath defaultText) (.error fault) w.files]
            errors := w.errors ++
              Failure.report host.colours (.during (.writing ownPath) (.file fault)) }))) ∧
    ∀ chosen base, Found host.cwd w.files chosen base →
      (∀ project path,
        (CommandLine.read words = .ok ⟨chosen, .checkout project path false⟩ → EndsLike host w
          ((checkout (base.applyEnv host.env) project path ⟨true, .cached⟩).outcome host w.files)
          (runWordsWith texts words host w)) ∧
        (CommandLine.read words = .ok ⟨chosen, .fetch project path⟩ → EndsLike host w
          ((checkout (base.applyEnv host.env) project path ⟨false, .transient⟩).outcome host
            w.files)
          (runWordsWith texts words host w)) ∧
        (CommandLine.read words = .ok ⟨chosen, .checkout project path true⟩ → EndsLike host w
          ((checkout (base.applyEnv host.env) project path ⟨true, .transient⟩).outcome host
            w.files)
          (runWordsWith texts words host w)) ∧
        (CommandLine.read words = .ok ⟨chosen, .instrument project path⟩ → EndsLike host w
          ((instrument (base.applyEnv host.env) project path).outcome host w.files)
          (runWordsWith texts words host w))) ∧
      (CommandLine.read words = .ok ⟨chosen, .doctor⟩ →
        let fs := Preflight.findings (base.applyEnv host.env) w.files host.cwd (host.env "PATH")
        EndsLike host w
          ⟨if ∀ f ∈ fs, f.ok then .ok ()
            else .error (.ofCause (.missingPrerequisites (Preflight.missing fs))), w.files, []⟩
          (runWordsWith texts words host w)) := by
  refine ⟨fun refusal h => runWords_of_error h, fun i hr => ?_,
    fun chosen command hr hneeds h => runWords_of_not_found hr hneeds h, fun chosen shell hr => ?_,
    fun chosen hr => ⟨runWords_init_of_exists hr, runWords_init_of_missing hr⟩,
    fun chosen base h => ⟨fun project path => ⟨fun hr => ?_, fun hr => ?_, fun hr => ?_,
      fun hr => endsLike_of_instrument hr h⟩, fun hr => endsLike_of_doctor hr h⟩⟩
  · rw [runWords_of_ok hr]
    rcases (i.command.run texts i.config).runOn host w with ⟨_ | _, w'⟩
    · simp only [settled, Failure.report, Failure.text]
    · rfl
  · rw [runWords_of_ok hr]
    rfl
  · exact endsLike_of_checkout hr rfl h
  · exact endsLike_of_checkout hr rfl h
  · exact endsLike_of_checkout hr rfl h

/-! ## A config file that is cut off -/

/-- The root with a config file whose object does not end. -/
def brokenFiles : FileTree :=
  FileTree.empty.put [] fileName (.file "\x7b".toUTF8 false none)

/-- A host on which every program empties the tree. -/
def wreckingHost : Host := .plain fun _ _ => ⟨.ok (.exited 0), .empty, "", ""⟩

theorem not_found_broken : ¬ ∃ base, Found [] brokenFiles none base := by
  rintro ⟨base, h⟩
  cases h with
  | @own text _ he hr hc =>
    obtain rfl : "\x7b" = text :=
      Except.ok.inj ((FileTree.readText_of_read (by rfl)).symm.trans hr)
    have hbroken : (parse "\x7b").toBool = false := by decide +kernel
    rw [hc] at hbroken
    cases hbroken
  | absent he => exact absurd he (by decide +kernel)

theorem fetch_ended_by_broken_config :
    (∃ f, runWords ["fetch", "Lang_10", "."] wreckingHost (.ofFiles brokenFiles) =
      (1, { World.ofFiles brokenFiles with errors := "" ++ Failure.report false f })) ∧
    runWords ["--config", "a", "init"] wreckingHost (.ofFiles brokenFiles) =
      (0, { World.ofFiles brokenFiles with
        output := "! .d4jrc.json already exists (skipping)\n" }) := by
  have hfetch := (exit_follows_words .plain ["fetch", "Lang_10", "."] wreckingHost
    (.ofFiles brokenFiles)).2.2.1 none (.fetch "Lang_10" ".") rfl trivial not_found_broken
  have hinit := (exit_follows_words .plain ["--config", "a", "init"] wreckingHost
    (.ofFiles brokenFiles)).2.2.2.2.1 (some "a") rfl
  obtain ⟨f, -, hf⟩ := hfetch
  exact ⟨⟨f, hf⟩, hinit.1 rfl⟩

end BenchCheckout
