import BenchCheckout.CommandLine.Reader
import BenchCheckout.CommandLine.Texts
import BenchCheckout.Config.Files
import BenchCheckout.Instrument
import BenchCheckout.Preflight

/-!
# The program

`runWordsWith` reads the words behind the program's name, does what they ask for and tells the exit
status. Mistakes in the words are told on the output, and failures on the errors. The texts of the
libraries may be any; `runWords` is the run with plain ones.
-/

namespace BenchCheckout

/-- A host with the settings that an environment asks for. -/
def Host.ofEnvironment (cwd : Location) (env : String → Option String)
    (launch : Job → FileTree → Run) (stamp : String) : Host where
  cwd := cwd
  env := env
  launch := launch
  colours := Console.wantsColours env
  log := ⟨Log.Filter.ofVariable (env "D4J_PREP_LOG"), stamp, Log.wantsColours env⟩

namespace CommandLine.Command

/-- A green tick, a place, and what was done there. -/
def printDone (text : String) : Action Unit := do
  Action.printLine ("\n" ++ (← Action.painted (.boldHued .green) "✓") ++ " " ++ text)

/-- Check out, build, and tell where. -/
def runCheckout (config : Config) (project path : String) (noCache : Bool) : Action Unit := do
  Checkout.printStage "Checking out..."
  let policy := if noCache then .transient else .cached
  printDone (← BenchCheckout.checkout config project path ⟨true, policy⟩)

/-- Check out without a build, and tell where. -/
def runFetch (config : Config) (project path : String) : Action Unit := do
  Checkout.printStage "Fetching..."
  printDone (← BenchCheckout.checkout config project path ⟨false, .transient⟩)

/-- Instrument, and tell what. -/
def runInstrument (config : Config) (project path : String) : Action Unit := do
  let _ ← BenchCheckout.instrument config project path
  printDone (project ++ " instrumented")

/-- What a subcommand does. Two of them need no config. -/
def run (texts : Texts) (chosen : Option String) : Command → Action Unit
  | .completions shell => Action.print (texts.script shell)
  | .init => Config.init "."
  | .checkout project path noCache => do
    runCheckout (← Config.loadChosen chosen) project path noCache
  | .fetch project path => do runFetch (← Config.loadChosen chosen) project path
  | .instrument project path => do runInstrument (← Config.loadChosen chosen) project path
  | .doctor => do BenchCheckout.doctor (← Config.loadChosen chosen)

end CommandLine.Command

/-- What is told about a failure. -/
def Failure.report (colours : Bool) (f : Failure) : String :=
  (Console.Style.boldHued .red).paint colours "Error:" ++ " " ++ f.text ++ "\n"

/-- What is told of refused words goes to the output, and one more line feed behind a mistake. -/
def CommandLine.Texts.tell (texts : CommandLine.Texts) (words : List String)
    (refusal : CommandLine.Refusal) (colours : Bool) (w : World) : UInt8 × World :=
  if refusal.isMistake then
    (1, { w with output := w.output ++ texts.told words refusal false ++ "\n" })
  else (0, { w with output := w.output ++ texts.told words refusal colours })

/-- Do what the words ask for; the exit status and the world behind it. -/
def runWordsWith (texts : CommandLine.Texts) (words : List String) (host : Host) (w : World) :
    UInt8 × World :=
  match CommandLine.read words with
  | .error refusal => texts.tell words refusal (Console.wantsColouredHelp host.env) w
  | .ok invocation =>
    match (invocation.command.run texts invocation.config).runOn host w with
    | (.ok (), w) => (0, w)
    | (.error f, w) => (1, { w with errors := w.errors ++ f.report host.colours })

/-- A run with plain texts. -/
def runWords (words : List String) (host : Host) (w : World) : UInt8 × World :=
  runWordsWith .plain words host w

end BenchCheckout
