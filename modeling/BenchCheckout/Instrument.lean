import BenchCheckout.Checkout

/-!
# Instrumenting a checkout

The instrumenter works on a checkout's compiled classes in place. When it succeeds, the support
class is copied from its own classes next to the instrumented ones.
-/

namespace BenchCheckout

namespace Instrument

/-- Where the log lines of this module come from. -/
def area : String := "d4j_prep::instrument"

/-- A checkout's compiled classes. -/
def targetClasses (workspace : String) (project : ProjectId) : String :=
  Path.join (Path.join (Checkout.place workspace project) "target") "classes"

/-- Copy a file, creating the directories that its copy lies in. -/
def copyInto (source dest : String) : Action (Except Fault Unit) := do
  let above ← match Path.parent? dest with
    | some dir => Action.attemptCall (.createDirs dir)
    | none => pure (.ok ())
  match above with
  | .error fault => pure (.error fault)
  | .ok () => Action.attemptCall (.copy source dest)

/-- Copy the support class from one root of classes to another, and tell where it is now. -/
def copySupportClass (config : InstrumenterConfig) (project : ProjectId)
    (ownClasses classes : String) : Action String := do
  let source := Path.join ownClasses config.supportClass
  let dest := Path.join classes config.supportClass
  match ← copyInto source dest with
  | .error fault => Action.failWith (.supportCopyFailed project.text fault)
  | .ok () =>
    Action.log ⟨.debug, area, "copied support class", [("from", source), ("to", dest)]⟩
    Checkout.printLabelled "Support:" dest
    pure dest

/-- Run the instrumenter on classes that exist, and copy the support class. -/
def run (config : InstrumenterConfig) (project : ProjectId) (workspace classes : String) :
    Action String := do
  let jar ← Action.absolute (.resolvingPath config.jar) config.jar
  let ownClasses ← Action.absolute (.resolvingPath config.classesDir) config.classesDir
  let classes ← Action.absolute (.resolvingPath classes) classes
  Checkout.printStage "Instrumenting..."
  let bindings :=
    [("jar", jar), ("instrumenter_classes", ownClasses), ("target_classes", classes)]
  if ← config.command.tryRun "instrument" bindings workspace then
    copySupportClass config project ownClasses classes
  else Action.failWith (.instrumentationFailed project.text)

end Instrument

/-- Instrument a project in a workspace, and tell where its support class is. -/
def instrument (config : Config) (raw workspace : String) : Action String := do
  let project ← readProject raw
  let classes := Instrument.targetClasses workspace project
  if ← Action.isDirectory classes then
    Instrument.run config.instrumenter project workspace classes
  else Action.failWith (.missingClasses classes)

end BenchCheckout
