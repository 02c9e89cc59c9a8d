import BenchCheckout.Config.Basic
import BenchCheckout.Console
import BenchCheckout.Failure
import BenchCheckout.Files.Calls
import BenchCheckout.Log

/-!
# Actions

An `Action` is what the program does: it looks at files and changes them, starts child programs,
prints and logs, and ends with a value or a `Failure`.

A `Host` is what an action runs on: the working directory, the environment, and what a child
program does, which may be any function of the job and of the files. A `World` is what an action
changes. Its `history` holds every change that the action makes itself and every job that it
starts, each with the files that it left.
-/

namespace BenchCheckout

structure Host where
  /-- The program's working directory. -/
  cwd : Location
  env : String → Option String
  launch : Job → FileTree → Run
  colours : Bool
  log : Log.Setting

inductive Event where
  | changed (call : Call) (result : Except Fault Unit) (files : FileTree)
  | launched (job : Job) (outcome : Except Fault ExitStatus) (files : FileTree)

namespace Event

/-- The files that an event left. -/
def files : Event → FileTree
  | changed _ _ files => files
  | launched _ _ files => files

def call? : Event → Option Call
  | changed call _ _ => some call
  | launched .. => none

def job? : Event → Option Job
  | changed .. => none
  | launched job _ _ => some job

end Event

structure World where
  files : FileTree
  history : List Event
  output : String
  errors : String

namespace World

/-- A world in which nothing has happened yet. -/
def ofFiles (files : FileTree) : World := ⟨files, [], "", ""⟩

/-- The changes that the program made itself, in order. -/
def calls (w : World) : List Call := w.history.filterMap (·.call?)

/-- The programs that it started or tried to start, in order. -/
def jobs (w : World) : List Job := w.history.filterMap (·.job?)

end World

abbrev Action (α : Type) := ReaderT Host (ExceptT Failure (StateM World)) α

namespace Action

variable {α : Type}

/-- The result of an action on a host, and the world that it leaves. -/
def runOn (a : Action α) (host : Host) (w : World) : Except Failure α × World := a host w

/-! ## Failing -/

def fail (f : Failure) : Action α := fun _ w => (.error f, w)

def failWith (cause : Cause) : Action α := fail (.ofCause cause)

/-- A file operation's value; its fault fails in the course of an activity. -/
def orFail (activity : Activity) : Except Fault α → Action α
  | .ok a => pure a
  | .error fault => fail (.during activity (.file fault))

/-- The result of an action that is not to end this one. -/
def attempt (a : Action α) : Action (Except Failure α) := fun host w =>
  let (r, w) := a host w
  (.ok r, w)

def ofExcept : Except Failure α → Action α
  | .ok a => pure a
  | .error f => fail f

/-! ## Files -/

/-- A question about the files, asked from the working directory. -/
def look (question : FileTree → Location → α) : Action α := fun host w =>
  (.ok (question w.files host.cwd), w)

def isFile (path : String) : Action Bool := look (·.isFile · path)

def isDirectory (path : String) : Action Bool := look (·.isDirectory · path)

def exists? (path : String) : Action Bool := look (·.exists? · path)

/-- Make a change, and tell whether it succeeded. -/
def attemptCall (call : Call) : Action (Except Fault Unit) := fun host w =>
  let (result, files) := call.perform host.cwd w.files
  (.ok result, { w with files, history := w.history ++ [.changed call result files] })

/-- Make a change that has to succeed. -/
def change (activity : Activity) (call : Call) : Action Unit := do
  orFail activity (← attemptCall call)

/-- A path made absolute, as seen from the working directory. -/
def absolute (activity : Activity) (path : String) : Action String := do
  orFail activity (← look (·.absolute · path))

/-! ## Children -/

/-- Start a program and wait for its end. -/
def launch (job : Job) : Action (Except Fault ExitStatus) := fun host w =>
  let run := host.launch job w.files
  (.ok run.outcome,
    { files := run.files
      history := w.history ++ [.launched job run.outcome run.files]
      output := w.output ++ run.output
      errors := w.errors ++ run.errors })

/-! ## Printing -/

def print (text : String) : Action Unit := fun _ w =>
  (.ok (), { w with output := w.output ++ text })

def printLine (text : String) : Action Unit := print (text ++ "\n")

/-- A text in a style, if the host has colours. -/
def painted (style : Console.Style) (text : String) : Action String := fun host w =>
  (.ok (style.paint host.colours text), w)

def log (e : Log.Entry) : Action Unit := fun host w =>
  (.ok (), { w with errors := w.errors ++ e.written host.log })

end Action

end BenchCheckout
