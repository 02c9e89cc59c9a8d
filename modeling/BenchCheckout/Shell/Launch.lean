import BenchCheckout.Shell.Run

/-!
# Starting programs from outside a shell

`launch` does a `Job` on a file tree: it goes to the job's directory, looks for the program from
there and runs it to its end. `machine` is a file tree with the shell and the utilities in their
usual places.
-/

namespace BenchCheckout.Shell

/-! ## A tree with the utilities -/

/-- The directories of a machine, the outer ones first. -/
def machineDirs : List Location :=
  [["dev"], ["root"], ["tmp"], ["usr"], ["usr", "bin"], ["usr", "local"], ["usr", "local", "bin"]]

/-- A file tree with the shell and the utilities in `/usr/bin`. -/
def machine : FileTree :=
  let t := machineDirs.foldl (fun t l => FileTree.putAt t l .directory) FileTree.empty
  let t := t.putAt ["bin"] (.link "usr/bin")
  let t := t.putAt Machine.nullDevice (.file .empty false none)
  (Image.shellNames ++ Utility.table.map (·.1)).foldl
    (fun t n => t.putAt ["usr", "bin", n] (.file (Image.bytesOf n) true none)) t

/-! ## Finding a program -/

/-- The directory that a job runs in. -/
def jobDir (files : FileTree) (cwd : Location) (path : String) : Except Fault Location := do
  match ← files.find cwd path with
  | (l, .directory) => .ok l
  | _ => .error .notDirectory

/-- Where programs are looked for if no search path is set. -/
def defaultSearchPath : String := "/bin:/usr/bin"

/-- The greatest length of a name. -/
def nameLimit : Nat := 255

/-- The first program in the directories. One that may not be started is only the answer where there
is none that can. -/
def jobProgramIn (scene : Scene) (name : String) (args : List String) :
    List String → Fault → Except Fault Program
  | [], why => .error why
  | dir :: dirs, why =>
    match scene.program (SearchPath.inside dir name) name args with
    | .ok p => .ok p
    | .error .denied => jobProgramIn scene name args dirs .denied
    | .error .noEntry | .error .notDirectory => jobProgramIn scene name args dirs why
    | .error f => .error f

/-- The program of a job. -/
def jobProgram (scene : Scene) (searchPath : Option String) (name : String) (args : List String) :
    Except Fault Program :=
  if name = "" then .error .noEntry
  else if '/' ∈ name.toList then scene.program name name args
  else if nameLimit < name.length then .error .nameTooLong
  else
    jobProgramIn scene name args (SearchPath.dirs (searchPath.getD defaultSearchPath)) .noEntry

/-! ## Running it -/

/-- How deep the tasks of a program may lie in each other. -/
def taskFuel : Nat := 200000

/-- A text that a program can be given. -/
def isPassable (s : String) : Bool := '\x00' ∉ s.toList

/-- The process of a job. -/
def jobProcess : Nat := 4000

/-- What comes of a job, in an environment and as seen from a working directory. Nothing can be read
by the program. -/
def launch (env : List (String × String)) (cwd : Location) (job : Job) (files : FileTree) : Run :=
  let refused (fault : Fault) : Run := ⟨.error fault, files, "", ""⟩
  if !(isPassable job.program && job.args.all isPassable && isPassable job.cwd) then
    refused .nulInCommand
  else
    let env := env.map fun (n, v) => (Octets.ofText n, Octets.ofText v)
    let searchPath := (env.find? (·.1 == "PATH")).map (·.2)
    let found : Except Fault (Location × Program) := do
      let dir ← jobDir files cwd job.cwd
      let args := job.args.map Octets.ofText
      .ok (dir, ← jobProgram ⟨files, dir⟩ searchPath (Octets.ofText job.program) args)
    match found with
    | .error fault => refused fault
    | .ok (dir, program) =>
      let start := State.fresh (.start files) Machine.firstDescriptors dir env [] Utility.Mode.mask
        jobProcess []
      let (r, s) := Turn.runProgram (perform taskFuel) program start
      let outcome := match r with
        | .ok outcome => outcome
        | .error _ => .killed 9
      let m := s.machine
      ⟨.ok outcome, m.files.withoutLoneNumbers, Text.ofBytes m.output, Text.ofBytes m.errors⟩

end BenchCheckout.Shell
