import BenchCheckout.Action

/-!
# Running external programs

`ToolCommand.tryRun` starts a configured program and tells whether it succeeded; `ToolCommand.run`
fails where it did not. `findProgram` tells where a program is, without starting it.
-/

namespace BenchCheckout

namespace ToolCommand

/-- The job that a command makes with its placeholders filled in. -/
def job (tool : ToolCommand) (bindings : List Template.Binding) (cwd : String) : Job :=
  ⟨tool.program, tool.expandArgs bindings, cwd⟩

/-- Where the log lines of this module come from. -/
def area : String := "d4j_prep::tool"

/-- Run to the end; only a program that cannot be started fails. -/
def status (tool : ToolCommand) (step : String) (bindings : List Template.Binding) (cwd : String) :
    Action ExitStatus := do
  let job := tool.job bindings cwd
  Action.log ⟨.debug, area, "running",
    [("step", Text.quoted step), ("program", tool.program), ("args", Text.quotedList job.args),
      ("cwd", cwd)]⟩
  match ← Action.launch job with
  | .error fault => Action.failWith (.notStarted step tool.program fault)
  | .ok status =>
    Action.log ⟨.debug, area, "finished", [("step", Text.quoted step), ("status", status.text)]⟩
    pure status

/-- Run to the end, and tell whether the program succeeded. -/
def tryRun (tool : ToolCommand) (step : String) (bindings : List Template.Binding) (cwd : String) :
    Action Bool := do
  return (← tool.status step bindings cwd).isSuccess

/-- Run to the end; a program that does not succeed fails. -/
def run (tool : ToolCommand) (step : String) (bindings : List Template.Binding) (cwd : String) :
    Action Unit := do
  let status ← tool.status step bindings cwd
  if status.isSuccess then pure () else Action.failWith (.toolFailed step status)

end ToolCommand

/-! ## Finding a program -/

/-- The directories of a search path, in order. An empty one is the working directory. -/
def searchDirs (searchPath : String) : List String :=
  (Path.cut ':' searchPath.toList).map String.ofList

/-- A program's file as a shell would look for it: a path of more than one component as it is, a
bare name in the directories of the search path. -/
def findProgram (files : FileTree) (cwd : Location) (searchPath : Option String)
    (program : String) : Option String :=
  if 1 < (Path.components program).length then
    if files.isFile cwd program then some program else none
  else
    searchPath.bind fun p =>
      ((searchDirs p).map (Path.join · program)).find? (files.isFile cwd ·)

end BenchCheckout
