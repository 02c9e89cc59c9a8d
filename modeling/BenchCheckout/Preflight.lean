import BenchCheckout.Tool

/-!
# Checking the prerequisites

`preflight` looks for each program and each file that a config names; `doctor` prints what it finds
and fails if something is missing.
-/

namespace BenchCheckout

/-- One prerequisite, and whether it is there. -/
structure Finding where
  label : String
  detail : String
  ok : Bool
deriving DecidableEq, Repr

namespace Preflight

/-- The programs of a config, with their labels. -/
def programs (config : Config) : List (String × String) :=
  [("downloader", config.downloader.program), ("extractor", config.extractor.program),
    ("build", config.build.command.program), ("instrumenter", config.instrumenter.command.program)]

/-- The files of a config, with their labels. -/
def requiredFiles (config : Config) : List (String × String) :=
  [("instrumenter jar", config.instrumenter.jar),
    ("support class", Path.join config.instrumenter.classesDir config.instrumenter.supportClass)]

def programFinding (files : FileTree) (cwd : Location) (searchPath : Option String)
    (label program : String) : Finding :=
  match findProgram files cwd searchPath program with
  | some path => ⟨label, path, true⟩
  | none => ⟨label, program ++ " not found on PATH", false⟩

def fileFinding (files : FileTree) (cwd : Location) (label path : String) : Finding :=
  ⟨label, path, files.isFile cwd path⟩

def findings (config : Config) (files : FileTree) (cwd : Location) (searchPath : Option String) :
    List Finding :=
  (programs config).map (fun (l, p) => programFinding files cwd searchPath l p) ++
    (requiredFiles config).map fun (l, p) => fileFinding files cwd l p

end Preflight

/-- The program's search path. -/
def Action.searchPath : Action (Option String) := fun host w => (.ok (host.env "PATH"), w)

/-- Look for all that a config names. -/
def preflight (config : Config) : Action (List Finding) := do
  let searchPath ← Action.searchPath
  Action.look fun files cwd => Preflight.findings config files cwd searchPath

namespace Preflight

/-- A text with blanks behind it up to a width. -/
def padded (width : Nat) (s : String) : String :=
  s ++ String.ofList (List.replicate (width - s.length) ' ')

def printFinding (f : Finding) : Action Unit := do
  let mark ← if f.ok then Action.painted (.hued .green) "✓" else Action.painted (.hued .red) "✗"
  Action.printLine ("  " ++ mark ++ " " ++ padded 17 f.label ++ " " ++
    (← Action.painted .dimmed f.detail))

def printFindings : List Finding → Action Unit
  | [] => pure ()
  | f :: fs => do
    printFinding f
    printFindings fs

/-- A line in a style. -/
def printPainted (style : Console.Style) (text : String) : Action Unit := do
  Action.printLine (← Action.painted style text)

/-- A blank line and the title of what comes next. -/
def printTitle (text : String) : Action Unit := do
  Action.printLine ("\n" ++ (← Action.painted (.boldHued .yellow) text))

/-- Where archives come from and where they are kept. -/
def printSources (config : Config) : Action Unit := do
  printTitle "Archives:"
  Action.printLine ("  Source: " ++ config.archiveBaseUrl)
  Action.printLine ("  Cache:  " ++ config.archiveDir)

def printHead (config : Config) : Action Unit := do
  printPainted (.boldHued .cyan) "d4j-prep Doctor"
  printPainted .dimmed (String.ofList (List.replicate 40 '='))
  printSources config
  printTitle "Prerequisites:"

/-- The prerequisites that are missing. -/
def missing (fs : List Finding) : Nat := (fs.filter (!·.ok)).length

end Preflight

/-- Print what a config needs and whether it is there. -/
def doctor (config : Config) : Action Unit := do
  Preflight.printHead config
  let findings ← preflight config
  Preflight.printFindings findings
  Action.printLine ""
  let missing := Preflight.missing findings
  if missing = 0 then pure () else Action.failWith (.missingPrerequisites missing)

end BenchCheckout
