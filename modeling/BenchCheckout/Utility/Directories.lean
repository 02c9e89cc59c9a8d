import BenchCheckout.Utility.Desk
import BenchCheckout.Utility.Mode
import BenchCheckout.Utility.Names

/-!
# Making and removing directories

`mkdir` and `rmdir`.
-/

namespace BenchCheckout.Utility

open Step

namespace MakeDir

/-- Make a directory, and tell why that was not possible. -/
def make (verbose : Bool) (path : String) : Step (Option Fault) := do
  let d ← get
  match d.machine.files.createDir d.cwd (Octets.toText path) with
  | .ok files => do
    setFiles files
    if verbose then say (d.name ++ ": created directory " ++ Quoting.always path ++ "\n")
    pure none
  | .error fault => pure (some fault)

/-- Make the directories above another one where they are missing. The first one that cannot be gone
into is told. -/
def makeAbove (verbose : Bool) : List String → Step (Option (String × Fault))
  | [] => pure none
  | path :: paths => do
    let failed ← make verbose path
    match ← stat true path with
    | .ok (_, .directory) => makeAbove verbose paths
    | .ok _ => pure (some (path, .notDirectory))
    | .error .noEntry => pure (some (path, failed.getD .noEntry))
    | .error fault => pure (some (path, fault))

def cannot (path : String) (fault : Fault) : Step Unit :=
  complainOf ("cannot create directory " ++ Quoting.plain path) fault

def makeOne (parents verbose : Bool) (path : String) : Step Unit := do
  if parents then
    match ← makeAbove verbose (Names.above path) with
    | some (above, fault) => cannot above fault
    | none =>
      if let some fault := ← make verbose path then
        match ← stat true path with
        | .ok (_, .directory) => pure ()
        | .error .tooManyLinks => complainOf ("cannot stat " ++ Quoting.plain path) .tooManyLinks
        | _ => cannot path fault
  else if let some fault := ← make verbose path then cannot path fault

def rules : List OptionRule :=
  [.attached "context" ['Z'] ["context"], .valued "mode" ['m'] ["mode"],
    .flag "parents" ['p'] ["parents"], .flag "verbose" ['v'] ["verbose"]]

def utility : Step Unit :=
  withOptions rules 1 fun o =>
    match o.value? "mode" with
    | some mode =>
      if o.words.isEmpty then complainUsage 1 "missing operand"
      else if (Mode.change? mode).isNone then complain ("invalid mode " ++ Quoting.always mode)
      else forEach (makeOne (o.has "parents") (o.has "verbose")) o.words
    | none =>
      if o.words.isEmpty then complainUsage 1 "missing operand"
      else forEach (makeOne (o.has "parents") (o.has "verbose")) o.words

end MakeDir

namespace RemoveDir

/-- The path is a link, with a slash behind it, to a directory. -/
def isSlashedLink (s : Scene) (path : String) : Bool :=
  Names.endsInSlash path && s.isLink (Names.withoutSlashes path) &&
    (match s.find path with
      | .ok (_, e) => e.isDirectory
      | .error fault => fault != .noEntry)

/-- Remove an empty directory, and tell whether those above it may be removed. -/
def removeDir (o : Options) (isParent : Bool) (path : String) : Step Bool := do
  let d ← get
  if o.has "verbose" then
    say (d.name ++ ": removing directory, " ++ Quoting.always path ++ "\n")
  match d.machine.files.removeDir d.cwd (Octets.toText path) with
  | .ok files => do
    setFiles files
    pure true
  | .error fault => do
    let isIgnored := o.has "ignore" && fault = .notEmpty
    if !isIgnored then
      let what := if isParent then "failed to remove directory " else "failed to remove "
      if fault = .notDirectory ∧ isSlashedLink (← scene) path then
        complain (what ++ Quoting.always path ++ ": Symbolic link not followed")
      else complainOf (what ++ Quoting.always path) fault
    pure false

/-- Remove directories as long as that is possible. -/
def removeAll (o : Options) : List String → Step Unit
  | [] => pure ()
  | path :: paths => do
    if ← removeDir o true path then removeAll o paths

def removeOne (o : Options) (path : String) : Step Unit := do
  if ← removeDir o false path then
    if o.has "parents" then removeAll o (Names.above (Names.withoutSlashes path)).reverse

def rules : List OptionRule :=
  [.flag "ignore" [] ["ignore-fail-on-non-empty"], .flag "parents" ['p'] ["path", "parents"],
    .flag "verbose" ['v'] ["verbose"]]

def utility : Step Unit :=
  withOptions rules 1 fun o =>
    if o.words.isEmpty then complainUsage 1 "missing operand"
    else forEach (removeOne o) o.words

end RemoveDir

end BenchCheckout.Utility
