import BenchCheckout.Utility.Desk
import BenchCheckout.Utility.Names

/-!
# Backups

A file that is to be replaced can be moved to another name first: the name with a suffix, or with
the next free number.
-/

namespace BenchCheckout.Utility

inductive BackupKind where
  | simple
  | numbered
  /-- Numbered if there are numbered ones already. -/
  | existing
deriving DecidableEq, Repr

structure Backup where
  kind : BackupKind
  suffix : String

namespace Backup

def kind? (name : String) : Option (Option BackupKind) :=
  match name with
  | "none" | "off" => some none
  | "simple" | "never" => some (some .simple)
  | "existing" | "nil" => some (some .existing)
  | "numbered" | "t" => some (some .numbered)
  | _ => none

/-- The backups that options ask for. -/
def ofOptions (o : Options) : Option Backup :=
  let suffix := (o.value? "suffix").getD "~"
  let kind := match o.last? ["backup", "simpleBackup"] with
    | some "backup" =>
      match o.value? "backup" with
      | some name => (kind? name).getD (some .existing)
      | none => some .existing
    | some _ => some .existing
    | none => if (o.value? "suffix").isSome then some .existing else none
  kind.map (⟨·, suffix⟩)

/-- The number of a numbered backup of a name. -/
def numberOf? (name candidate : String) : Option Nat :=
  let front := (name ++ ".~").toList
  if front.isPrefixOf candidate.toList then
    let rest := candidate.toList.drop front.length
    let ds := rest.takeWhile Char.isDigit
    if ds ≠ [] ∧ rest.drop ds.length = ['~'] then (String.ofList ds).toNat? else none
  else none

/-- The path that a file is moved to. -/
def pathFor (b : Backup) (s : Scene) (path : String) : String :=
  let name := Names.base path
  let names := (s.list (Names.dir path)).toOption.getD []
  let greatest := (names.filterMap (numberOf? name)).foldl max 0
  let isNumbered := b.kind = .numbered ∨ (b.kind = .existing ∧ 0 < greatest)
  if isNumbered then path ++ ".~" ++ (greatest + 1).repr ++ "~" else path ++ b.suffix

open Step in
/-- Move a file away, and tell where to. -/
def moveAway (b : Backup) (path : String) : Step (Option String) := do
  let d ← get
  let dest := b.pathFor (← scene) path
  match d.machine.files.rename d.cwd (Octets.toText path) (Octets.toText dest) with
  | .ok files => do
    setFiles files
    pure (some dest)
  | .error fault => do
    complainOf ("cannot backup " ++ Quoting.always path) fault
    pure none

end Backup

end BenchCheckout.Utility
