import BenchCheckout.Utility.Copy

/-!
# Moving files

`mv` gives files other names and places.
-/

namespace BenchCheckout.Utility.Move

open Step

structure Manner where
  keepsOld : Bool
  /-- Only what is older is replaced. -/
  keepsNewer : Bool
  asks : Bool
  verbose : Bool
  backup : Option Backup

/-- The source and the destination are there and may be one file for another. -/
def mayReplace (m : Manner) (source dest : String) (a b : Copy.Found) : Step Bool := do
  let refuse (text : String) : Step Bool := do
    complain text
    pure false
  let s ← scene
  if s.files.isSameFile a.1 b.1 ∧ (Copy.isSameName s source dest ∨ a.2.isDirectory) then
    refuse (Quoting.always source ++ " and " ++ Quoting.always dest ++ " are the same file")
  else if m.keepsOld ∨ m.keepsNewer ∧ !a.2.isDirectory then pure false
  else
    let goesOn ← if m.asks then ask ("overwrite " ++ Quoting.always dest) else pure true
    if !goesOn then
      setStatus 1
      pure false
    else if a.2.isDirectory ∧ !b.2.isDirectory ∧ m.backup.isNone then
      refuse ("cannot overwrite non-directory " ++ Quoting.always dest ++ " with directory " ++
        Quoting.always source)
    else if !a.2.isDirectory ∧ b.2.isDirectory ∧ m.backup.isNone then
      refuse ("cannot overwrite directory " ++ Quoting.always dest ++ " with non-directory")
    else pure true

def cannot (source dest : String) (isSlashed : Bool) (fault : Fault) : Step Unit :=
  let front := "cannot move " ++ Quoting.always source ++ " to "
  match fault with
  | .invalidArgument => complain (front ++ "a subdirectory of itself, " ++ Quoting.always dest)
  | .notEmpty | .alreadyExists | .isDirectory =>
    complainOf ("cannot overwrite " ++ Quoting.always dest) fault
  | fault => complainOf (front ++ Quoting.always dest) (if isSlashed then .notDirectory else fault)

def moveOne (m : Manner) (source dest : String) : Step Unit := do
  match ← stat false source with
  | .error fault => complainOf ("cannot stat " ++ Quoting.always source) fault
  | .ok a =>
    let (ready, backup) ← match ← stat false dest with
      | .error .noEntry => pure (true, none)
      | .error fault => do
        complainOf ("cannot stat " ++ Quoting.always dest) fault
        pure (false, none)
      | .ok b =>
        if ← mayReplace m source dest a b then
          match m.backup with
          | some k => do pure (true, ← k.moveAway dest)
          | none => pure (true, none)
        else pure (false, none)
    if ready then
      let d ← get
      let s ← scene
      -- Between two names of one file the first one only goes away.
      let isSame := match s.findEntry dest with
        | .ok b => s.files.isSameFile a.1 b.1
        | .error _ => false
      let result :=
        if isSame then d.machine.files.removeFile d.cwd (Octets.toText source)
        else d.machine.files.rename d.cwd (Octets.toText source) (Octets.toText dest)
      match result with
      | .ok files => do
        setFiles files
        if m.verbose then
          let behind := backup.elim "" fun b => " (backup: " ++ Quoting.always b ++ ")"
          say ("renamed " ++ Quoting.always source ++ " -> " ++ Quoting.always dest ++ behind ++
            "\n")
      | .error fault =>
        if let some b := backup then
          if let .ok files := d.machine.files.rename d.cwd (Octets.toText b) (Octets.toText dest) then
            setFiles files
        cannot source dest (Names.endsInSlash dest && fault = .noEntry) fault

def moveInto (m : Manner) (dir : String) : List String → Step Unit
  | [] => pure ()
  | source :: sources => do
    moveOne m source (Names.concat dir (Names.base source))
    moveInto m dir sources

def rules : List OptionRule :=
  [.flag "debug" [] ["debug"], .flag "noCopy" [] ["no-copy"], .flag "swap" [] ["exchange"]] ++
    Copy.sharedRules

def utility : Step Unit :=
  withOptions rules 1 fun o => do
    let m : Manner :=
      { keepsOld := Copy.keepsOld o
        keepsNewer := Copy.keepsNewer o
        asks := o.last? ["force", "ask", "noClobber"] == some "ask"
        verbose := o.has "verbose"
        backup := Backup.ofOptions o }
    let plan ← Copy.planOf o
    match plan, m.backup.isSome && m.keepsOld with
    | .nothing, _ => pure ()
    | _, true => complainUsage 1 "options --backup and --no-clobber are mutually exclusive"
    | .into dir sources, false => moveInto m dir (Copy.sourcesOf o sources)
    | .pair source dest, false =>
      match Copy.sourcesOf o [source, dest] with
      | [source, dest] => moveOne m source dest
      | _ => pure ()

end BenchCheckout.Utility.Move
