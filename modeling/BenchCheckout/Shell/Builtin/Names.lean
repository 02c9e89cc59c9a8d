import BenchCheckout.Machine.Program
import BenchCheckout.Shell.Builtin.Basic

/-!
# What a name of a command means

A name means an alias, a function, a built-in command or a program. `type`, `command -v` and `hash`
tell what it is, and `alias` and `unalias` change it.
-/

namespace BenchCheckout.Shell.Builtin

open Turn

/-- Built-in commands whose faults end the shell. -/
def isSpecial (name : String) : Bool := name ∈ specialNames

/-- The other built-in commands. -/
def plainNames : List String :=
  ["alias", "bg", "cd", "chdir", "command", "echo", "false", "fg", "getopts", "hash", "jobs",
    "kill", "printf", "pwd", "read", "test", "[", "true", "type", "ulimit", "umask", "unalias",
    "wait"]

def isBuiltin (name : String) : Bool := isSpecial name || name ∈ plainNames

/-- Built-in commands whose words may be assignments. -/
def takesAssignments (name : String) : Bool :=
  name ∈ ["alias", "export", "local", "readonly"]

/-! ## Programs -/

/-- The search path. -/
def searchPath (s : State) : String := (s.value? "PATH").getD State.defaultPath

/-- The first file of a name in the directories. -/
def searched (scene : Scene) (name : String) : List String → Fault → Except Fault String
  | [], fault => .error fault
  | dir :: dirs, fault =>
    let path := SearchPath.inside dir name
    match scene.find path with
    | .error .noEntry | .error .notDirectory => searched scene name dirs fault
    | .error f => searched scene name dirs f
    | .ok (_, e) => if e.isFile then .ok path else searched scene name dirs .denied

/-- The file that a name without a slash means in a search path. -/
def programFile (scene : Scene) (dirs name : String) : Except Fault String :=
  searched scene name (SearchPath.dirs dirs) .noEntry

/-- Why a program cannot be started, in the words of the shell. -/
def startFault (fault : Fault) : String :=
  if fault = .noEntry ∨ fault = .notDirectory then "not found" else fault.summary

/-- What a name means. -/
inductive Meaning where
  | keyword
  | aliasOf (text : String)
  | function
  | special
  | builtin
  /-- `isKnown`: it has been found before. -/
  | program (path : String) (isKnown : Bool)
  | unknown
deriving DecidableEq, Repr

def meaning (s : State) (dirs name : String) : Meaning :=
  if name ∈ Token.keywords then .keyword
  else match s.aliases.find? (·.1 == name) with
    | some (_, text) => .aliasOf text
    | none =>
      if '/' ∈ name.toList then if s.scene.exists? name then .program name false else .unknown
      else if s.functions.any (·.1 == name) ∧ !isSpecial name then .function
      else if isSpecial name then .special
      else if isBuiltin name then .builtin
      else match programFile s.scene dirs name with
        | .ok path => .program path (name ∈ s.hashed)
        | .error _ => .unknown

def aliasText (name text : String) : String := name ++ "=" ++ inQuotes text

/-- Note a program that was found in the search path. -/
def noteProgram (dirs name : String) : Turn Unit := modify fun s =>
  if '/' ∈ name.toList ∨ name ∈ s.hashed ∨ dirs ≠ searchPath s then s
  else { s with hashed := s.hashed ++ [name] }

/-- Tell what a name means, in a sentence or in short. -/
def describe (dirs : String) (inFull : Bool) (name : String) : Turn Nat := do
  let line (full short : String) : Turn Nat := do
    print ((if inFull then name ++ full else short) ++ "\n")
    pure 0
  match meaning (← get) dirs name with
  | .keyword => line " is a shell keyword" name
  | .aliasOf text => line (" is an alias for " ++ text) ("alias " ++ aliasText name text)
  | .function => line " is a shell function" name
  | .special => line " is a special shell builtin" name
  | .builtin => line " is a shell builtin" name
  | .program path isKnown => do
    if !isKnown then noteProgram dirs name
    line ((if isKnown then " is a tracked alias for " else " is ") ++ path) path
  | .unknown => do
    if inFull then print (name ++ ": not found\n")
    pure 127

def describeEach : List String → Turn Nat
  | [] => pure 0
  | w :: ws => do
    let a ← describe (searchPath (← get)) true w
    let b ← describeEach ws
    pure (if a = 0 then b else a)

/-- The place of a name in the table of programs. -/
def bucket (name : String) : Nat :=
  let codes := name.toList.map Char.toNat
  ((16 * codes.headD 0 + codes.foldl (· + ·) 0) % 0x8000) % 31

/-- The programs that were found, in the order of their places. -/
def known (s : State) : String :=
  let names := s.hashed.mergeSort fun a b => bucket a ≤ bucket b
  String.join <| names.filterMap fun name =>
    ((programFile s.scene (searchPath s) name).toOption).map (· ++ "\n")

/-- Look for programs, as if they were to be started. -/
def hash (args : List String) : Turn Nat := do
  let (found, words) ← options ['r'] [] args
  let one (w : String) : Turn Nat := do
    let s ← get
    if '/' ∈ w.toList ∨ isBuiltin w ∨ s.functions.any (·.1 == w) then pure 0
    else match programFile s.scene (searchPath s) w with
      | .ok _ => do
        noteProgram (searchPath s) w
        pure 0
      | .error fault => do
        warn (w ++ ": " ++ startFault fault)
        pure 1
  let rec all : List String → Turn Nat
    | [] => pure 0
    | w :: ws => do
      let a ← one w
      let b ← all ws
      pure (max a b)
  if found ≠ [] then
    modify ({ · with hashed := [] })
    pure 0
  else if words.isEmpty then
    print (known (← get))
    pure 0
  else all words

/-! ## Aliases -/

def setAlias : List String → Turn Nat
  | [] => pure 0
  | w :: ws => do
    let s ← get
    let (first, rest) := (w.toList.take 1, w.toList.drop 1)
    let ok ← match rest.dropWhile (· ≠ '=') with
      | _ :: text => do
        let name := String.ofList (first ++ rest.takeWhile (· ≠ '='))
        let others := s.aliases.filter (·.1 != name)
        set { s with aliases := (name, String.ofList text) :: others }
        pure 0
      | [] =>
        match s.aliases.find? (·.1 == w) with
        | some (name, text) => do
          print (aliasText name text ++ "\n")
          pure 0
        | none => do
          printError ("alias: " ++ w ++ " not found\n")
          pure 1
    return max ok (← setAlias ws)

def aliasNames (args : List String) : Turn Nat := do
  if args.isEmpty then
    let all := (← get).aliases.mergeSort fun a b => a.1 ≤ b.1
    print (String.join (all.map fun (n, t) => aliasText n t ++ "\n"))
    pure 0
  else setAlias args

def unalias (args : List String) : Turn Nat := do
  let (found, words) ← options ['a'] [] args
  if found ≠ [] then
    modify ({ · with aliases := [] })
    pure 0
  else
    let rec all : List String → Turn Nat
      | [] => pure 0
      | w :: ws => do
        let s ← get
        let isThere := s.aliases.any (·.1 == w)
        if isThere then set { s with aliases := s.aliases.filter (·.1 != w) }
        else printError ("unalias: " ++ w ++ " not found\n")
        return max (if isThere then 0 else 1) (← all ws)
    all words

end BenchCheckout.Shell.Builtin
