import BenchCheckout.Shell.Builtin.Directory
import BenchCheckout.Shell.Builtin.Line
import BenchCheckout.Shell.Builtin.Names
import BenchCheckout.Shell.Builtin.Signals
import BenchCheckout.Shell.Builtin.Variables
import BenchCheckout.Shell.Condition
import BenchCheckout.Shell.Printing
import BenchCheckout.Utility.Mode

/-!
# The built-in commands

`Builtin.table` holds the built-in commands that run no other commands. Each of them takes its words
and tells its status.
-/

namespace BenchCheckout.Shell.Builtin

open Turn

/-! ## Printing and testing -/

def echo (args : List String) : Turn Nat := do
  print (Printing.echo args)
  pure 0

def printf (args : List String) : Turn Nat := do
  match ← plainWords args with
  | [] => fault "usage: printf format [arg ...]"
  | format :: words => do
    let p := Printing.formatted format words
    print (String.ofList p.text)
    eachOf (fun c => warn c.text) p.complaints
    match p.stop with
    | some .noKind => fault "missing format character"
    | some (.badDirective directive) => fault (directive ++ ": invalid directive")
    | some .asked | none => pure (if p.complaints.isEmpty then 0 else 1)

def condition (words : List String) : Turn Nat := do
  match Condition.holds (← get).scene words with
  | .ok true => pure 0
  | .ok false => pure 1
  | .error text => fault text

/-- A condition whose last word starts with a closing bracket. -/
def bracketed (args : List String) : Turn Nat :=
  match args.getLast? with
  | some last => if last.startsWith "]" then condition args.dropLast else fault "missing ]"
  | none => fault "missing ]"

/-! ## Leaving -/

/-- Leave loops, or the rounds of them. -/
def leaveLoop (skip : Skip) (args : List String) : Turn Nat := do
  let n ← match args with
    | w :: _ => do
      let n ← count w
      if n = 0 then fault ("Illegal number: " ++ w) else pure n
    | [] => pure 1
  let s ← get
  let n := min n s.loopDepth
  if 0 < n then set { s with skip, skipCount := n }
  pure 0

/-- Leave a function or a file. -/
def leaveFunction (args : List String) : Turn Nat := do
  match args with
  | w :: _ => do
    let n ← count w
    modify ({ · with skip := .function })
    pure n
  | [] => do
    modify ({ · with skip := .functionAsIs })
    return (← get).status

def exit (args : List String) : Turn Nat := do
  if let w :: _ := args then
    let n ← count w
    modify ({ · with savedStatus := some n })
  throw .exit

/-! ## Errands -/

/-- Wait for commands. They have ended already. -/
def waitFor : Nat → List String → Turn Nat
  | status, [] => pure status
  | status, w :: ws => do
    let s ← get
    let errand ←
      if w.startsWith "%" then
        match errandAt? s w with
        | some e => pure (some e)
        | none => fault ("No such job: " ++ w)
      else do
        let process ← count w
        pure (s.errands.find? (·.process == process))
    match errand with
    | none => waitFor status ws
    | some e => do
      if !e.isNoted then printError e.outcome.notice
      let told (f : Errand) : Errand :=
        if f.process = e.process then { f with isNoted := true, isTold := true } else f
      modify fun s => { s with errands := s.errands.map told }
      waitFor e.outcome.code ws

def wait (args : List String) : Turn Nat := do
  match ← plainWords args with
  | [] => do
    modify fun s => { s with errands := s.errands.map ({ · with isNoted := true, isTold := true }) }
    pure 0
  | words => waitFor 127 words

/-! ## Limits -/

/-- The permissions that a class of users keeps under a mask, in letters. -/
def keptLetters (mask unit : Nat) : String :=
  let bits := 7 - mask / unit % 8
  String.ofList ((if bits / 4 % 2 = 1 then ['r'] else []) ++
    (if bits / 2 % 2 = 1 then ['w'] else []) ++ (if bits % 2 = 1 then ['x'] else []))

/-- How the permissions that are kept are changed by clauses of letters. Only the last clause may be
empty. -/
def maskChange? (text : String) : Option (Nat → Nat) :=
  let clauses := Utility.Mode.clauses text.toList
  let clauses := if clauses.getLast? = some [] then clauses.dropLast else clauses
  clauses.foldl (fun change? clause => do
    let change ← change?
    let whole := if clause.head?.any Utility.Mode.isOperator then 'a' :: clause else clause
    if 't' ∈ whole then none
    else
      let next ← Utility.Mode.clause? whole
      some fun kept => next false (change kept)) (some id)

/-- Show or set the permissions that new files do not get. -/
def fileMask (args : List String) : Turn Nat := do
  let (found, words) ← options ['S'] [] args
  let mask := (← get).mask
  match words with
  | [] => do
    print <|
      if found.isEmpty then Utility.Mode.digits mask ++ "\n"
      else "u=" ++ keptLetters mask 64 ++ ",g=" ++ keptLetters mask 8 ++ ",o=" ++
        keptLetters mask 1 ++ "\n"
    pure 0
  | w :: _ => do
    let mask ←
      if w.toList.head?.any Char.isDigit then
        if w.toList.all Printing.isOctal then pure (Utility.Mode.octal w.toList % 0o1000)
        else fault ("Illegal number: " ++ w)
      else match maskChange? w with
        | some change => pure (0o777 - change (0o777 - mask) % 0o1000)
        | none => fault ("Illegal mode: " ++ w)
    modify ({ · with mask })
    pure 0

def limit (args : List String) : Turn Nat := do
  let letters := ['H', 'S', 'a', 't', 'f', 'd', 's', 'c', 'm', 'l', 'p', 'n', 'v', 'w', 'r']
  let (_, words) ← options letters [] args
  if words.isEmpty then print "unlimited\n"
  pure 0

def times (_ : List String) : Turn Nat := do
  print (String.join (List.replicate 2 "0m0.000000s 0m0.000000s\n"))
  pure 0

/-- The commands that run no other commands. -/
def table : List (String × (List String → Turn Nat)) :=
  [(":", fun _ => pure 0), ("true", fun _ => pure 0), ("false", fun _ => pure 1), ("echo", echo),
    ("printf", printf), ("test", condition), ("[", bracketed), ("cd", changeDir),
    ("chdir", changeDir), ("pwd", workingDir), ("export", mark "export" true false),
    ("readonly", mark "readonly" false true), ("unset", unset), ("local", hideNames),
    ("set", setOptions), ("shift", shiftArgs), ("getopts", getOptions), ("read", readLine),
    ("break", leaveLoop .loop), ("continue", leaveLoop .round), ("return", leaveFunction),
    ("exit", exit), ("kill", kill), ("trap", trap), ("wait", wait), ("type", describeEach),
    ("hash", hash), ("alias", aliasNames), ("unalias", unalias), ("umask", fileMask),
    ("ulimit", limit), ("times", times), ("jobs", fun _ => pure 0),
    ("fg", fun _ => fault "No current job"), ("bg", fun _ => fault "No current job")]

def find? (name : String) : Option (List String → Turn Nat) :=
  (table.find? (·.1 == name)).map (·.2)

end BenchCheckout.Shell.Builtin
