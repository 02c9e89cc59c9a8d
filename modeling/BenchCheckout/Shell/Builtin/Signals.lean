import BenchCheckout.Shell.Builtin.Basic

/-!
# Signals

`kill` sends a signal to this process, to one that waits for it, or to one that it has started and
not waited for. `trap` tells what is done when a signal comes, or at the end.
-/

namespace BenchCheckout.Shell.Builtin

open Turn

/-- The number above those of all signals. -/
def signalLimit : Nat := 65

/-- A signal by its number or its name; zero has a name only as the end of the shell. -/
def signal? (namesEnd : Bool) (w : String) : Option Nat :=
  let ds := w.toList
  if ds ≠ [] ∧ ds.all Char.isDigit then
    let n := Number.decimal ds
    if n < signalLimit then some n else none
  else
    let name := String.ofList (ds.map Char.toUpper)
    if namesEnd ∧ name = "EXIT" then some 0
    else (ExitStatus.signalNames.findIdx? (· == name)).map (· + 1)

def signalName (n : Nat) : String :=
  if n = 0 then "EXIT" else (ExitStatus.signalName? n).getD n.repr

/-- Signals that a process outlives if it does not care for them. -/
def isHarmless (signal : Nat) : Bool := signal ∈ [0, 17, 18, 19, 20, 21, 22, 23, 28]

/-- What the shell does when a signal comes to it. -/
def receive (signal : Nat) : Turn Unit := do
  let s ← get
  if signal = 9 then throw (.killed signal)
  else match s.traps.find? (·.1 == signal) with
    | some (_, "") => pure ()
    | some _ => set { s with pendingTraps := signal :: s.pendingTraps.filter (· ≠ signal) }
    | none =>
      if isHarmless signal then pure ()
      else if s.isBackground ∧ (signal = 2 ∨ signal = 3) then pure ()
      else throw (.killed signal)

/-- The errand that a word of a percent sign means. -/
def errandAt? (s : State) (w : String) : Option Errand :=
  match w.toList with
  | '%' :: ds =>
    if ds ≠ [] ∧ ds.all Char.isDigit then s.errands[Number.decimal ds - 1]?
    else s.errands.getLast?
  | _ => none

/-- The process that is always there. No signal does anything to it. -/
def firstProcess : Nat := 1

/-- Send a signal to a process, and tell whether there is one. -/
def sendTo (signal process : Nat) : Turn Bool := do
  let s ← get
  if process = s.process ∨ process = 0 then
    if signal ≠ 0 then receive signal
    pure true
  else if process ∈ s.parents then
    let signals := s.machine.signals ++ [(process, signal)]
    set { s with machine := { s.machine with signals } }
    pure true
  else pure (process == firstProcess || s.errands.any fun e => e.process == process && !e.isNoted)

/-- Send a signal to each of the targets, and tell whether all were there. -/
def sendEach (signal : Nat) : List String → Turn Bool
  | [] => pure true
  | w :: ws => do
    let s ← get
    let process ← match errandAt? s w with
      | some e => pure e.process
      | none =>
        if w.startsWith "%" then fault ("No such job: " ++ w)
        else if w.startsWith "-" then count (String.ofList (w.toList.drop 1))
        else count w
    if ← sendTo signal process then sendEach signal ws
    else
      warn "No such process\n"
      let _ ← sendEach signal ws
      pure false

def killUsage {α : Type} : Turn α :=
  fault ("Usage: kill [-s sigspec | -signum | -sigspec] [pid | job]... or\n" ++
    "kill -l [exitstatus]")

/-- The names of signals, or the one that a status tells of. -/
def listSignals : List String → Turn Nat
  | [] => do
    print ("0\n" ++ String.join (ExitStatus.signalNames.map (· ++ "\n")))
    pure 0
  | w :: _ => do
    let n ← count w
    let n := if 128 < n then n - 128 else n
    if 0 < n ∧ n < signalLimit then
      print (signalName n ++ "\n")
      pure 0
    else fault ("invalid signal number or exit status: " ++ w)

def kill (args : List String) : Turn Nat := do
  let attached := match args with
    | w :: ws =>
      match w.toList with
      | '-' :: name => (signal? false (String.ofList name)).map (·, ws)
      | _ => none
    | [] => none
  let (signal, lists, targets) ← match attached with
    | some (n, ws) => pure (n, false, ws)
    | none => do
      let (found, words) ← options ['l'] ['s'] args
      let named ← match found.find? (·.1 == 's') with
        | some (_, name) =>
          match signal? false name with
          | some n => pure (some n)
          | none => fault ("invalid signal number or name: " ++ name)
        | none => pure none
      pure (named.getD 15, found.any (·.1 == 'l'), words)
  if lists then listSignals targets
  else if targets.isEmpty then killUsage
  else return if ← sendEach signal targets then 0 else 1

/-! ## Traps -/

def setTrap (signal : Nat) (action : Option String) : Turn Unit := modify fun s =>
  let others := s.traps.filter (·.1 ≠ signal)
  { s with traps := match action with
      | some a => (signal, a) :: others
      | none => others }

def setTraps (action : Option String) : List String → Turn Nat
  | [] => pure 0
  | w :: ws => do
    match signal? true w with
    | some n => do
      setTrap n action
      setTraps action ws
    | none => do
      printError ("trap: " ++ w ++ ": bad trap\n")
      pure 1

def trap (args : List String) : Turn Nat := do
  match ← plainWords args with
  | [] => do
    let traps := (← get).traps.mergeSort fun a b => a.1 ≤ b.1
    print <| String.join <| traps.map fun (n, action) =>
      "trap -- " ++ inQuotes action ++ " " ++ signalName n ++ "\n"
    pure 0
  | w :: ws =>
    let isNumber := w.toList ≠ [] && w.toList.all Char.isDigit
    if ws.isEmpty ∨ (isNumber ∧ (signal? true w).isSome) then setTraps none (w :: ws)
    else setTraps (if w = "-" then none else some w) ws

end BenchCheckout.Shell.Builtin
