import BenchCheckout.Shell.Task

/-!
# Running commands

What the commands of a shell do. `Doing.step` does a task by one step, and leaves the tasks inside
it to a function that it is given; `perform` ties the knot with fuel, so that it is total: a task
that is too deep ends as if it had been killed.
-/

namespace BenchCheckout.Shell

namespace Turn

variable (run : Doing)

/-- Note the line of a command, which is counted from the start of a function in it. -/
def noteLine (line : Nat) : Turn Unit := modify fun s =>
  { s with
    errorLine := line
    line := if s.functionLine = 0 then line else line - (s.functionLine - 1) }

/-! ## Traps -/

/-- The actions of traps whose signals have come. What is left when something is to be skipped has
to wait. -/
def runPending : List Nat → Turn Unit
  | [] => pure ()
  | signal :: signals => do
    let s ← get
    if s.skip ≠ .nothing then
      set { s with pendingTraps := signal :: signals ++ s.pendingTraps }
    else
      if let some (_, action) := s.traps.find? (·.1 == signal) then
        let _ ← runLines run action ⟨false, false, false⟩
        if (← get).skip ≠ .function then setStatus (s.savedStatus.getD s.status)
      runPending signals

def runTraps : Turn Unit := do
  let s ← get
  if s.pendingTraps ≠ [] then
    set { s with pendingTraps := [], savedStatus := some (s.savedStatus.getD s.status) }
    runPending run (s.pendingTraps.mergeSort)
    modify ({ · with savedStatus := s.savedStatus })

/-- There is a trap with an action. -/
def hasTraps (s : State) : Bool := s.traps.any (·.2 ≠ "")

/-! ## Loops -/

/-- What is to be skipped behind a round of a loop. -/
def skipRound : Turn Skip := do
  let s ← get
  match s.skip with
  | .loop | .round =>
    if s.skipCount ≤ 1 then
      set { s with skip := .nothing, skipCount := 0 }
      pure s.skip
    else
      set { s with skipCount := s.skipCount - 1 }
      pure .loop
  | skip => pure skip

def goesOn (skip : Skip) : Bool := skip == .nothing || skip == .round

/-- A step inside a loop. -/
def inLoop (t : Turn Nat) : Turn Nat := do
  modify fun s => { s with loopDepth := s.loopDepth + 1 }
  let status ← t
  modify fun s => { s with loopDepth := s.loopDepth - 1 }
  pure status

def rounds (success : Bool) (condition body : Command) (isTested : Bool) (status : Nat) :
    Turn Nat := do
  let next (status : Nat) : Turn Nat := run (.rounds success condition body isTested status)
  let i ← run (.command condition true false)
  match ← skipRound with
  | .nothing =>
    if (i = 0) ≠ success then pure status
    else
      let status ← run (.command body isTested false)
      if goesOn (← skipRound) then next status else pure status
  | .round => next status
  | .function => pure i
  | _ => pure status

/-- The body of a loop for each of the values. -/
def eachValue (name : String) (body : Command) (isTested : Bool) : Nat → List String → Turn Nat
  | status, [] => pure status
  | _, v :: vs => do
    assign name v
    let status ← run (.command body isTested false)
    if goesOn (← skipRound) then eachValue name body isTested status vs else pure status

/-- The fields of words. -/
def allFields : List Word → Turn (List String)
  | [] => pure []
  | w :: ws => do
    let fields ← fieldsOf (output run) w
    return fields ++ (← allFields ws)

/-! ## Choices -/

def fitsAny (subject : String) : List Word → Turn Bool
  | [] => pure false
  | w :: ws => do
    if (← patternOf (output run) w).fits subject.toList then pure true else fitsAny subject ws

def choose (subject : String) (isTested isLast : Bool) : List Arm → Turn Nat
  | [] => pure 0
  | .case patterns body :: arms => do
    if (← get).skip ≠ .nothing then pure 0
    else if ← fitsAny run subject patterns then
      match body with
      | .nothing => pure 0
      | body =>
        if (← get).skip ≠ .nothing then pure 0 else run (.command body isTested isLast)
    else choose subject isTested isLast arms

/-! ## Processes -/

/-- An opening from which nothing can be read. -/
def openNull : Turn Nat := do
  let s ← get
  let (index, machine) := s.machine.addOpening ⟨.null, 0, true, false, false⟩
  set { s with machine }
  pure index

def runSubshell (line : Nat) (body : Command) (rs : List Redirect)
    (isBackground isTested isLast : Bool) : Turn Nat := do
  noteLine line
  let targets ← targetsOf (output run) rs
  let inside (isTested : Bool) : Turn Nat := do
    redirectAll (output run) false targets
    run (.command body isTested true)
  if !isBackground && isLast && !hasTraps (← get) then
    let _ ← inside isTested
    throw .ended
  else if isBackground then
    let nothing ← openNull
    let (process, outcome) ← fork run true do
      direct 0 (some nothing)
      inside false
    modify fun s => { s with
      lastBackground := some process
      errands := s.errands ++ [⟨process, outcome, false, false⟩] }
    pure 0
  else
    let (_, outcome) ← fork run false (inside isTested)
    await outcome

/-- The commands of a pipeline from one on, which reads what the one before it has written. -/
def stages (isBackground isTested : Bool) (source : Option Nat) :
    List Command → Turn (List (Nat × ExitStatus))
  | [] => pure []
  | c :: cs => do
    let pipe ← do
      if cs.isEmpty then pure none
      else
        let s ← get
        let (ends, machine) := s.machine.openPipe .empty
        set { s with machine }
        pure (some ends)
    let first ← fork run isBackground do
      if let some index := source then direct 0 (some index)
      if let some (_, sink) := pipe then direct 1 (some sink)
      run (.command c isTested true)
    return first :: (← stages isBackground isTested (pipe.map (·.1)) cs)

/-- Wait for processes; the status is that of the last one. -/
def awaitAll : Nat → List ExitStatus → Turn Nat
  | status, [] => pure status
  | _, outcome :: outcomes => do
    let status ← await outcome
    awaitAll status outcomes

def runPipeline (commands : List Command) (waits isTested : Bool) : Turn Nat := do
  if waits then
    let found ← stages run false isTested none commands
    awaitAll 0 (found.map (·.2))
  else
    let found ← stages run true isTested (some (← openNull)) commands
    if let some (process, outcome) := found.getLast? then
      modify fun s => { s with
        lastBackground := some process
        errands := s.errands ++ [⟨process, outcome, false, false⟩] }
    pure 0

/-! ## Words of a command -/

/-- The words of a command: those that are passed over, fields, and those to be expanded yet. -/
structure Words where
  passed : List String
  fields : List String
  rest : List Word

/-- Expand words until there is a field. -/
def fill (passed : List String) : List Word → Turn Words
  | [] => pure ⟨passed, [], []⟩
  | w :: ws => do
    match ← fieldsOf (output run) w with
    | [] => fill passed ws
    | fields => pure ⟨passed, fields, ws⟩

/-- The words behind `command` and its options, and the search path that these ask for. `none`: it
is `command` itself that is to be run; its words are then in the second part. -/
def behindCommand : Nat → Words → Option String → Turn (Option (Option String) × Words)
  | 0, w, _ => pure (none, w)
  | n + 1, w, dirs => do
    let w ← if w.fields.isEmpty then fill run w.passed w.rest else pure w
    match w.fields with
    | [] => pure (none, w)
    | f :: fields =>
      match f.toList with
      | ['-', '-'] => do
        let w' : Words := ⟨w.passed ++ [f], fields, w.rest⟩
        let w' ← if fields.isEmpty then fill run w'.passed w'.rest else pure w'
        pure (if w'.fields.isEmpty then (none, w') else (some dirs, w'))
      | '-' :: c :: cs =>
        if (c :: cs).all (· = 'p') then
          behindCommand n ⟨w.passed ++ [f], fields, w.rest⟩ (some State.defaultPath)
        else pure (none, w)
      | _ => pure (some dirs, w)

/-- What runs a command. -/
inductive Runner where
  | builtin
  | function (f : Function)
  | program
  /-- There are no words. -/
  | nobody

/-- What the words of a command ask for. -/
structure Order where
  runner : Runner
  /-- A built-in command whose faults end the shell. -/
  isSpecial : Bool
  /-- Assignments are for this command alone. -/
  isLocal : Bool
  /-- The search path that is to be used in place of that of the shell. -/
  dirs : Option String
  /-- The words may be assignments. -/
  assigns : Bool
  words : Words

/-- Find out what runs a command. `order`: what words in front of these have said. -/
def orderOf : Nat → Order → Turn Order
  | 0, o => pure o
  | n + 1, o => do
    match o.words.fields with
    | [] => pure o
    | name :: fields =>
      let s ← get
      let isBehind := !o.words.passed.isEmpty
      let function := if isBehind then none else s.functions.find? (·.1 == name)
      match function with
      | some (_, f) => pure { o with runner := .function f, isLocal := true }
      | none =>
        if '/' ∈ name.toList ∨ !Builtin.isBuiltin name then
          pure { o with runner := .program, isLocal := true }
        else
          let isSpecial := if isBehind then o.isSpecial else Builtin.isSpecial name
          let o := { o with
            runner := .builtin, isSpecial
            isLocal := if isBehind then o.isLocal else !isSpecial
            assigns := Builtin.takesAssignments name }
          if name ≠ "command" then pure o
          else
            match ← behindCommand run 1000 ⟨o.words.passed ++ [name], fields, o.words.rest⟩ o.dirs with
            | (some dirs, words) => orderOf n { o with dirs, words }
            | (none, words) =>
              let k := o.words.passed.length
              pure { o with words :=
                ⟨words.passed.take k, words.passed.drop k ++ words.fields, words.rest⟩ }

/-- The fields of the words that are left. -/
def restFields (assigns : Bool) : List Word → Turn (List String)
  | [] => pure []
  | w :: ws => do
    let fields ←
      if assigns && w.isAssignment then do pure [← textOf (output run) .assignment w]
      else fieldsOf (output run) w
    return fields ++ (← restFields assigns ws)

/-! ## Simple commands -/

/-- Make the assignments in front of a command, and tell their texts. -/
def assignAll (isLocal exported : Bool) : List Word → Turn (List String)
  | [] => pure []
  | w :: ws => do
    let text ← textOf (output run) .assignment w
    if let some (name, value) := Builtin.definition? text then
      if isLocal then
        hide name
        assignMarked name (some value) true false
      else assignMarked name (some value) exported false
    return text :: (← assignAll isLocal exported ws)

/-- Write a trace of a command to an opening. -/
def trace (index : Option Nat) (texts : List String) : Turn Unit := do
  let s ← get
  if s.has 'x' && !s.isTracing then
    set { s with isTracing := true }
    let start := (s.value? "PS4").getD ""
    let (w, _) := (Source.ofText start.toList s.aliases s.documents).quotedText
    let shown ← match w with
      | .ok w => textOf (output run) .document w
      | .error _ => pure start
    modify fun s =>
      let line := Octets.toBytes (shown ++ String.intercalate " " texts ++ "\n")
      let machine := (index.bind fun i => (s.machine.write i line).toOption).getD s.machine
      { s with isTracing := false, machine }

/-- Run a built-in command. Its faults are told by a status unless it is a special one. -/
def runBuiltin (name : String) (isSpecial : Bool) (t : Turn Nat) : Turn Unit := do
  let before := (← get).command
  modify ({ · with command := some name })
  let whole : Turn Unit := do
    let status ← t
    if ← flush then setStatus status
    else
      warn (name ++ ": I/O error")
      setStatus (status ||| 1)
  let r ← caught whole
  modify ({ · with command := before, printed := "" })
  match r with
  | .error .fault => if isSpecial then throw .fault
  | .error leap => throw leap
  | .ok () => pure ()

def runFunction (f : Function) (args : List String) (isTested : Bool) : Turn Unit := do
  let s ← get
  set { s with
    args, optionIndex := 1, optionOffset := none, functionLine := f.line, loopDepth := 0 }
  let r ← caught (run (.command f.body isTested false))
  modify fun t => { t with
    args := s.args, optionIndex := s.optionIndex, optionOffset := s.optionOffset
    functionLine := s.functionLine, loopDepth := s.loopDepth
    skip := if t.skip = .function ∨ t.skip = .functionAsIs then .nothing else t.skip }
  let _ ← resume r

/-- Run the text of arguments. -/
def runText (args : List String) (isTested : Bool) : Turn Nat := do
  if args.isEmpty then pure 0
  else runLines run (String.intercalate " " args) ⟨false, isTested, false⟩

/-- The path of a file that is to be read as a script: without a slash it is looked for. -/
def scriptPath (name : String) : Turn String := do
  let s ← get
  if '/' ∈ name.toList then pure name
  else
    let paths := (SearchPath.dirs (Builtin.searchPath s)).map (SearchPath.inside · name)
    match paths.find? s.scene.isFile with
    | some path => pure path
    | none => fault (name ++ ": not found")

/-- The text of a script in a file. A directory holds none. -/
def scriptText (path : String) : Turn String := do
  let index ← openFile path .forReading
  let s ← get
  match s.machine.read index none with
  | .ok (bytes, machine) => do
    set { s with machine }
    pure (String.ofList ((Octets.ofBytes bytes).toList.filter (· ≠ '\x00')))
  | .error _ => pure ""

/-- Run the script of a file in this shell. -/
def runFile (args : List String) : Turn Nat := do
  match ← Builtin.plainWords args with
  | [] => pure 0
  | name :: _ => do
    let path ← scriptPath name
    let text ← scriptText path
    modify ({ · with command := some path })
    runLines run text ⟨true, false, false⟩

/-- Tell what the words behind `command` mean. -/
def describe (args : List String) : Turn Nat := do
  let (found, words) ← Builtin.options ['p', 'v', 'V'] [] args
  let has (c : Char) : Bool := found.any (·.1 == c)
  match words with
  | name :: _ => do
    let s ← get
    let dirs := if has 'p' then State.defaultPath else Builtin.searchPath s
    if has 'v' ∨ has 'V' then Builtin.describe dirs (has 'V') name else pure 0
  | [] => pure 0

/-- A built-in command by its name and its arguments. -/
def builtin (name : String) (args : List String) (isTested : Bool) : Turn Nat := do
  match name, args with
  | "eval", args => runText run args isTested
  | ".", args => runFile run args
  | "command", args => describe args
  | "exec", args => do
    match ← Builtin.plainWords args with
    | [] => pure 0
    | program :: args => become run (Builtin.searchPath (← get)) program args
  | name, args =>
    match Builtin.find? name with
    | some act => act args
    | none => pure 127

/-- Run a program, in a process of its own unless the shell ends with it. -/
def startProgram (dirs name : String) (args : List String) (isLast : Bool) : Turn Nat := do
  let s ← get
  let found := if '/' ∈ name.toList then .ok name else Builtin.programFile s.scene dirs name
  match found with
  | .error why => do
    warn (name ++ ": " ++ Builtin.startFault why)
    setStatus 127
    pure 127
  | .ok _ => do
    Builtin.noteProgram dirs name
    if isLast && !hasTraps s then become run dirs name args
    else
      let (_, outcome) ← fork run false (become run dirs name args)
      await outcome

/-- Run the words of a command. -/
def carryOut (o : Order) (words : List String) (isTested isLast : Bool) : Turn Nat := do
  match o.runner, words with
  | .program, name :: args =>
    startProgram run (o.dirs.getD (Builtin.searchPath (← get))) name args isLast
  | .function f, _ :: args => do
    runFunction run f args isTested
    return (← get).status
  | .builtin, name :: args => do
    runBuiltin name o.isSpecial (builtin run name args isTested)
    return (← get).status
  | _, _ => return (← get).outputStatus

def runSimple (line : Nat) (assigned words : List Word) (rs : List Redirect)
    (isTested isLast : Bool) : Turn Nat := do
  noteLine line
  modify ({ · with outputStatus := 0 })
  let o ← orderOf run 1000 ⟨.nobody, false, false, none, false, ← fill run [] words⟩
  let fields := o.words.fields ++ (← restFields run o.assigns o.words.rest)
  let isReplacing := fields.head? == some "exec" && (match o.runner with
    | .builtin => true
    | _ => false)
  let errors := (← get).descriptors.get? 2
  let targets ← targetsOf (output run) rs
  withFrame o.isLocal <| withDescriptors (rs.map Redirect.descriptor) do
    match ← tryRedirect (output run) targets with
    | 0 => do
      let exported := isReplacing && 1 < fields.length
      let texts ← assignAll run o.isLocal exported assigned
      trace run errors (texts ++ o.words.passed ++ fields)
      let status ← carryOut run o fields isTested isLast
      pure (status, isReplacing)
    | status => do
      setStatus status
      if o.isSpecial then throw .fault
      pure (status, isReplacing)

/-! ## Commands -/

/-- The status of a command, and whether its failure may end the shell. `none`: there is no new
status. -/
def evaluate (c : Command) (isTested isLast : Bool) : Turn (Option Nat × Bool) := do
  let also (c : Command) (isTested isLast : Bool) : Turn (Option Nat × Bool) := do
    return (some (← run (.command c isTested isLast)), false)
  let skips : Turn Bool := do return (← get).skip ≠ .nothing
  match c with
  | .nothing => pure (none, false)
  | .simple line assigned words rs =>
    return (some (← runSimple run line assigned words rs isTested isLast), true)
  | .redirected line body rs => do
    noteLine line
    let targets ← targetsOf (output run) rs
    withDescriptors (rs.map Redirect.descriptor) do
      match ← tryRedirect (output run) targets with
      | 0 => return ((some (← run (.command body isTested false)), false), false)
      | status => pure ((some status, true), false)
  | .subshell line body rs =>
    return (some (← runSubshell run line body rs false isTested isLast), true)
  | .background line body rs =>
    return (some (← runSubshell run line body rs true isTested isLast), true)
  | .pipeline commands waits => return (some (← runPipeline run commands waits isTested), true)
  | .sequence a b => do
    let _ ← run (.command a isTested false)
    if ← skips then pure (none, false) else also b isTested isLast
  | .both a b => do
    let status ← run (.command a true false)
    if status ≠ 0 || (← skips) then pure (none, false) else also b isTested isLast
  | .either a b => do
    let status ← run (.command a true false)
    if status = 0 || (← skips) then pure (none, false) else also b isTested isLast
  | .negate body => do
    let status ← run (.command body true false)
    pure (some (if status = 0 then 1 else 0), false)
  | .branch condition body other => do
    let status ← run (.command condition true false)
    if ← skips then pure (none, false)
    else if status = 0 then also body isTested isLast
    else match other with
      | .nothing => pure (some 0, false)
      | other => also other isTested isLast
  | .repeated success condition body =>
    return (some (← inLoop (rounds run success condition body isTested 0)), false)
  | .each line name items body => do
    noteLine line
    let values ← allFields run items
    return (some (← inLoop (eachValue run name body isTested 0 values)), false)
  | .choice line subject arms => do
    noteLine line
    let text ← textOf (output run) .whole subject
    return (some (← choose run text isTested isLast arms), false)
  | .define line name body => do
    modify fun s =>
      { s with functions := (name, ⟨line, body⟩) :: s.functions.filter (·.1 != name) }
    pure (some 0, false)

def command (c : Command) (isTested isLast : Bool) : Turn Nat := do
  let mayEnd ←
    if (← get).has 'n' then pure false
    else
      if !(c matches .nothing) then runTraps run
      let (status, mayEnd) ← evaluate run c isTested isLast
      if let some status := status then setStatus status
      pure (mayEnd && status ≠ some 0)
  runTraps run
  if isLast || (mayEnd && !isTested && (← get).has 'e') then throw .ended
  return (← get).status

/-! ## Scripts -/

/-- The next line of a source, with the names that are replaced by now. -/
def nextLine (source : Source) : Turn (Source.Line × Source) := do
  let s ← get
  let (r, source) := { source with aliases := s.aliases, documents := s.documents }.nextLine
  set { s with documents := source.documents, readLines := source.line :: s.readLines.drop 1 }
  match r with
  | .ok line => pure (line, source)
  | .error flaw => do
    modify ({ · with errorLine := source.line })
    fault ("Syntax error: " ++ flaw.text)

def lines (source : Source) (m : Manners) (status : Nat) : Turn Nat := do
  let (line, source) ← nextLine source
  if line.isOver then pure status
  else
    let c := line.command.getD .nothing
    let i ← run (.command c m.isTested (m.isLast && source.isAtEnd))
    let status := if line.command.isSome then i else status
    match (← get).skip with
    | .nothing => run (.lines source m status)
    | skip => do
      if m.isFile ∧ (skip = .function ∨ skip = .functionAsIs) then
        modify ({ · with skip := .nothing })
      pure status

/-- What the words behind the name of a shell ask for. -/
structure Call where
  /-- The next word is the script. -/
  isText : Bool
  words : List String

/-- The letters of a word of options, and the words that follow. -/
def callLetters (on : Bool) : List Char → List String → Turn (Bool × List String)
  | [], ws => pure (false, ws)
  | 'c' :: cs, ws => do
    let (_, ws) ← callLetters on cs ws
    pure (true, ws)
  | 'l' :: cs, ws => callLetters on cs ws
  | 'o' :: cs, ws => do
    Builtin.setNamed on ws.head?
    callLetters on cs (ws.drop 1)
  | c :: cs, ws => do
    Builtin.setLetter on c
    callLetters on cs ws

def callOf : Nat → List String → Turn Call
  | 0, ws => pure ⟨false, ws⟩
  | _ + 1, [] => pure ⟨false, []⟩
  | n + 1, w :: ws => do
    let further (on : Bool) (cs : List Char) : Turn Call := do
      let (isText, ws) ← callLetters on cs ws
      let call ← callOf n ws
      pure { call with isText := isText || call.isText }
    match w.toList with
    | ['-'] | ['-', '-'] => pure ⟨false, ws⟩
    | '-' :: cs => further true cs
    | '+' :: cs => further false cs
    | _ => pure ⟨false, w :: ws⟩

/-- The script that comes from the input. -/
def inputLines : Turn Nat := do
  let s ← get
  match (s.descriptors.get? 0).bind fun i => (s.machine.read i none).toOption with
  | some (bytes, machine) => do
    set { s with machine }
    let text := String.ofList ((Octets.ofBytes bytes).toList.filter (· ≠ '\x00'))
    run (← linesOf text ⟨true, false, false⟩)
  | none => pure 0

/-- What a shell does by its arguments. -/
def script (args : List String) : Turn Nat := do
  let call ← callOf (args.length + 1) args
  let readsInput := (← get).has 's'
  if call.isText then
    match call.words with
    | [] => fault "-c requires an argument"
    | text :: words => do
      if let name :: rest := words then modify ({ · with name, args := rest })
      let status ← runLines run text ⟨false, false, !readsInput⟩
      if readsInput then inputLines run else pure status
  else if readsInput ∨ call.words.isEmpty then
    Builtin.turnOption 's' true
    modify ({ · with args := call.words })
    inputLines run
  else match call.words with
    | path :: rest => do
      let text ← scriptText path
      modify ({ · with name := path, args := rest })
      run (← linesOf text ⟨true, false, false⟩)
    | [] => pure 0

def shell (name : String) (args : List String) : Turn Nat := do
  modify ({ · with name })
  match ← finish run (← caught (script run args)) with
  | .exited code => pure code.toNat
  | .killed signal => throw (.killed signal)

end Turn

/-- One step of a task. -/
def Doing.step (run : Doing) : Doing
  | .command c isTested isLast => Turn.command run c isTested isLast
  | .rounds success condition body isTested status =>
    Turn.rounds run success condition body isTested status
  | .lines source manners status => Turn.lines run source manners status
  | .shell name args => Turn.shell run name args

/-- Do a task; no task inside it may be deeper than the fuel. -/
def perform : Nat → Doing
  | 0 => fun _ => throw (.killed 9)
  | n + 1 => fun t => Doing.step (perform n) t

end BenchCheckout.Shell
