import BenchCheckout.Shell.Builtin.Basic

/-!
# Variables and options of the shell

`export`, `readonly`, `unset`, `local`, `set`, `shift` and `getopts`.
-/

namespace BenchCheckout.Shell.Builtin

open Turn

/-- The name and the value of a word of the form `name=value`. -/
def definition? (w : String) : Option (String × String) :=
  match w.toList.dropWhile (· ≠ '=') with
  | _ :: value => some (String.ofList (w.toList.takeWhile (· ≠ '=')), String.ofList value)
  | [] => none

/-- The variables that are wanted, in the order of their names, as a script that sets them. -/
def listing (command : String) (wanted : Variable → Bool) (s : State) : String :=
  let found := (s.bindings.filter fun (_, v) => wanted v).mergeSort fun a b => a.1 ≤ b.1
  String.join <| found.map fun (name, v) =>
    let value := match v.value with
      | some value => "=" ++ inQuotes value
      | none => ""
    (if command = "" then "" else command ++ " ") ++ name ++ value ++ "\n"

/-- Mark variables to be exported or to be read only, and give them values. -/
def markEach (exported readOnly : Bool) : List String → Turn Unit :=
  eachOf fun w => do
    match definition? w with
    | some (name, value) => assignNamed name (some value) exported readOnly
    | none =>
      let s ← get
      match s.named? w with
      | some v =>
        set (s.setVariable w (some { v with
          exported := v.exported || exported, readOnly := v.readOnly || readOnly }))
      | none => assignNamed w none exported readOnly

def mark (command : String) (exported readOnly : Bool) (args : List String) : Turn Nat := do
  -- One option ends the words.
  let (found, words) ← options ['p'] [] (args.take 1)
  let words := words ++ args.drop 1
  if found.isEmpty ∧ words ≠ [] then markEach exported readOnly words
  else
    let wanted (v : Variable) : Bool := (exported && v.exported) || (readOnly && v.readOnly)
    print (listing command wanted (← get))
  pure 0

def unset (args : List String) : Turn Nat := do
  let (found, words) ← options ['v', 'f'] [] args
  let functions := (found.getLast?.map (·.1)) == some 'f'
  eachOf (fun name => do
    if functions then
      modify fun s => { s with functions := s.functions.filter (·.1 != name) }
    else assignNamed name none false false) words
  pure 0

/-- Variables of a function alone; what they were comes back when it ends. -/
def hideNames (args : List String) : Turn Nat := do
  if (← get).hidden.isEmpty then fault "not in a function"
  let words ← plainWords args
  eachOf (fun w => do
    if w = "-" then
      modify fun s =>
        let saved : Variable := ⟨some (String.ofList s.options), false, false⟩
        match s.hidden with
        | frame :: frames => { s with hidden := (("-", some saved) :: frame) :: frames }
        | [] => s
    else match definition? w with
      | some (name, value) =>
        hide name
        assignMarked name (some value) false false
      | none =>
        hide w
        if !isName w.toList then fault (w ++ ": bad variable name")) words
  pure 0

/-! ## Options of the shell -/

/-- The options by their names. The last two have no letter of their own. -/
def optionNames : List (String × Char) :=
  [("errexit", 'e'), ("noglob", 'f'), ("ignoreeof", 'I'), ("interactive", 'i'), ("monitor", 'm'),
    ("noexec", 'n'), ("stdin", 's'), ("xtrace", 'x'), ("verbose", 'v'), ("vi", 'V'),
    ("emacs", 'E'), ("noclobber", 'C'), ("allexport", 'a'), ("notify", 'b'), ("nounset", 'u'),
    ("nolog", '\x01'), ("debug", '\x02')]

def turnOption (c : Char) (on : Bool) : Turn Unit := modify fun s =>
  let others := s.options.filter (· ≠ c)
  { s with options := if on then c :: others else others }

def setLetter (on : Bool) (c : Char) : Turn Unit := do
  if c = 'm' ∧ on then warn "can't access tty; job control turned off"
  else if optionNames.any (·.2 == c) ∧ c.toNat > 2 then turnOption c on
  else fault ("Illegal option -" ++ c.toString)

/-- All options as they are. -/
def optionListing (on : Bool) (s : State) : String :=
  let rows := optionNames.map fun (name, c) =>
    if on then
      name ++ String.ofList (List.replicate (16 - name.length) ' ') ++
        (if s.has c then "on" else "off") ++ "\n"
    else "set " ++ (if s.has c then "-o " else "+o ") ++ name ++ "\n"
  (if on then "Current option settings\n" else "") ++ String.join rows

def setNamed (on : Bool) : Option String → Turn Unit
  | none => do print (optionListing on (← get))
  | some name =>
    match optionNames.find? (·.1 == name) with
    | some (_, c) => turnOption c on
    | none => fault ("Illegal option " ++ (if on then "-" else "+") ++ "o " ++ name)

/-- The letters of one word of options, and the words that follow. -/
def setLetters (on : Bool) : List Char → List String → Turn (List String)
  | [], ws => pure ws
  | 'o' :: cs, ws => do
    setNamed on ws.head?
    setLetters on cs (ws.drop 1)
  | c :: cs, ws => do
    setLetter on c
    setLetters on cs ws

/-- Set options, up to the first word that is none. `none`: there are no other words. -/
def setFrom : Nat → List String → Turn (Option (List String))
  | 0, _ => pure none
  | _ + 1, [] => pure none
  | n + 1, w :: ws =>
    match w.toList with
    | ['-'] => do
      turnOption 'x' false
      turnOption 'v' false
      pure (if ws.isEmpty then none else some ws)
    | ['-', '-'] => pure (some ws)
    | '-' :: cs => do setFrom n (← setLetters true cs ws)
    | '+' :: cs => do setFrom n (← setLetters false cs ws)
    | _ => pure (some (w :: ws))

def setArgs (args : List String) : Turn Unit :=
  modify ({ · with args, optionIndex := 1, optionOffset := none })

def setOptions (args : List String) : Turn Nat := do
  if args.isEmpty then print (listing "" (·.value.isSome) (← get))
  else if let some words ← setFrom (args.length + 1) args then setArgs words
  pure 0

/-! ## Arguments of the script -/

def shiftArgs (args : List String) : Turn Nat := do
  let n ← match args with
    | [] => pure 1
    | w :: _ => count w
  let s ← get
  if s.args.length < n then fault "can't shift that many"
  else
    setArgs (s.args.drop n)
    pure 0

/-- Set a variable and do not follow the change. -/
def setQuietly (name value : String) : Turn Unit := modify fun s =>
  let old := (s.named? name).getD ⟨none, false, false⟩
  s.setVariable name (some { old with value := some value })

/-- What comes of reading one option. -/
structure OptionStep where
  /-- The letter that is told. -/
  letter : Char
  /-- The next word, and how far the word before it is read. -/
  index : Nat
  offset : Option Nat
  isOver : Bool

/-- Read the option at a position in a word; `next` words are passed then. -/
def optionAt (spec : List Char) (words : List String) (next : Nat) (word : List Char)
    (position : Nat) : Turn OptionStep := do
  let quiet := spec.head? == some ':'
  let c := word.getD position '?'
  let position := position + 1
  let going : Option Nat := some position
  match spec.dropWhile (· ≠ c) with
  | [] =>
    if quiet then assign "OPTARG" c.toString
    else
      printError ("Illegal option -" ++ c.toString ++ "\n")
      assignMarked "OPTARG" none false false
    pure ⟨'?', next + 1, going, false⟩
  | _ :: ':' :: _ =>
    if position < word.length then
      assign "OPTARG" (String.ofList (word.drop position))
      pure ⟨c, next + 1, none, false⟩
    else match words[next]? with
      | some value =>
        assign "OPTARG" value
        pure ⟨c, next + 2, none, false⟩
      | none =>
        if quiet then
          assign "OPTARG" c.toString
          pure ⟨':', next + 1, none, false⟩
        else
          printError ("No arg for -" ++ c.toString ++ " option\n")
          assignMarked "OPTARG" none false false
          pure ⟨'?', next + 1, none, false⟩
  | _ =>
    assign "OPTARG" ""
    pure ⟨c, next + 1, going, false⟩

/-- The next option of words. -/
def nextOption (spec : List Char) (words : List String) (index : Nat) (offset : Option Nat) :
    Turn OptionStep := do
  let before := (words[index - 2]?).map String.toList
  match before, offset with
  | some word, some position =>
    if 2 ≤ index ∧ position < word.length then
      return ← optionAt spec words (index - 1) word position
  | _, _ => pure ()
  let ended (index : Nat) : OptionStep := ⟨'?', index, none, true⟩
  match (words[index - 1]?).map String.toList with
  | some ['-', '-'] => pure (ended (index + 1))
  | some ('-' :: c :: cs) => optionAt spec words index ('-' :: c :: cs) 1
  | _ => pure (ended index)

def getOptions (args : List String) : Turn Nat := do
  match ← plainWords args with
  | spec :: name :: rest => do
    let s ← get
    let words := if rest.isEmpty then s.args else rest
    let isPast := words.length + 1 < s.optionIndex
    let (index, offset) := if isPast then (1, none) else (max s.optionIndex 1, s.optionOffset)
    let step ← nextOption spec.toList words index offset
    setQuietly "OPTIND" step.index.repr
    assignNamed name (some step.letter.toString) false false
    modify ({ · with optionIndex := step.index, optionOffset := step.offset })
    pure (if step.isOver then 1 else 0)
  | _ => fault "Usage: getopts optstring var [arg]"

end BenchCheckout.Shell.Builtin
