import BenchCheckout.CommandLine.Basic

/-!
# Reading the command line

`read words` reads the words from left to right, first those before the subcommand and then those
behind it. A value is checked only when the word after it has been recognised, so an unknown word is
reported before a bad value in front of it (`Reading.settle` is the check).
-/

namespace BenchCheckout.CommandLine

/-- An argument that still has to be checked. A config option may still lack its value. -/
structure Pending where
  argument : Argument
  value : Option String
deriving DecidableEq

/-- The words of one level as far as they are read. -/
structure Reading where
  config : Option String
  noCache : Bool
  /-- The positional arguments that are checked, in order. -/
  values : List String
  pending : Option Pending
  /-- What was given so far, in order. -/
  given : List Argument
  /-- The escape `--` has been read: every word is a positional argument from here on. -/
  escaped : Bool
deriving DecidableEq

namespace Reading

def blank : Reading := ⟨none, false, [], none, [], false⟩

/-! ## Values -/

def setConfig (r : Reading) (level : Level) (value : String) : Except Refusal Reading :=
  if r.config.isSome then .error (.repeated level .config)
  else if value = "" then .error (.emptyValue .config)
  else .ok { r with config := some value, given := r.given ++ [.config] }

def setNoCache (r : Reading) (level : Level) : Except Refusal Reading :=
  if r.noCache then .error (.repeated level .noCache)
  else .ok { r with noCache := true, given := r.given ++ [.noCache] }

/-- A project may be any word, a path any but the empty one. -/
def checkPositional (p : Positional) (value : String) : Except Refusal Unit :=
  match p with
  | .project => .ok ()
  | .path => if value = "" then .error (.emptyValue (.positional .path)) else .ok ()
  | .shell => if (Shell.ofName? value).isSome then .ok () else .error (.unknownShell value)

/-- The pending argument checked and taken in. -/
def settle (r : Reading) (level : Level) : Except Refusal Reading :=
  match r.pending with
  | none => .ok r
  | some ⟨.config, none⟩ => .error (.emptyValue .config)
  | some ⟨.config, some value⟩ => { r with pending := none }.setConfig level value
  | some ⟨.noCache, _⟩ => { r with pending := none }.setNoCache level
  | some ⟨.help, _⟩ | some ⟨.version, _⟩ => .ok { r with pending := none }
  | some ⟨.positional p, value⟩ =>
    match checkPositional p (value.getD "") with
    | .error e => .error e
    | .ok () =>
      .ok { r with
        pending := none, values := r.values ++ [value.getD ""],
        given := r.given ++ [.positional p] }

/-- What a usage line shows as given: also a pending argument that has its value. A config option
that is given for a second time takes the first one away. -/
def shown (r : Reading) : List Argument :=
  match r.pending with
  | some ⟨a, some _⟩ => if a ∈ r.given then r.given.filter (· ≠ a) else r.given ++ [a]
  | _ => r.given

/-- The next word is the value of a config option. -/
def awaitsValue (r : Reading) : Bool :=
  match r.pending with
  | some ⟨.config, none⟩ => !r.escaped
  | _ => false

/-! ## Words -/

/-- Advice that only makes sense where positional arguments are possible. -/
def escapeTip (r : Reading) (level : Level) (word : String) : Option Tip :=
  if r.escaped || level.positionals.isEmpty then none else some (.escape word)

/-- `--config` or `-c` with its value in the same word. -/
def attach (r : Reading) (level : Level) (value : String) : Except Refusal Reading :=
  match r.settle level with
  | .error e => .error e
  | .ok r => r.setConfig level value

def expectValue (r : Reading) (level : Level) : Except Refusal Reading :=
  (r.settle level).map fun r => { r with pending := some ⟨.config, none⟩ }

/-- The rest of a word behind `--`, cut at its first equals sign. -/
def splitValue (s : List Char) : List Char × Option (List Char) :=
  match s.dropWhile (· ≠ '=') with
  | [] => (s, none)
  | _ :: value => (s.takeWhile (· ≠ '='), some value)

/-- A flag that answers at once, unless an argument before it is bad. -/
def answer (r : Reading) (level : Level) (refusal : Refusal) : Except Refusal Reading :=
  match r.settle level with
  | .error e => .error e
  | .ok _ => .error refusal

/-- A word that starts with two dashes. -/
def long (r : Reading) (level : Level) (rest : List Char) : Except Refusal Reading :=
  let (name, value) := splitValue rest
  let name := String.ofList name
  let flag := "--" ++ name
  match value with
  | none =>
    if name = "config" then r.expectValue level
    else if name = "help" then r.answer level (.help level.topic)
    else if name = "version" ∧ level = .top then r.answer level .version
    else if name = "no-cache" ∧ level = .inner .checkout then
      match r.settle level with
      | .error e => .error e
      | .ok r => r.setNoCache level
    else .error (.unknownArgument level flag (r.escapeTip level flag) r.shown)
  | some value =>
    let value := String.ofList value
    if name = "config" then r.attach level value
    else if name = "help" then .error (.valueForFlag level .help value r.given)
    else if name = "version" ∧ level = .top then
      .error (.valueForFlag level .version value r.given)
    else if name = "no-cache" ∧ level = .inner .checkout then
      .error (.valueForFlag level .noCache value r.given)
    else .error (.unknownArgument level flag (r.escapeTip level flag) r.shown)

/-- A word that starts with one dash and has more behind it. The first letter decides: every flag of
one letter answers at once, and the option takes the rest of the word. -/
def short (r : Reading) (level : Level) (letter : Char) (rest : List Char) :
    Except Refusal Reading :=
  if letter = 'c' then
    match rest with
    | [] => r.expectValue level
    | '=' :: value => r.attach level (String.ofList value)
    | value => r.attach level (String.ofList value)
  else if letter = 'h' then r.answer level (.help level.topic)
  else if letter = 'V' ∧ level = .top then r.answer level .version
  else
    let flag := String.ofList ['-', letter]
    .error (.unknownArgument level flag (r.escapeTip level flag) [])

/-- How many positions are filled, one that is not checked yet among them. -/
def filled (r : Reading) : Nat :=
  r.values.length + match r.pending with
    | some ⟨.positional _, _⟩ => 1
    | _ => 0

/-- A word that fills the next free position. -/
def position (r : Reading) (level : Level) (word : String) : Except Refusal Reading :=
  match level.positionals[r.filled]? with
  | some p => (r.settle level).map fun r => { r with pending := some ⟨.positional p, some word⟩ }
  | none =>
    match level with
    | .top =>
      if r.escaped ∧ ((Verb.ofName? word).isSome ∨ word = helpWord) then
        .error (.unknownArgument level word (some (.removeEscape word)) [])
      else .error (.unknownSubcommand .program word)
    | .inner _ => .error (.unknownArgument level word none [])

/-- One word that is no subcommand. -/
def word (r : Reading) (level : Level) (w : String) : Except Refusal Reading :=
  if r.escaped then r.position level w
  else match w.toList with
    | ['-', '-'] => .ok { r with escaped := true }
    | '-' :: '-' :: rest => r.long level rest
    | '-' :: letter :: rest => r.short level letter rest
    | _ =>
      if r.awaitsValue then .ok { r with pending := some ⟨.config, some w⟩ }
      else r.position level w

/-- The words of a level without subcommands. -/
def wordsOf (level : Level) (r : Reading) : List String → Except Refusal Reading
  | [] => r.settle level
  | w :: ws =>
    match r.word level w with
    | .error e => .error e
    | .ok r => wordsOf level r ws

/-- The positions that no word has filled. -/
def unfilled (r : Reading) (level : Level) : List Positional :=
  level.positionals.drop r.values.length

end Reading

/-! ## Both levels -/

/-- Every word behind the help word has to name a subcommand of the one before it. -/
def helpOn (topic : Topic) : List String → Refusal
  | [] => .help topic
  | w :: ws =>
    match topic with
    | .program =>
      match Verb.ofName? w with
      | some v => helpOn (.verb v) ws
      | none => if w = helpWord then helpOn .help ws else .unknownSubcommand .program w
    | topic => .unknownSubcommand topic w

def command (verb : Verb) (r : Reading) : Command :=
  let value (i : Nat) := (r.values[i]?).getD ""
  match verb with
  | .checkout => .checkout (value 0) (value 1) r.noCache
  | .fetch => .fetch (value 0) (value 1)
  | .instrument => .instrument (value 0) (value 1)
  | .doctor => .doctor
  | .init => .init
  | .completions => .completions ((Shell.ofName? (value 0)).getD .bash)

/-- The words behind a subcommand, and what was read in front of it. -/
def readInner (outer : Reading) (verb : Verb) (words : List String) :
    Except Refusal Invocation :=
  match Reading.wordsOf (.inner verb) .blank words with
  | .error e => .error e
  | .ok r =>
    match r.unfilled (.inner verb) with
    | [] =>
      -- What stands in front of the subcommand is settled last.
      match outer.settle .top with
      | .error e => .error e
      | .ok outer => .ok ⟨r.config.or outer.config, command verb r⟩
    | missing => .error (.missing verb missing r.shown)

/-- The words in front of the subcommand. -/
def readOuter (outer : Reading) : List String → Except Refusal Invocation
  | [] =>
    match outer.settle .top with
    | .error e => .error e
    | .ok outer => .error (if outer.given.isEmpty then .nothingAsked else .missingSubcommand)
  | w :: ws =>
    let verb := if outer.escaped || outer.awaitsValue then none else Verb.ofName? w
    match verb with
    | some verb => readInner outer verb ws
    | none =>
      if w = helpWord ∧ ¬ outer.escaped ∧ ¬ outer.awaitsValue then .error (helpOn .program ws)
      else match outer.word .top w with
        | .error e => .error e
        | .ok outer => readOuter outer ws

/-- The invocation that the words behind the program's name make. -/
def read (words : List String) : Except Refusal Invocation := readOuter .blank words

end BenchCheckout.CommandLine
