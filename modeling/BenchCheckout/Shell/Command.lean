/-!
# Shell commands

The commands of a script and the words that they are made of. A `Word` is a list of parts: plain and
quoted characters, quotes, parameters, the output of a command, and the value of an expression.
All characters are octets.
-/

namespace BenchCheckout.Shell

/-- What is done to the value of a parameter. -/
inductive Edit where
  | bare
  /-- Another word if there is no value. -/
  | default
  /-- Another word if there is a value. -/
  | alternative
  /-- A complaint if there is no value. -/
  | require
  /-- A new value if there is none. -/
  | assign
  | cutEnd (longest : Bool)
  | cutStart (longest : Bool)
  | length
  | malformed
deriving DecidableEq, Repr

/-- How a file is opened by a redirection. -/
inductive OpenKind where
  | input
  | output
  /-- Even a file that is protected from output. -/
  | overwrite
  | append
  | both
deriving DecidableEq, Repr

mutual

inductive Part where
  | plain (c : Char)
  | quoted (c : Char)
  /-- A quote begins or ends. -/
  | mark
  /-- `orEmpty`: an empty value counts as none. -/
  | parameter (name : String) (edit : Edit) (orEmpty : Bool) (word : List Part)
  | output (script : Command)
  | number (expression : List Part)

inductive Aim where
  | file (kind : OpenKind) (path : List Part)
  | copyOf (source : Nat)
  | copyNamed (source : List Part)
  | closed
  /-- A text of the script itself, by its number. -/
  | document (number : Nat)

inductive Redirect where
  | to (descriptor : Nat) (aim : Aim)

/-- `line` is where a command starts. -/
inductive Command where
  | nothing
  | simple (line : Nat) (assigned words : List (List Part)) (redirects : List Redirect)
  | redirected (line : Nat) (body : Command) (redirects : List Redirect)
  | subshell (line : Nat) (body : Command) (redirects : List Redirect)
  | background (line : Nat) (body : Command) (redirects : List Redirect)
  | pipeline (commands : List Command) (waits : Bool)
  | sequence (first second : Command)
  | both (first second : Command)
  | either (first second : Command)
  | negate (body : Command)
  | branch (condition body other : Command)
  /-- The body as long as the condition succeeds, or as long as it fails. -/
  | repeated (success : Bool) (condition body : Command)
  | each (line : Nat) (name : String) (items : List (List Part)) (body : Command)
  | choice (line : Nat) (subject : List Part) (arms : List Arm)
  | define (line : Nat) (name : String) (body : Command)

inductive Arm where
  | case (patterns : List (List Part)) (body : Command)

end

abbrev Word := List Part

instance : Inhabited Part := ⟨.mark⟩

instance : Inhabited Command := ⟨.nothing⟩

namespace Word

/-- The characters of a word that is nothing but plain characters. -/
def plain? : Word → Option (List Char)
  | [] => some []
  | .plain c :: w => (plain? w).map (c :: ·)
  | _ => none

/-- The characters of a word without its quotes. -/
def unquoted (w : Word) : List Char :=
  w.filterMap fun p => match p with
    | .plain c | .quoted c => some c
    | _ => none

def ofText (s : String) : Word := s.toList.map .plain

/-- Every argument of the script as a field of its own. -/
def arguments : Word := [.mark, .parameter "@" .bare false [], .mark]

end Word

/-! ## Names -/

def isNameStart (c : Char) : Bool := c.isAlpha || c == '_'

def isNamePart (c : Char) : Bool := c.isAlphanum || c == '_'

/-- The longest name that a text starts with, and what follows it. -/
def cutName (s : List Char) : List Char × List Char :=
  match s with
  | c :: _ => if isNameStart c then (s.takeWhile isNamePart, s.dropWhile isNamePart) else ([], s)
  | [] => ([], [])

/-- A text that a variable can have as its name. -/
def isName (s : List Char) : Bool :=
  match s with
  | c :: cs => isNameStart c && cs.all isNamePart
  | [] => false

/-- A word starts with a name and an equals sign, neither of them quoted. -/
def Word.isAssignment (w : Word) : Bool :=
  match w with
  | .plain c :: rest => isNameStart c && go rest
  | _ => false
where
  go : Word → Bool
    | .plain c :: rest => c == '=' || (isNamePart c && go rest)
    | _ => false

end BenchCheckout.Shell
