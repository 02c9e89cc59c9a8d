import BenchCheckout.Text.Octets

/-!
# Names in messages

How a utility shows a name: in single quotes, in which a byte that cannot be shown is written by its
escape (`always`), or in quotes that are escaped by backslashes (`plain`).
-/

namespace BenchCheckout.Utility.Quoting

/-- The letter of a byte's escape. -/
def escapeLetter? (c : Char) : Option Char :=
  match c with
  | '\x07' => some 'a'
  | '\x08' => some 'b'
  | '\x0c' => some 'f'
  | '\n' => some 'n'
  | '\r' => some 'r'
  | '\t' => some 't'
  | '\x0b' => some 'v'
  | _ => none

/-- The escape of a byte that cannot be shown. -/
def escape? (c : Char) : Option (List Char) :=
  match escapeLetter? c with
  | some l => some ['\\', l]
  | none =>
    if Octets.isPrintable c then none
    else
      let n := c.toNat
      some ['\\', Nat.digitChar (n / 64), Nat.digitChar (n / 8 % 8), Nat.digitChar (n % 8)]

/-- Signs that a shell gives a meaning to. -/
def isSign (c : Char) : Bool :=
  c ∈ ['!', '"', '$', '&', '(', ')', '*', ';', '<', '=', '>', '[', '^', '\x60', '|']

/-- A character that stands for itself in double quotes too, if it is the first or not. -/
def isPlain (isFirst : Bool) (c : Char) : Bool :=
  c.isAlphanum ||
    c ∈ [' ', '\'', '%', '+', ',', '-', '.', '/', ':', ']', '_', '@'] ||
    (isFirst && (c == '#' || c == '~'))

/-- The inside of single quotes. A row of escapes stands in quotes of its own. -/
def inQuotes : Bool → List Char → List Char
  | _, [] => []
  | inEscapes, c :: cs =>
    match escape? c with
    | some e => (if inEscapes then [] else ['\'', '$', '\'']) ++ e ++ inQuotes true cs
    | none =>
      if c = '\'' then ['\'', '\\', '\'', '\''] ++ inQuotes false cs
      else (if inEscapes then ['\'', '\''] else []) ++ c :: inQuotes false cs

def always (s : String) : String :=
  let cs := s.toList
  let arePlain : Bool := match cs with
    | c :: rest => isPlain true c && rest.all (isPlain false)
    | [] => true
  if '\'' ∈ cs ∧ arePlain then "\"" ++ s ++ "\""
  else String.ofList ('\'' :: inQuotes false cs ++ ['\''])

/-- A name cannot stand without quotes. -/
def needsQuotes (s : List Char) : Bool :=
  s.isEmpty || s == ['{'] || s == ['}'] || s.head? == some '#' || s.head? == some '~' ||
    s.any fun c => isSign c || c == ' ' || c == '?' || c == '\\' || c == '\'' || (escape? c).isSome

/-- A name in front of a colon. -/
def beforeColon (s : String) : String :=
  if ':' ∈ s.toList ∨ needsQuotes s.toList then always s else s

/-- A name in a row of a table: quoted only where it holds a line feed. -/
def ifNeededForLine (s : String) : String := if '\n' ∈ s.toList then always s else s

def plain (s : String) : String :=
  let inside := s.toList.flatMap fun c =>
    if c = '\'' ∨ c = '\\' then ['\\', c] else (escape? c).getD [c]
  "'" ++ String.ofList inside ++ "'"

end BenchCheckout.Utility.Quoting
