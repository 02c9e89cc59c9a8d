/-!
# File modes

A mode is a number of three bits for each of owner, group and others: reading, writing, executing.
`Mode.change?` reads a text that says how modes are changed, as an octal number or by letters.
-/

namespace BenchCheckout.Utility.Mode

/-- The mode of a file, of which no more is known than whether it can be executed. -/
def ofFile (executable : Bool) : Nat := if executable then 0o755 else 0o644

def isExecutable (mode : Nat) : Bool := mode &&& 0o111 != 0

/-- The bits that new files do not get. -/
def mask : Nat := 0o022

/-- The bits that the letters in front of an operator mean. No letter means all that are not
masked. -/
def affected (who : List Char) : Nat :=
  if who.isEmpty then 0o777 - mask
  else if 'a' ∈ who then 0o777
  else (if 'u' ∈ who then 0o700 else 0) ||| (if 'g' ∈ who then 0o070 else 0) |||
    (if 'o' ∈ who then 0o007 else 0)

/-- The bits that the letters behind an operator mean for a mode. -/
def wanted (isDirectory : Bool) (mode : Nat) (what : List Char) : Nat :=
  let one (c : Char) : Nat :=
    match c with
    | 'r' => 0o444
    | 'w' => 0o222
    | 'x' => 0o111
    | 'X' => if isDirectory || isExecutable mode then 0o111 else 0
    | 'u' => (mode / 64 % 8) * 0o111
    | 'g' => (mode / 8 % 8) * 0o111
    | 'o' => (mode % 8) * 0o111
    | _ => 0
  what.foldl (fun bits c => bits ||| one c) 0

def apply (operator : Char) (bits affected mode : Nat) : Nat :=
  let bits := bits &&& affected
  let others := mode - (mode &&& affected)
  match operator with
  | '+' => mode ||| bits
  | '-' => mode - (mode &&& bits)
  | _ => others ||| bits

def isOperator (c : Char) : Bool := c == '+' || c == '-' || c == '='

def isOctal (c : Char) : Bool := '0' ≤ c && c ≤ '7'

def octal (ds : List Char) : Nat := ds.foldl (fun n c => 8 * n + (c.toNat - '0'.toNat)) 0

/-- The changes of one clause behind the letters that say whose bits are meant. -/
def actions? (who : List Char) : Nat → List Char → Option (Bool → Nat → Nat)
  | 0, _ => none
  | _ + 1, [] => some fun _ mode => mode
  | n + 1, c :: cs =>
    if !isOperator c then none
    else
      let what := cs.takeWhile fun d => !isOperator d
      let isKnown := what.all (· ∈ ['r', 'w', 'x', 'X', 's', 't']) ||
        (what.length == 1 && what.all (· ∈ ['u', 'g', 'o']))
      if what ≠ [] ∧ what.all isOctal then
        if who ≠ [] ∨ what.length < cs.length ∨ 0o10000 ≤ octal what then none
        else some fun _ mode => apply c (octal what % 0o1000) 0o777 mode
      else if !isKnown then none
      else do
        let next ← actions? who n (cs.drop what.length)
        some fun isDirectory mode =>
          next isDirectory (apply c (wanted isDirectory mode what) (affected who) mode)

def clause? (s : List Char) : Option (Bool → Nat → Nat) :=
  let who := s.takeWhile (· ∈ ['u', 'g', 'o', 'a'])
  let rest := s.drop who.length
  if rest.isEmpty then none else actions? who (rest.length + 1) rest

/-- The clauses between commas. -/
def clauses (s : List Char) : List (List Char) :=
  s.foldr (fun c found =>
    match found with
    | clause :: more => if c = ',' then [] :: clause :: more else (c :: clause) :: more
    | [] => [[c]]) [[]]

/-- How a mode is changed by a text, of a directory or of something else. -/
def change? (text : String) : Option (Bool → Nat → Nat) :=
  let s := text.toList
  if s ≠ [] ∧ s.all isOctal then
    if octal s < 0o10000 then some fun _ _ => octal s % 0o1000 else none
  else
    (clauses s).foldl (fun change? clause => do
      let change ← change?
      let next ← clause? clause
      some fun isDirectory mode => next isDirectory (change isDirectory mode)) (some fun _ m => m)

/-- A mode in octal digits. -/
def digits (mode : Nat) : String :=
  "0" ++ String.ofList [Nat.digitChar (mode / 64 % 8), Nat.digitChar (mode / 8 % 8),
    Nat.digitChar (mode % 8)]

/-- A mode in letters. -/
def letters (mode : Nat) : String :=
  String.ofList <| [64, 8, 1].flatMap fun unit =>
    let bits := mode / unit % 8
    [if bits / 4 % 2 = 1 then 'r' else '-', if bits / 2 % 2 = 1 then 'w' else '-',
      if bits % 2 = 1 then 'x' else '-']

end BenchCheckout.Utility.Mode
