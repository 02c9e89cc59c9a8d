import BenchCheckout.Shell.Condition
import BenchCheckout.Utility.Desk

/-!
# Testing conditions

`test` tells by its status whether its words hold. Up to four words are taken by their number; more
of them are a disjunction of conjunctions.
-/

namespace BenchCheckout.Utility.Test

/-- Whether the first words hold, and the words behind them; or what is wrong. -/
abbrev Checked := Except String (Bool × List String)

open Quoting

def binaries : List String :=
  ["=", "==", "!=", "<", ">", "-eq", "-ne", "-lt", "-le", "-gt", "-ge", "-nt", "-ot", "-ef"]

def unaries : List String :=
  ["-e", "-r", "-w", "-x", "-N", "-O", "-G", "-f", "-d", "-s", "-S", "-c", "-b", "-p", "-L",
    "-h", "-u", "-g", "-k", "-t", "-n", "-z"]

def isBinary (w : String) : Bool := w ∈ binaries

/-- A dash and one more character. -/
def isSwitch (w : String) : Bool :=
  match w.toList with
  | ['-', _] => true
  | _ => false

def integer (w : String) : Except String Int :=
  let r := Shell.Number.read false w.toList
  if r.isNumber ∧ (r.rest.dropWhile Octets.isBlank).isEmpty then .ok r.exact
  else .error ("invalid integer " ++ plain w)

/-- There is no word left where one is needed. -/
def beyond {α : Type} (words : List String) : Except String α :=
  .error ("missing argument after " ++ plain (words.getLastD ""))

def unary (s : Scene) (op w : String) : Except String Bool :=
  if op ∉ unaries then .error (plain op ++ ": unary operator expected")
  else match op with
    | "-N" => .ok false
    | "-t" => (integer w).map fun _ => false
    | op => Shell.Condition.unary s op w

def binary (s : Scene) (op a b : String) : Except String Bool :=
  let compared (holds : Int → Int → Bool) : Except String Bool := do
    return holds (← integer a) (← integer b)
  match op with
  | "==" => .ok (a == b)
  | "-eq" => compared (· == ·)
  | "-ne" => compared (· != ·)
  | "-lt" => compared (· < ·)
  | "-le" => compared (· ≤ ·)
  | "-gt" => compared (· > ·)
  | "-ge" => compared (· ≥ ·)
  | "-nt" => .ok (s.exists? a && !s.exists? b)
  | "-ot" => .ok (!s.exists? a && s.exists? b)
  | op => Shell.Condition.binary s op a b

/-- A switch and its word at the start of the words. -/
def switched (s : Scene) (all : List String) : List String → Checked
  | op :: w :: ws => do return (← unary s op w, ws)
  | _ => beyond all

def negated (c : Checked) : Checked := c.map fun (b, ws) => (!b, ws)

/-- One word. -/
def ofOne (all : List String) : List String → Checked
  | w :: ws => .ok (w != "", ws)
  | [] => beyond all

def ofTwo (s : Scene) (all : List String) : List String → Checked
  | "!" :: ws => negated (ofOne all ws)
  | op :: ws => if isSwitch op then switched s all (op :: ws) else beyond all
  | [] => beyond all

/-- What follows a closing parenthesis. -/
def closed (r : Bool × List String) : Checked :=
  match r with
  | (b, ")" :: ws) => .ok (b, ws)
  | (_, w :: _) => .error (plain ")" ++ " expected, found " ++ plain w)
  | (_, []) => .error (plain ")" ++ " expected")

/-- The number of words in parentheses that start here: up to four, or all that there are. -/
def enclosed (ws : List String) : Nat :=
  match (ws.drop 1).findIdx? (· == ")") with
  | some i => if i < 4 then i + 1 else ws.length
  | none => if ws.length ≤ 4 then ws.length else ws.length

mutual

/-- So many words at the start of the words. -/
def ofWords (s : Scene) (all : List String) : Nat → Nat → List String → Checked
  | 0, _, _ => .error "too many words"
  | n + 1, count, ws => do
    match count, ws with
    | 1, ws => ofOne all ws
    | 2, ws => ofTwo s all ws
    | 3, a :: op :: b :: rest =>
      if isBinary op then do return (← binary s op a b, rest)
      else if a = "!" then negated (ofTwo s all (op :: b :: rest))
      else if a = "(" ∧ b = ")" then do
        let (v, _) ← ofOne all [op]
        .ok (v, rest)
      else if op ∈ ["-a", "-o", "<", ">"] then disjunction s all n ws
      else .error (plain op ++ ": binary operator expected")
    | 4, "!" :: ws => negated (ofWords s all n 3 ws)
    | 4, "(" :: a :: b :: ")" :: rest => do
      let (v, _) ← ofTwo s all [a, b]
      .ok (v, rest)
    | _, ws => disjunction s all n ws

def disjunction (s : Scene) (all : List String) : Nat → List String → Checked
  | 0, _ => .error "too many words"
  | n + 1, ws => do
    match ← conjunction s all n ws with
    | (a, "-o" :: ws) => do
      let (b, ws) ← disjunction s all n ws
      .ok (a || b, ws)
    | r => .ok r

def conjunction (s : Scene) (all : List String) : Nat → List String → Checked
  | 0, _ => .error "too many words"
  | n + 1, ws => do
    match ← term s all n ws with
    | (a, "-a" :: ws) => do
      let (b, ws) ← conjunction s all n ws
      .ok (a && b, ws)
    | r => .ok r

def term (s : Scene) (all : List String) : Nat → List String → Checked
  | 0, _ => .error "too many words"
  | n + 1, ws =>
    match ws with
    | [] => beyond all
    | "!" :: ws => negated (term s all n ws)
    | "(" :: ws => do closed (← ofWords s all n (enclosed ws) ws)
    | "-l" :: a :: op :: b :: rest =>
      if isBinary op then do return (← binary s op a.length.repr b, rest)
      else switched s all ws
    | a :: op :: b :: rest =>
      if isBinary op then do return (← binary s op a b, rest)
      else if isSwitch a then switched s all ws
      else .ok (a != "", op :: b :: rest)
    | a :: rest => if isSwitch a then switched s all ws else .ok (a != "", rest)

end

/-- Whether the words hold, or what is wrong with them. -/
def holds (s : Scene) (words : List String) : Except String Bool := do
  if words.isEmpty then .ok false
  else
    match ← ofWords s words (8 * words.length + 16) words.length words with
    | (b, []) => .ok b
    | (_, w :: _) => .error ("extra argument " ++ plain w)

open Step

def judge (words : List String) : Step Unit := do
  match holds (← scene) words with
  | .ok b => setStatus (if b then 0 else 1)
  | .error text => complainWith 2 text

def utility : Step Unit := do judge (← get).args

/-- The words end in a bracket. -/
def bracketed : Step Unit := do
  match splitLast (← get).args with
  | some (words, "]") => judge words
  | _ => complainWith 2 "missing ']'"

end BenchCheckout.Utility.Test
