import BenchCheckout.Machine.Scene
import BenchCheckout.Shell.Number

/-!
# Conditions of the shell

The words of the shell's `test` command: whether they hold, or what is wrong with them. Both sides
of a disjunction or a conjunction are looked at in any case.
-/

namespace BenchCheckout.Shell.Condition

/-- What a word can be in a condition. -/
inductive Operator where
  | unary
  | binary
  | not
  | and
  | or
  | opening
  | closing
deriving DecidableEq, Repr

def unaries : List String :=
  ["-r", "-w", "-x", "-e", "-f", "-d", "-c", "-b", "-p", "-u", "-g", "-k", "-s", "-t", "-z", "-n",
    "-h", "-O", "-G", "-L", "-S"]

def binaries : List String :=
  ["=", "!=", "<", ">", "-eq", "-ne", "-ge", "-gt", "-le", "-lt", "-nt", "-ot", "-ef"]

def operator? (w : String) : Option Operator :=
  if w ∈ unaries then some .unary
  else if w ∈ binaries then some .binary
  else match w with
    | "!" => some .not
    | "-a" => some .and
    | "-o" => some .or
    | "(" => some .opening
    | ")" => some .closing
    | _ => none

inductive Lexeme where
  | finish
  | operand
  | operator (o : Operator)
deriving DecidableEq, Repr

/-- The words behind a unary operator make it an operand. -/
def isOperand : List String → Bool
  | [] => true
  | [_] => false
  | w :: _ => operator? w == some .binary

/-- What the first of the words is. -/
def lexeme : List String → Lexeme
  | [] => .finish
  | w :: ws =>
    match operator? w with
    | none => .operand
    | some o =>
      if (o = .unary ∧ isOperand ws) ∨ (o = .opening ∧ ws.isEmpty) then .operand else .operator o

/-- What is wrong with a condition. -/
abbrev Checked (α : Type) := Except String α

def number (w : String) : Checked Int :=
  match Number.ofText? false w with
  | some n => .ok n
  | none => .error ("Illegal number: " ++ w)

/-- A file has something in it. -/
def isNonempty (s : Scene) (path : String) : Bool :=
  match s.find path with
  | .ok (l, .file bytes _ _) => 0 < bytes.size && l != Machine.nullDevice
  | .ok _ => true
  | .error _ => false

/-- Two paths lead to one file. -/
def isSame (s : Scene) (a b : String) : Bool :=
  match s.locate a, s.locate b with
  | .ok l, .ok k => s.files.isSameFile l k
  | _, _ => false

def unary (s : Scene) (op w : String) : Checked Bool :=
  match op with
  | "-z" => .ok (w == "")
  | "-n" => .ok (w != "")
  | "-r" | "-w" | "-e" | "-O" | "-G" => .ok (s.exists? w)
  | "-x" => .ok (s.isExecutable w)
  | "-f" => .ok (s.isFile w)
  | "-d" => .ok (s.isDirectory w)
  | "-c" => .ok (s.isDevice w)
  | "-s" => .ok (isNonempty s w)
  | "-h" | "-L" => .ok (s.isLink w)
  | "-t" => (number w).map fun _ => false
  | _ => .ok false

def binary (s : Scene) (op a b : String) : Checked Bool :=
  let compared (holds : Int → Int → Bool) : Checked Bool := do
    return holds (← number a) (← number b)
  match op with
  | "=" => .ok (a == b)
  | "!=" => .ok (a != b)
  | "<" => .ok (a < b)
  | ">" => .ok (b < a)
  | "-eq" => compared (· == ·)
  | "-ne" => compared (· != ·)
  | "-lt" => compared (· < ·)
  | "-le" => compared (· ≤ ·)
  | "-gt" => compared (· > ·)
  | "-ge" => compared (· ≥ ·)
  | "-ef" => .ok (isSame s a b)
  | _ => .ok false

mutual

/-- A disjunction that starts at the first of the words, which is the lexeme. The words that are
left start with the last one that was read. -/
def disjunction (s : Scene) : Nat → Lexeme → List String → Checked (Bool × List String)
  | 0, _, _ => .error "too many words"
  | n + 1, l, ws => do
    let (a, ws) ← conjunction s n l ws
    if lexeme (ws.drop 1) = .operator .or then
      let rest := ws.drop 2
      let (b, ws) ← disjunction s n (lexeme rest) rest
      .ok (a || b, ws)
    else .ok (a, ws)

def conjunction (s : Scene) : Nat → Lexeme → List String → Checked (Bool × List String)
  | 0, _, _ => .error "too many words"
  | n + 1, l, ws => do
    let (a, ws) ← negation s n l ws
    if lexeme (ws.drop 1) = .operator .and then
      let rest := ws.drop 2
      let (b, ws) ← conjunction s n (lexeme rest) rest
      .ok (a && b, ws)
    else .ok (a, ws)

def negation (s : Scene) : Nat → Lexeme → List String → Checked (Bool × List String)
  | 0, _, _ => .error "too many words"
  | n + 1, l, ws =>
    if l = .operator .not then do
      let next := lexeme (ws.drop 1)
      let (b, ws) ← negation s n next (if next = .finish then ws else ws.drop 1)
      .ok (!b, ws)
    else primary s n l ws

def primary (s : Scene) : Nat → Lexeme → List String → Checked (Bool × List String)
  | 0, _, _ => .error "too many words"
  | n + 1, l, ws =>
    match l, ws with
    | .finish, ws => .ok (false, ws)
    | .operator .opening, _ :: rest =>
      let next := lexeme rest
      if next = .operator .closing then .ok (false, rest)
      else do
        let (b, ws) ← disjunction s n next rest
        if lexeme (ws.drop 1) = .operator .closing then .ok (b, ws.drop 1)
        else .error "closing paren expected"
    | .operator .unary, op :: rest =>
      match rest with
      | [] => .error (op ++ ": argument expected")
      | w :: _ => do .ok (← unary s op w, rest)
    | _, a :: op :: rest =>
      if lexeme (op :: rest) = .operator .binary then
        match rest with
        | [] => .error (op ++ ": argument expected")
        | b :: _ => do .ok (← binary s op a b, rest)
      else .ok (a != "", ws)
    | _, ws => .ok (ws.headD "" != "", ws)

end

/-- Whether words hold that are not of the forms of three and four words. -/
def evaluated (s : Scene) (l : Lexeme) (ws : List String) : Checked Bool := do
  match ← disjunction s (4 * ws.length + 8) l ws with
  | (_, w :: _ :: _) => .error (if w = "" then "unexpected operator" else w ++ ": unexpected operator")
  | (b, _) => .ok b

/-- Whether the words hold; no words do not. -/
def holds (s : Scene) (words : List String) : Checked Bool :=
  match words with
  | [] => .ok false
  | [a, op, b] =>
    if operator? op = some .binary then evaluated s .operand [a, op, b]
    else if a = "(" ∧ b = ")" then evaluated s (lexeme [op]) [op]
    else if a = "!" then (holds s [op, b]).map (!·)
    else evaluated s (lexeme words) words
  | [a, b, c, d] =>
    if a = "(" ∧ d = ")" then evaluated s (lexeme [b, c]) [b, c]
    else if a = "!" then (holds s [b, c, d]).map (!·)
    else evaluated s (lexeme words) words
  | ws => evaluated s (lexeme ws) ws
termination_by words.length

end BenchCheckout.Shell.Condition
