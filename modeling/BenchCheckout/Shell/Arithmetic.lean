import BenchCheckout.Shell.State

/-!
# Expressions of whole numbers

The value of the expression between double parentheses, in 64 bits: numbers, variables, the
operators on them in their usual ranks, choices and assignments. A side that does not count is read
and not evaluated.
-/

namespace BenchCheckout.Shell.Arithmetic

inductive Lexeme where
  | number (n : Int)
  | variable (name : String)
  | sign (s : String)
  | unknown
deriving DecidableEq, Repr

/-- The operators, the longer ones first. -/
def signs : List String :=
  ["<<=", ">>=", "<=", ">=", "==", "!=", "&&", "||", "<<", ">>", "*=", "/=", "%=", "+=", "-=",
    "&=", "^=", "|=", "+", "-", "*", "/", "%", "(", ")", "<", ">", "!", "~", "&", "|", "^", "?",
    ":", "="]

/-- What is unknown ends the text. -/
def lexemes : Nat → List Char → List Lexeme
  | 0, _ => []
  | _ + 1, [] => []
  | n + 1, c :: cs =>
    if c = ' ' ∨ c = '\t' ∨ c = '\n' then lexemes n cs
    else if c.isDigit then
      let r := Number.read true (c :: cs)
      .number r.value :: lexemes n r.rest
    else if isNameStart c then
      let (name, rest) := cutName (c :: cs)
      .variable (String.ofList name) :: lexemes n rest
    else match signs.find? (·.toList.isPrefixOf (c :: cs)) with
      | some s => .sign s :: lexemes n ((c :: cs).drop s.length)
      | none => [.unknown]

/-- The rank of an operator between two values: the least binds most. -/
def rank : String → Option Nat
  | "*" | "/" | "%" => some 0
  | "+" | "-" => some 1
  | "<<" | ">>" => some 2
  | "<" | "<=" | ">" | ">=" => some 3
  | "==" | "!=" => some 4
  | "&" => some 5
  | "^" => some 6
  | "|" => some 7
  | _ => none

def lastRank : Nat := 8

def truth (b : Bool) : Int := if b then 1 else 0

/-- Two numbers bit by bit. -/
def bitwise (f : UInt64 → UInt64 → UInt64) (a b : Int) : Int :=
  let word (n : Int) : UInt64 := UInt64.ofNat (n.emod 0x10000000000000000).toNat
  Number.wrap (f (word a) (word b)).toNat

/-- The signal that a division whose result is too great ends in. -/
def divisionSignal : Nat := 8

/-- Complain about an expression. -/
def complain {α : Type} (text what : String) : Turn α :=
  Turn.fault ("arithmetic expression: " ++ what ++ ": \"" ++ text ++ "\"")

/-- The value of an operator. -/
def combine (text op : String) (a b : Int) : Turn Int :=
  let divided (f : Int → Int → Int) : Turn Int :=
    if b = 0 then complain text "division by zero"
    else if b = -1 ∧ a = Number.least then throw (.killed divisionSignal)
    else pure (f a b)
  match op with
  | "*" => pure (Number.wrap (a * b))
  | "/" => divided Int.tdiv
  | "%" => divided Int.tmod
  | "+" => pure (Number.wrap (a + b))
  | "-" => pure (Number.wrap (a - b))
  | "<<" => pure (Number.wrap (a * Nat.pow 2 (b.emod 64).toNat))
  | ">>" => pure (a / Nat.pow 2 (b.emod 64).toNat)
  | "<" => pure (truth (a < b))
  | "<=" => pure (truth (a ≤ b))
  | ">" => pure (truth (b < a))
  | ">=" => pure (truth (b ≤ a))
  | "==" => pure (truth (a == b))
  | "!=" => pure (truth (a != b))
  | "&" => pure (bitwise (· &&& ·) a b)
  | "^" => pure (bitwise (· ^^^ ·) a b)
  | "|" => pure (bitwise (· ||| ·) a b)
  | _ => pure b

/-- The value of a variable; one that is not set is zero. -/
def variableValue (name : String) : Turn Int := do
  let value := ((← get).value? name).getD ""
  match Number.ofText? true value with
  | some n => pure n
  | none => Turn.fault ("Illegal number: " ++ value)

def assignValue (name : String) (n : Int) : Turn Int := do
  Turn.assign name (Number.text n)
  pure n

/-- The operator of an assignment that changes a value. -/
def changing : String → Option String
  | "*=" => some "*"
  | "/=" => some "/"
  | "%=" => some "%"
  | "+=" => some "+"
  | "-=" => some "-"
  | "<<=" => some "<<"
  | ">>=" => some ">>"
  | "&=" => some "&"
  | "^=" => some "^"
  | "|=" => some "|"
  | _ => none

abbrev Parsed := Int × List Lexeme

mutual

/-- An assignment, or a choice. What is `idle` does not count. -/
def assignment (text : String) : Nat → Bool → List Lexeme → Turn Parsed
  | 0, _, _ => complain text "expecting primary"
  | n + 1, idle, ls =>
    match ls with
    | .variable name :: .sign op :: rest =>
      if op = "=" then do
        let (v, rest) ← assignment text n idle rest
        if idle then pure (v, rest) else return (← assignValue name v, rest)
      else match changing op with
        | some op => do
          let (v, rest) ← assignment text n idle rest
          if idle then pure (v, rest)
          else
            let old ← variableValue name
            return (← assignValue name (← combine text op old v), rest)
        | none => choice text n idle ls
    | ls => choice text n idle ls

def choice (text : String) : Nat → Bool → List Lexeme → Turn Parsed
  | 0, _, _ => complain text "expecting primary"
  | n + 1, idle, ls => do
    let (a, rest) ← disjunction text n idle ls
    match rest with
    | .sign "?" :: rest =>
      let (b, rest) ← assignment text n (idle || a == 0) rest
      match rest with
      | .sign ":" :: rest =>
        let (c, rest) ← choice text n (idle || a != 0) rest
        pure (if a ≠ 0 then b else c, rest)
      | _ => complain text "expecting ':'"
    | rest => pure (a, rest)

def disjunction (text : String) : Nat → Bool → List Lexeme → Turn Parsed
  | 0, _, _ => complain text "expecting primary"
  | n + 1, idle, ls => do
    let (a, rest) ← conjunction text n idle ls
    match rest with
    | .sign "||" :: rest =>
      let (b, rest) ← disjunction text n (idle || a != 0) rest
      pure (truth (a != 0 || b != 0), rest)
    | rest => pure (a, rest)

def conjunction (text : String) : Nat → Bool → List Lexeme → Turn Parsed
  | 0, _, _ => complain text "expecting primary"
  | n + 1, idle, ls => do
    let (a, rest) ← operation text n idle ls
    match rest with
    | .sign "&&" :: rest =>
      let (b, rest) ← conjunction text n (idle || a == 0) rest
      pure (truth (a != 0 && b != 0), rest)
    | rest => pure (a, rest)

def operation (text : String) : Nat → Bool → List Lexeme → Turn Parsed
  | 0, _, _ => complain text "expecting primary"
  | n + 1, idle, ls => do
    let (a, rest) ← primary text n idle ls
    match rest with
    | .sign op :: more =>
      if (rank op).isSome then operationFrom text n idle a op lastRank more else pure (a, rest)
    | rest => pure (a, rest)

/-- An operator behind its first value, and those that follow, up to one of rank `limit`. -/
def operationFrom (text : String) :
    Nat → Bool → Int → String → Nat → List Lexeme → Turn Parsed
  | 0, _, _, _, _, _ => complain text "expecting primary"
  | n + 1, idle, a, op, limit, ls => do
    let (b, rest) ← primary text n idle ls
    let (b, rest) ← match rest with
      | .sign next :: more =>
        match rank next, rank op with
        | some r, some q => if r < q then operationFrom text n idle b next q more else pure (b, rest)
        | _, _ => pure (b, rest)
      | rest => pure (b, rest)
    let a ← if idle then pure b else combine text op a b
    match rest with
    | .sign next :: more =>
      match rank next with
      | some r => if limit ≤ r then pure (a, rest) else operationFrom text n idle a next limit more
      | none => pure (a, rest)
    | rest => pure (a, rest)

def primary (text : String) : Nat → Bool → List Lexeme → Turn Parsed
  | 0, _, _ => complain text "expecting primary"
  | n + 1, idle, ls =>
    match ls with
    | .sign "(" :: rest => do
      match ← assignment text n idle rest with
      | (v, .sign ")" :: rest) => pure (v, rest)
      | _ => complain text "expecting ')'"
    | .number v :: rest => pure (v, rest)
    | .variable name :: rest => do
      if idle then pure (0, rest) else return (← variableValue name, rest)
    | .sign "+" :: rest => primary text n idle rest
    | .sign "-" :: rest => do
      let (v, rest) ← primary text n idle rest
      pure (Number.wrap (-v), rest)
    | .sign "!" :: rest => do
      let (v, rest) ← primary text n idle rest
      pure (truth (v == 0), rest)
    | .sign "~" :: rest => do
      let (v, rest) ← primary text n idle rest
      pure (-v - 1, rest)
    | _ => complain text "expecting primary"

end

/-- The value of an expression. -/
def value (text : String) : Turn Int := do
  let ls := lexemes (text.length + 1) text.toList
  match ← assignment text (8 * ls.length + 8) false ls with
  | (v, []) => pure v
  | _ => complain text "expecting EOF"

end BenchCheckout.Shell.Arithmetic
