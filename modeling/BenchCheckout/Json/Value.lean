import BenchCheckout.Json.Numeral

/-!
# JSON values and their texts

`compact v` writes a value without blanks, `pretty v` one member or element a line, indented by two
blanks a level.
-/

namespace BenchCheckout.Json

inductive Value where
  | null
  | boolean (b : Bool)
  | number (n : Numeral)
  | text (s : String)
  | list (items : List Value)
  | object (members : List (String × Value))

namespace Value

def ofNat (n : Nat) : Value :=
  .number ⟨false, (Nat.toDigits 10 n).map fun c => c.toNat - '0'.toNat, [], none⟩

/-! ## Leaves -/

def escapeChar (c : Char) : List Char :=
  match c with
  | '"' => ['\\', '"']
  | '\\' => ['\\', '\\']
  | '\x08' => ['\\', 'b']
  | '\x0c' => ['\\', 'f']
  | '\n' => ['\\', 'n']
  | '\r' => ['\\', 'r']
  | '\t' => ['\\', 't']
  | c =>
    if c.toNat < 0x20 then
      ['\\', 'u', '0', '0', Nat.digitChar (c.toNat / 16), Nat.digitChar (c.toNat % 16)]
    else [c]

def encodeText (s : String) : List Char := '"' :: s.toList.flatMap escapeChar ++ ['"']

def digitText (ds : List Nat) : List Char := ds.map Nat.digitChar

def encodeExponent (e : Int) : List Char :=
  'e' :: (if e < 0 then ['-'] else []) ++ Nat.toDigits 10 e.natAbs

def encodeNumeral (n : Numeral) : List Char :=
  (if n.negative then ['-'] else []) ++ digitText n.whole ++
    (if n.fraction.isEmpty then [] else '.' :: digitText n.fraction) ++
    (n.exponent.map encodeExponent).getD []

/-! ## Layout -/

/-- What stands between the tokens of lists and objects. -/
structure Layout where
  /-- Behind an opening bracket of depth `n`, and behind each comma in it. -/
  lineStart : Nat → List Char
  /-- In front of the closing bracket of depth `n`. -/
  lineEnd : Nat → List Char
  afterColon : List Char

def Layout.compact : Layout := ⟨fun _ => [], fun _ => [], []⟩

def Layout.indented : Layout :=
  ⟨fun n => '\n' :: List.replicate (2 * (n + 1)) ' ', fun n => '\n' :: List.replicate (2 * n) ' ',
    [' ']⟩

mutual

/-- The text of a value that lies `depth` brackets deep. -/
def encode (layout : Layout) (depth : Nat) : Value → List Char
  | .null => ['n', 'u', 'l', 'l']
  | .boolean true => ['t', 'r', 'u', 'e']
  | .boolean false => ['f', 'a', 'l', 's', 'e']
  | .number n => encodeNumeral n
  | .text s => encodeText s
  | .list [] => ['[', ']']
  | .list (v :: vs) =>
    '[' :: layout.lineStart depth ++ encode layout (depth + 1) v ++
      encodeItems layout depth vs ++ layout.lineEnd depth ++ [']']
  | .object [] => ['{', '}']
  | .object ((k, v) :: ms) =>
    '{' :: layout.lineStart depth ++ encodeText k ++ ':' :: layout.afterColon ++
      encode layout (depth + 1) v ++ encodeMembers layout depth ms ++ layout.lineEnd depth ++ ['}']

/-- The elements behind the first one. -/
def encodeItems (layout : Layout) (depth : Nat) : List Value → List Char
  | [] => []
  | v :: vs =>
    ',' :: layout.lineStart depth ++ encode layout (depth + 1) v ++ encodeItems layout depth vs

/-- The members behind the first one. -/
def encodeMembers (layout : Layout) (depth : Nat) : List (String × Value) → List Char
  | [] => []
  | (k, v) :: ms =>
    ',' :: layout.lineStart depth ++ encodeText k ++ ':' :: layout.afterColon ++
      encode layout (depth + 1) v ++ encodeMembers layout depth ms

end

def compact (v : Value) : String := String.ofList (encode .compact 0 v)

def pretty (v : Value) : String := String.ofList (encode .indented 0 v)

end Value

end BenchCheckout.Json
