import BenchCheckout.Json.Numeral

/-!
# JSON tokens

`tokens s` cuts a text into tokens. A place where no token can be read becomes a token that holds
the fault, so that whoever reads the tokens in order meets the first problem first, and only if it
is in the place of a value. Nothing that follows such a token matters.

Two readings of a string or a number differ: a strict one that yields its value, and a loose one
that only finds where it ends. The token keeps the outcome of both.
-/

namespace BenchCheckout.Json

inductive Token where
  | openObject
  | closeObject
  | openList
  | closeList
  | comma
  | colon
  | null
  | boolean (b : Bool)
  | number (n : Numeral)
  | brokenNumber (strict loose : Fault)
  | text (strict : Except Fault String) (loose : Option Fault)
  | brokenWord (fault : Fault)
  | stray

namespace Token

/-- The four blanks that JSON allows between tokens. -/
def isSpace (c : Char) : Bool := c == ' ' || c == '\n' || c == '\t' || c == '\r'

/-! ## Strings -/

def hexValue? (c : Char) : Option Nat :=
  if c.isDigit then some (c.toNat - '0'.toNat)
  else if 'a' ≤ c ∧ c ≤ 'f' then some (c.toNat - 'a'.toNat + 10)
  else if 'A' ≤ c ∧ c ≤ 'F' then some (c.toNat - 'A'.toNat + 10)
  else none

def hex4? (a b c d : Char) : Option Nat := do
  return ((← hexValue? a) * 16 + (← hexValue? b)) * 256 + (← hexValue? c) * 16 + (← hexValue? d)

/-- A `\u` that is not followed by four hexadecimal digits. The text is too short if fewer than four
bytes are left of it. -/
def shortEscape (rest : List Char) : Fault :=
  if rest.foldl (fun n c => n + c.utf8Size) 0 < 4 then .endInString else .invalidEscape

/-- The character of an escape of one letter. -/
def plainEscape? : Char → Option Char
  | '"' => some '"'
  | '\\' => some '\\'
  | '/' => some '/'
  | 'b' => some '\x08'
  | 'f' => some '\x0c'
  | 'n' => some '\n'
  | 'r' => some '\r'
  | 't' => some '\t'
  | _ => none

/-- The contents of a string, from behind its opening quote. -/
def readText : List Char → Except Fault (List Char)
  | [] => .error .endInString
  | '"' :: _ => .ok []
  | '\\' :: 'u' :: a :: b :: c :: d :: r =>
    match hex4? a b c d with
    | none => .error .invalidEscape
    | some n =>
      if 0xDC00 ≤ n ∧ n ≤ 0xDFFF then .error .loneSurrogate
      else if 0xD800 ≤ n ∧ n ≤ 0xDBFF then
        match r with
        | '\\' :: 'u' :: e :: f :: g :: h :: r =>
          match hex4? e f g h with
          | none => .error .invalidEscape
          | some m =>
            if 0xDC00 ≤ m ∧ m ≤ 0xDFFF then
              let astral := Char.ofNat (0x10000 + (n - 0xD800) * 0x400 + (m - 0xDC00))
              (readText r).map (astral :: ·)
            else .error .loneSurrogate
        | '\\' :: 'u' :: r => .error (shortEscape r)
        | [] | ['\\'] => .error .endInString
        | _ => .error .unfinishedSurrogatePair
      else (readText r).map (Char.ofNat n :: ·)
  | '\\' :: 'u' :: r => .error (shortEscape r)
  | ['\\'] => .error .endInString
  | '\\' :: c :: r =>
    match plainEscape? c with
    | some c => (readText r).map (c :: ·)
    | none => .error .invalidEscape
  | c :: r => if c.toNat < 0x20 then .error .controlCharacter else (readText r).map (c :: ·)

/-- What follows a string, from behind its opening quote. Surrogates need no partner here. -/
def skipText : List Char → Except Fault (List Char)
  | [] => .error .endInString
  | '"' :: r => .ok r
  | '\\' :: 'u' :: a :: b :: c :: d :: r =>
    match hex4? a b c d with
    | none => .error .invalidEscape
    | some _ => skipText r
  | '\\' :: 'u' :: r => .error (shortEscape r)
  | ['\\'] => .error .endInString
  | '\\' :: c :: r =>
    match plainEscape? c with
    | some _ => skipText r
    | none => .error .invalidEscape
  | c :: r => if c.toNat < 0x20 then .error .controlCharacter else skipText r

/-! ## Numbers -/

def digits (s : List Char) : List Nat :=
  (s.takeWhile Char.isDigit).map fun c => c.toNat - '0'.toNat

def afterDigits (s : List Char) : List Char := s.dropWhile Char.isDigit

/-- No digit where one has to stand. The strict reading tells the end of the text apart. -/
def missingDigit (rest : List Char) : Token :=
  .brokenNumber (if rest.isEmpty then .endInValue else .invalidNumber) .invalidNumber

/-- From behind the `e` on. -/
def readExponent (n : Numeral) (s : List Char) : Token × List Char :=
  let (sign, s) : Int × List Char :=
    match s with
    | '+' :: s => (1, s)
    | '-' :: s => (-1, s)
    | s => (1, s)
  let ds := digits s
  if ds.isEmpty then (missingDigit s, [])
  else (.number { n with exponent := some (sign * (ds.foldl (· * 10 + ·) 0 : Nat)) }, afterDigits s)

def readExponent? (n : Numeral) (s : List Char) : Token × List Char :=
  match s with
  | 'e' :: s | 'E' :: s => readExponent n s
  | s => (.number n, s)

/-- From behind the sign on. A zero in front stands alone. -/
def readNumber (negative : Bool) (s : List Char) : Token × List Char :=
  match digits s with
  | [] => (missingDigit s, [])
  | 0 :: _ :: _ => (.brokenNumber .invalidNumber .invalidNumber, [])
  | whole =>
    match afterDigits s with
    | '.' :: s =>
      let fraction := digits s
      if fraction.isEmpty then (missingDigit s, [])
      else readExponent? ⟨negative, whole, fraction, none⟩ (afterDigits s)
    | s => readExponent? ⟨negative, whole, [], none⟩ s

/-! ## The cut -/

/-- A word of which the first letter has been read. -/
def readWord (t : Token) : List Char → List Char → Token × List Char
  | [], r => (t, r)
  | _ :: _, [] => (.brokenWord .endInValue, [])
  | w :: ws, c :: r => if c = w then readWord t ws r else (.brokenWord .expectedWord, [])

def readString (s : List Char) : Token × List Char :=
  let strict := (readText s).map String.ofList
  match skipText s with
  | .ok r => (.text strict none, r)
  | .error f => (.text strict (some f), [])

/-- The token that starts with `c`, which is no blank. -/
def next (c : Char) (s : List Char) : Token × List Char :=
  match c with
  | '{' => (.openObject, s)
  | '}' => (.closeObject, s)
  | '[' => (.openList, s)
  | ']' => (.closeList, s)
  | ',' => (.comma, s)
  | ':' => (.colon, s)
  | 'n' => readWord .null ['u', 'l', 'l'] s
  | 't' => readWord (.boolean true) ['r', 'u', 'e'] s
  | 'f' => readWord (.boolean false) ['a', 'l', 's', 'e'] s
  | '"' => readString s
  | '-' => readNumber true s
  | c => if c.isDigit then readNumber false (c :: s) else (.stray, s)

/-- At most `fuel` characters and tokens. -/
def cut : Nat → List Char → List Token
  | 0, _ => []
  | _, [] => []
  | fuel + 1, c :: s =>
    if isSpace c then cut fuel s
    else (next c s).1 :: cut fuel (next c s).2

end Token

/-- Every token takes a character, so the length of the text is enough. -/
def tokens (s : List Char) : List Token := Token.cut s.length s

end BenchCheckout.Json
