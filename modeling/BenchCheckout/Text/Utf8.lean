/-!
# Bytes read as text

`ofBytes` reads UTF-8. A stretch of bytes that starts a character and does not end it is replaced as
a whole by one replacement character, and so is each byte that starts none.
-/

namespace BenchCheckout.Text

/-- The character that stands for bytes that are no text. -/
def replacement : Char := '\ufffd'

/-- The least and the greatest of each of the bytes that follow a first byte. -/
def followers (b : UInt8) : Option (List (UInt8 × UInt8)) :=
  let any : UInt8 × UInt8 := (0x80, 0xbf)
  if b < 0x80 then some []
  else if b < 0xc2 then none
  else if b < 0xe0 then some [any]
  else if b = 0xe0 then some [(0xa0, 0xbf), any]
  else if b = 0xed then some [(0x80, 0x9f), any]
  else if b < 0xf0 then some [any, any]
  else if b = 0xf0 then some [(0x90, 0xbf), any, any]
  else if b < 0xf4 then some [any, any, any]
  else if b = 0xf4 then some [(0x80, 0x8f), any, any]
  else none

/-- What a first byte contributes to a code point. -/
def leadBits (b : UInt8) : Nat :=
  if b < 0x80 then b.toNat
  else if b < 0xe0 then b.toNat - 0xc0
  else if b < 0xf0 then b.toNat - 0xe0
  else b.toNat - 0xf0

/-- The code point that bytes in ranges complete, if they do, and the bytes behind them. -/
def completed : List (UInt8 × UInt8) → Nat → List UInt8 → Option Nat × List UInt8
  | [], code, bs => (some code, bs)
  | _ :: _, _, [] => (none, [])
  | (least, greatest) :: rs, code, b :: bs =>
    if least ≤ b ∧ b ≤ greatest then completed rs (code * 64 + (b.toNat - 0x80)) bs
    else (none, b :: bs)

/-- The first character of bytes, and the bytes behind it. -/
def firstChar (b : UInt8) (bs : List UInt8) : Char × List UInt8 :=
  match followers b with
  | none => (replacement, bs)
  | some ranges =>
    match completed ranges (leadBits b) bs with
    | (some code, rest) => (Char.ofNat code, rest)
    | (none, rest) => (replacement, rest)

/-- Read at most so many characters. -/
def readChars : Nat → List UInt8 → List Char
  | 0, _ => []
  | _ + 1, [] => []
  | n + 1, b :: bs =>
    let (c, rest) := firstChar b bs
    c :: readChars n rest

def ofBytes (bytes : ByteArray) : String :=
  match String.fromUTF8? bytes with
  | some s => s
  | none => String.ofList (readChars bytes.size bytes.toList)

end BenchCheckout.Text
