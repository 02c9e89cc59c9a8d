import BenchCheckout.Text.Utf8

/-!
# Octet texts

Shells and utilities count, compare and cut bytes. An octet text is a `String` with one character
for each byte, from 0 to 255; it can hold bytes that are no text at all. `ofText` and `toText` lead
from texts to octet texts and back.
-/

namespace BenchCheckout.Octets

def ofBytes (bytes : ByteArray) : String :=
  String.ofList (bytes.toList.map fun b => Char.ofNat b.toNat)

/-- Characters above 255 lose all but their last eight bits; an octet text has none of them. -/
def toBytes (s : String) : ByteArray :=
  s.toList.foldl (fun bytes c => bytes.push (UInt8.ofNat c.toNat)) (ByteArray.emptyWithCapacity 64)

/-- Every character is one byte in both kinds of text. -/
def isAscii (s : String) : Bool := s.toList.all (·.toNat < 128)

def ofText (s : String) : String := if isAscii s then s else ofBytes s.toUTF8

/-- Bytes that are no text are replaced. -/
def toText (s : String) : String := if isAscii s then s else Text.ofBytes (toBytes s)

/-! ## Classes of bytes -/

def isBlank (c : Char) : Bool := c == ' ' || c == '\t'

/-- Blanks, and what moves to another line or page. -/
def isSpace (c : Char) : Bool := c == ' ' || (9 ≤ c.toNat && c.toNat ≤ 13)

def isControl (c : Char) : Bool := c.toNat < 32 || c.toNat == 127

def isPrintable (c : Char) : Bool := 32 ≤ c.toNat && c.toNat < 127

def isGraphic (c : Char) : Bool := 32 < c.toNat && c.toNat < 127

def isHexDigit (c : Char) : Bool :=
  c.isDigit || ('a' ≤ c && c ≤ 'f') || ('A' ≤ c && c ≤ 'F')

def isPunctuation (c : Char) : Bool := isGraphic c && !c.isAlphanum

/-- The classes that a bracket of a pattern can name. -/
def classes : List (String × (Char → Bool)) :=
  [("alnum", Char.isAlphanum), ("cntrl", isControl), ("lower", Char.isLower), ("space", isSpace),
    ("alpha", Char.isAlpha), ("digit", Char.isDigit), ("print", isPrintable),
    ("upper", Char.isUpper), ("blank", isBlank), ("graph", isGraphic), ("punct", isPunctuation),
    ("xdigit", isHexDigit)]

def class? (name : String) : Option (Char → Bool) := (classes.find? (·.1 == name)).map (·.2)

/-! ## Cutting -/

/-- The text without characters at its ends. -/
def trim (isEnd : Char → Bool) (s : List Char) : List Char :=
  ((s.dropWhile isEnd).reverse.dropWhile isEnd).reverse

end BenchCheckout.Octets
