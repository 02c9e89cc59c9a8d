import BenchCheckout.Json.Token
import BenchCheckout.Json.Value

/-!
# The texts of a JSON value

`v.tokens` are the tokens of a value. `Spells ts s` says that the text `s` is the tokens `ts`, with
any blanks in front of each and behind the last, each character of a string as itself or as any of
its escapes, and each number in any of its forms. `v.IsText s` says that `s` is a text of the value
`v`.
-/

namespace BenchCheckout.Json

/-! ## Numbers -/

def IsBlank (s : List Char) : Prop := ∀ c ∈ s, Token.isSpace c = true

/-- Decimal digits, at least one. -/
def IsDigits (ds : List Nat) : Prop := ds ≠ [] ∧ ∀ d ∈ ds, d < 10

/-- A fraction with its point, or no fraction. -/
inductive SpellsFraction : List Nat → List Char → Prop where
  | none : SpellsFraction [] []
  | digits {ds : List Nat} (h : IsDigits ds) : SpellsFraction ds ('.' :: Value.digitText ds)

/-- The signs of an exponent. -/
def exponentSigns : List (List Char × Int) := [([], 1), (['+'], 1), (['-'], -1)]

/-- An exponent with its mark, or no exponent. -/
inductive SpellsExponent : Option Int → List Char → Prop where
  | none : SpellsExponent none []
  | digits {mark : Char} {sign : List Char} {unit : Int} {ds : List Nat}
      (hm : mark = 'e' ∨ mark = 'E') (hs : (sign, unit) ∈ exponentSigns) (h : IsDigits ds) :
      SpellsExponent (some (unit * (ds.foldl (· * 10 + ·) 0 : Nat)))
        (mark :: (sign ++ Value.digitText ds))

/-- A zero in front of the point stands alone. -/
inductive Numeral.Spells : Numeral → List Char → Prop where
  | mk {negative : Bool} {whole fraction : List Nat} {exponent : Option Int} {f e : List Char}
      (hw : IsDigits whole) (hz : whole.head? = some 0 → whole = [0])
      (hf : SpellsFraction fraction f) (he : SpellsExponent exponent e) :
      Numeral.Spells ⟨negative, whole, fraction, exponent⟩
        ((if negative then ['-'] else []) ++ Value.digitText whole ++ f ++ e)

/-! ## Strings -/

/-- A character of a string: itself, an escape of one letter, its code, or two codes if it lies
beyond the first 65536. -/
inductive SpellsChar : Char → List Char → Prop where
  | plain {c : Char} (h : 0x20 ≤ c.toNat) (hq : c ≠ '"') (hb : c ≠ '\\') : SpellsChar c [c]
  | letter {l c : Char} (h : Token.plainEscape? l = some c) : SpellsChar c ['\\', l]
  | code {c x₁ x₂ x₃ x₄ : Char} (h : Token.hex4? x₁ x₂ x₃ x₄ = some c.toNat) :
      SpellsChar c ['\\', 'u', x₁, x₂, x₃, x₄]
  | pair {c x₁ x₂ x₃ x₄ y₁ y₂ y₃ y₄ : Char} (h : 0x10000 ≤ c.toNat)
      (hx : Token.hex4? x₁ x₂ x₃ x₄ = some (0xD800 + (c.toNat - 0x10000) / 0x400))
      (hy : Token.hex4? y₁ y₂ y₃ y₄ = some (0xDC00 + (c.toNat - 0x10000) % 0x400)) :
      SpellsChar c ['\\', 'u', x₁, x₂, x₃, x₄, '\\', 'u', y₁, y₂, y₃, y₄]

inductive SpellsText : List Char → List Char → Prop where
  | nil : SpellsText [] []
  | cons {c : Char} {cs s r : List Char} (h : SpellsChar c s) (hr : SpellsText cs r) :
      SpellsText (c :: cs) (s ++ r)

/-! ## Tokens -/

inductive Token.Spells : Token → List Char → Prop where
  | openObject : Token.Spells .openObject ['{']
  | closeObject : Token.Spells .closeObject ['}']
  | openList : Token.Spells .openList ['[']
  | closeList : Token.Spells .closeList [']']
  | comma : Token.Spells .comma [',']
  | colon : Token.Spells .colon [':']
  | null : Token.Spells .null ['n', 'u', 'l', 'l']
  | true : Token.Spells (.boolean true) ['t', 'r', 'u', 'e']
  | false : Token.Spells (.boolean false) ['f', 'a', 'l', 's', 'e']
  | number {n : Numeral} {s : List Char} (h : n.Spells s) : Token.Spells (.number n) s
  | text {cs s : List Char} (h : SpellsText cs s) :
      Token.Spells (.text (.ok (String.ofList cs)) none) ('"' :: (s ++ ['"']))

/-- What does not go on with a number. -/
def EndsNumber (s : List Char) : Prop :=
  ∀ c, s.head? = some c → c.isDigit = false ∧ c ≠ '.' ∧ c ≠ 'e' ∧ c ≠ 'E'

/-- Tokens one after the other, with blanks between them. -/
inductive Spells : List Token → List Char → Prop where
  | done {b : List Char} (hb : IsBlank b) : Spells [] b
  | token {b s r : List Char} {t : Token} {ts : List Token} (hb : IsBlank b) (ht : t.Spells s)
      (hr : Spells ts r) (hn : ∀ n, t = .number n → EndsNumber r) : Spells (t :: ts) (b ++ s ++ r)

namespace Value

mutual

/-- The tokens of a value. -/
def tokens : Value → List Token
  | .null => [.null]
  | .boolean b => [.boolean b]
  | .number n => [.number n]
  | .text s => [.text (.ok s) none]
  | .list [] => [.openList, .closeList]
  | .list (v :: vs) => .openList :: v.tokens ++ itemTokens vs ++ [.closeList]
  | .object [] => [.openObject, .closeObject]
  | .object ((k, v) :: ms) =>
    .openObject :: .text (.ok k) none :: .colon :: v.tokens ++ memberTokens ms ++ [.closeObject]

/-- The elements behind the first one. -/
def itemTokens : List Value → List Token
  | [] => []
  | v :: vs => .comma :: v.tokens ++ itemTokens vs

/-- The members behind the first one. -/
def memberTokens : List (String × Value) → List Token
  | [] => []
  | (k, v) :: ms => .comma :: .text (.ok k) none :: .colon :: v.tokens ++ memberTokens ms

end

/-- `s` is a text of the value `v`. -/
def IsText (v : Value) (s : String) : Prop := Spells v.tokens s.toList

end Value

end BenchCheckout.Json
