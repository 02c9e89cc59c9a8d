import BenchCheckout.Text.Octets

/-!
# Whole numbers as texts

Numbers are read as far as a text is one, and kept in 64 bits: a greater one is the greatest. They
may be written in base ten, or in the base that their first digits tell.
-/

namespace BenchCheckout.Shell.Number

/-- A number in 64 bits with a sign. -/
def wrap (n : Int) : Int := n.bmod 0x10000000000000000

def greatest : Int := 0x7fffffffffffffff

def least : Int := -0x8000000000000000

def digitValue (c : Char) : Nat :=
  if c.isDigit then c.toNat - '0'.toNat
  else if 'a' ≤ c ∧ c ≤ 'z' then c.toNat - 'a'.toNat + 10
  else if 'A' ≤ c ∧ c ≤ 'Z' then c.toNat - 'A'.toNat + 10
  else 36

def isDigitOf (base : Nat) (c : Char) : Bool := digitValue c < base

def valueOf (base : Nat) (ds : List Char) : Nat :=
  ds.foldl (fun n d => base * n + digitValue d) 0

def decimal (ds : List Char) : Nat := valueOf 10 ds

/-- What a text starts with. -/
structure Reading where
  value : Int
  /-- The value even if it does not fit. -/
  exact : Int
  /-- The number did not fit. -/
  isTooGreat : Bool
  /-- There was a digit. -/
  isNumber : Bool
  rest : List Char

/-- The base that the first digits tell, and the digits behind them. -/
def baseOf (ds : List Char) : Nat × List Char :=
  match ds with
  | '0' :: x :: d :: rest =>
    if (x = 'x' ∨ x = 'X') ∧ isDigitOf 16 d then (16, d :: rest) else (8, ds)
  | '0' :: _ => (8, ds)
  | ds => (10, ds)

/-- The number that a text starts with, behind blanks. -/
def read (anyBase : Bool) (s : List Char) : Reading :=
  let t := s.dropWhile Octets.isSpace
  let (isNegative, t) := match t with
    | '-' :: t => (true, t)
    | '+' :: t => (false, t)
    | t => (false, t)
  let (base, ds) := if anyBase then baseOf t else (10, t)
  let digits := ds.takeWhile (isDigitOf base)
  if digits.isEmpty then ⟨0, 0, false, false, s⟩
  else
    let n : Int := valueOf base digits
    let n := if isNegative then -n else n
    let isTooGreat := n < least || greatest < n
    ⟨max least (min greatest n), n, isTooGreat, true, ds.dropWhile (isDigitOf base)⟩

/-- The number that a text is, with blanks around it. In any base a blank text is zero. -/
def ofText? (anyBase : Bool) (s : String) : Option Int :=
  let r := read anyBase s.toList
  if r.isTooGreat ∨ (!anyBase ∧ !r.isNumber) then none
  else if (r.rest.dropWhile Octets.isSpace).isEmpty then some r.value
  else none

/-- A number that counts something. -/
def count? (s : String) : Option Nat :=
  match ofText? false s with
  | some (.ofNat n) => if n < 0x80000000 then some n else none
  | _ => none

def text (n : Int) : String := (if n < 0 then "-" else "") ++ n.natAbs.repr

end BenchCheckout.Shell.Number
