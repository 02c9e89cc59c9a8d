import BenchCheckout.Decimal.Binary64

/-!
# Numbers with a given number of digits

`fixed` writes a number with so many digits behind the point, `scientific` with so many behind the
first one, and `general` with so many in all, in the shorter of the two ways. Each rounds the exact
value once, and a half goes to the even neighbour.
-/

namespace BenchCheckout.Decimal

/-- A non-negative number as a numerator and a denominator. -/
abbrev Fraction := Nat × Nat

/-- Digits with a point in front of the last so many. -/
def withPoint (digits : List Char) (places : Nat) : List Char :=
  let digits := List.replicate (places + 1 - digits.length) '0' ++ digits
  let whole := digits.take (digits.length - places)
  if places = 0 then whole else whole ++ '.' :: digits.drop (digits.length - places)

def fixed (places : Nat) (x : Fraction) : List Char :=
  withPoint (Nat.toDigits 10 (Binary64.roundDiv (x.1 * Nat.pow 10 places) x.2)) places

/-- The digits of a number on the grid of a power of ten. -/
def onGrid (e : Int) (x : Fraction) : Nat :=
  Binary64.roundDiv (x.1 * Nat.pow 10 (-e).toNat) (x.2 * Nat.pow 10 e.toNat)

/-- The power of ten of the first digit, from a guess that is not too great; so many steps are
made. -/
def leadFrom (x : Fraction) : Nat → Int → Int
  | 0, e => e
  | n + 1, e =>
    -- The number has a digit at the next higher power too.
    if x.2 * Nat.pow 10 (e + 1).toNat ≤ x.1 * Nat.pow 10 (-(e + 1)).toNat then leadFrom x n (e + 1)
    else e

def lead (x : Fraction) : Int :=
  if x.1 = 0 then 0
  else
    let guess : Int := (Nat.toDigits 10 x.1).length - (Nat.toDigits 10 x.2).length - 1
    leadFrom x 3 guess

/-- The digits of a number, so many of them, and the power of ten of the first. -/
def significant (count : Nat) (x : Fraction) : List Char × Int :=
  let e := lead x
  let n := onGrid (e - count + 1) x
  let ds := Nat.toDigits 10 n
  if x.1 = 0 then (List.replicate count '0', 0)
  else if count < ds.length then (ds.take count, e + 1)
  else (ds, e)

/-- A power of ten with its sign and at least two digits. -/
def exponentText (e : Int) : List Char :=
  let ds := Nat.toDigits 10 e.natAbs
  (if e < 0 then ['e', '-'] else ['e', '+']) ++ List.replicate (2 - ds.length) '0' ++ ds

def scientific (places : Nat) (x : Fraction) : List Char :=
  let (ds, e) := significant (places + 1) x
  withPoint ds places ++ exponentText e

/-- Digits behind a point without the zeros at their end. -/
def trimZeros (s : List Char) : List Char :=
  if '.' ∈ s then
    match s.reverse.dropWhile (· = '0') with
    | '.' :: rest => rest.reverse
    | rest => rest.reverse
  else s

def general (keepsZeros : Bool) (count : Nat) (x : Fraction) : List Char :=
  let count := max count 1
  let (ds, e) := significant count x
  let trim (s : List Char) : List Char := if keepsZeros then s else trimZeros s
  if e < -4 ∨ (count : Int) ≤ e then trim (withPoint ds (count - 1)) ++ exponentText e
  else trim (fixed ((count : Int) - 1 - e).toNat x)

end BenchCheckout.Decimal
