/-!
# Binary floating point with 53 bits

A non-negative number is `mantissa * 2 ^ exponent` with a mantissa below `2 ^ 53` and an exponent
between -1074 and 971. `round num den` is the nearest such number to `num / den`; of two that are
equally near, the one with the even mantissa. There is none if `num / den` is too large.
-/

namespace BenchCheckout

structure Binary64 where
  mantissa : Nat
  exponent : Int
deriving DecidableEq, Repr, Inhabited

namespace Binary64

def zero : Binary64 := ⟨0, 0⟩

/-- The least mantissa of 53 bits, `2 ^ 52`. -/
def leastMantissa : Nat := 4503599627370496

def leastExponent : Int := -1074
def greatestExponent : Int := 971

/-- Two to an integer power, as a numerator and a denominator. -/
def powerOfTwo (e : Int) : Nat × Nat := (Nat.pow 2 e.toNat, Nat.pow 2 (-e).toNat)

/-- `num / den`, rounded to the nearest natural number; a half goes to the even neighbour. -/
def roundDiv (num den : Nat) : Nat :=
  let q := num / den
  let r := num % den
  if 2 * r < den then q
  else if den < 2 * r then q + 1
  else if q % 2 = 0 then q else q + 1

/-- The exponent at which `num / den` has 53 bits before the point, or the least exponent. -/
def exponentFor (num den : Nat) : Int :=
  let guess : Int := (Nat.log2 num : Int) - (Nat.log2 den : Int) - 52
  let (u, d) := powerOfTwo guess
  -- The logarithms leave the quotient between a half and twice what the guess says.
  let e := if num * d < leastMantissa * den * u then guess - 1 else guess
  max e leastExponent

def round (num den : Nat) : Option Binary64 :=
  if num = 0 then some zero
  else
    let e := exponentFor num den
    let (u, d) := powerOfTwo e
    let m := roundDiv (num * d) (den * u)
    let (m, e) := if m = 2 * leastMantissa then (leastMantissa, e + 1) else (m, e)
    if greatestExponent < e then none else some ⟨m, e⟩

/-- As a numerator and a denominator. -/
def fraction (x : Binary64) : Nat × Nat :=
  let (u, d) := powerOfTwo x.exponent
  (x.mantissa * u, d)

def mul (x y : Binary64) : Option Binary64 :=
  round (x.fraction.1 * y.fraction.1) (x.fraction.2 * y.fraction.2)

/-- For a `y` that is not zero. -/
def div (x y : Binary64) : Option Binary64 :=
  round (x.fraction.1 * y.fraction.2) (x.fraction.2 * y.fraction.1)

end Binary64

end BenchCheckout
