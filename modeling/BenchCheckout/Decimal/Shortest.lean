import BenchCheckout.Decimal.Binary64

/-!
# The shortest decimal text of a number

`shortest x` is `(c, k)` such that `c * 10 ^ k` rounds to `x`, with the fewest digits in `c` and, of
those, nearest to `x`. `Binary64.text` writes it: positional for numbers from `1e-5` up to below
`1e16`, with an exponent otherwise, and always recognisable as a number with a fraction.
-/

namespace BenchCheckout.Binary64

/-- `x` and the ends of the interval that rounds to it, as numerators over one denominator. -/
structure Interval where
  low : Nat
  value : Nat
  high : Nat
  denominator : Nat
  /-- The ends round to `x` too. -/
  closed : Bool

def interval (x : Binary64) : Interval :=
  let (u, d) := powerOfTwo x.exponent
  let m := x.mantissa
  -- Below a power of two the numbers lie twice as dense.
  let below := if m = leastMantissa ∧ leastExponent < x.exponent then 1 else 2
  { low := (4 * m - below) * u, value := 4 * m * u, high := (4 * m + 2) * u, denominator := 4 * d,
    closed := m % 2 = 0 }

/-- `c * 10 ^ k` lies in the interval. -/
def Interval.holds (i : Interval) (c : Nat) (k : Int) : Bool :=
  let v := c * Nat.pow 10 k.toNat * i.denominator
  let s := Nat.pow 10 (-k).toNat
  if i.closed then i.low * s ≤ v && v ≤ i.high * s else i.low * s < v && v < i.high * s

/-- The point of the grid `10 ^ k` in the interval that is nearest to the value. -/
def Interval.onGrid? (i : Interval) (k : Int) : Option Nat :=
  let num := i.value * Nat.pow 10 (-k).toNat
  let den := i.denominator * Nat.pow 10 k.toNat
  let c := num / den
  let r := num % den
  match i.holds c k && c ≠ 0, i.holds (c + 1) k with
  | true, true => some (if 2 * r < den ∨ (2 * r = den ∧ c % 2 = 0) then c else c + 1)
  | true, false => some c
  | false, true => some (c + 1)
  | false, false => none

/-- Finer and finer grids, `steps` of them from `10 ^ k` on. -/
def Interval.search (i : Interval) : Nat → Int → Nat × Int
  | 0, k => (i.value * Nat.pow 10 (-k).toNat / (i.denominator * Nat.pow 10 k.toNat), k)
  | steps + 1, k =>
    match i.onGrid? k with
    | some c => (c, k)
    | none => i.search steps (k - 1)

def shortest (x : Binary64) : Nat × Int :=
  if x.mantissa = 0 then (0, 0)
  else
    -- A power of ten above every number: no coarser grid has a point near the value.
    let bits : Int := Nat.log2 x.mantissa + 1 + x.exponent
    let top := (if 0 ≤ bits then bits / 3 else bits / 4) + 1
    x.interval.search 420 top

/-- The digits `ds` stand before `point` more places. -/
def positional (ds : List Char) (point : Int) : List Char :=
  if point ≤ 0 then ['0', '.'] ++ List.replicate (-point).toNat '0' ++ ds
  else
    let n := point.toNat
    if ds.length ≤ n then ds ++ List.replicate (n - ds.length) '0' ++ ['.', '0']
    else ds.take n ++ '.' :: ds.drop n

def scientific (ds : List Char) (point : Int) : List Char :=
  let e := point - 1
  let mark := if e < 0 then ['e', '-'] else ['e', '+']
  let fraction := if ds.length ≤ 1 then [] else '.' :: ds.drop 1
  ds.take 1 ++ fraction ++ mark ++ Nat.toDigits 10 e.natAbs

/-- The text of a number. -/
def text (x : Binary64) : String :=
  let (c, k) := x.shortest
  let ds := Nat.toDigits 10 c
  let point := (ds.length : Int) + k
  if x.mantissa = 0 then "0.0"
  else if -5 < point ∧ point ≤ 16 then String.ofList (positional ds point)
  else String.ofList (scientific ds point)

end BenchCheckout.Binary64
