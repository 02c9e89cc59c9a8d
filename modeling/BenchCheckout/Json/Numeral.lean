import BenchCheckout.Decimal.Shortest
import BenchCheckout.Json.Fault

/-!
# Numbers as they are written

A numeral is a sign, digits before the point, perhaps digits after it, perhaps an exponent. Its
value is an integer if it has neither and fits 64 bits, and a floating point number otherwise.
Minus zero is a floating point number.

The floating point value uses as many leading digits as fit 64 bits and one multiplication or
division by a rounded power of ten, so it can differ in the last place from the nearest one.
-/

namespace BenchCheckout.Json

/-- Digits are numbers below ten, the most significant first. -/
structure Numeral where
  negative : Bool
  whole : List Nat
  fraction : List Nat
  exponent : Option Int
deriving DecidableEq, Repr, Inhabited

inductive Number where
  | natural (n : Nat)
  /-- Minus `n`, for `n` from one on. -/
  | negative (n : Nat)
  | float (isNegative : Bool) (magnitude : Binary64)
deriving DecidableEq, Repr

def Number.found : Number → Found
  | natural n => .integer n
  | negative n => .integer (-(n : Int))
  | float isNegative x => .float ((if isNegative then "-" else "") ++ x.text)

namespace Numeral

/-- Neither a fraction nor an exponent. -/
def isPlain (n : Numeral) : Bool := n.fraction.isEmpty && n.exponent.isNone

/-- The least number that needs more than 64 bits, `2 ^ 64`. -/
def wordLimit : Nat := 18446744073709551616

/-- Append digits as long as the number stays below `wordLimit`; also the digits that are left. -/
def gather (n : Nat) : List Nat → Nat × List Nat
  | [] => (n, [])
  | d :: ds => if n * 10 + d < wordLimit then gather (n * 10 + d) ds else (n, d :: ds)

/-- Multiplied by `10 ^ e`. A power beyond `10 ^ 308` is reached in steps downwards and never
upwards. -/
def scale : Nat → Binary64 → Int → Except Fault Binary64
  | 0, _, _ => .ok .zero
  | steps + 1, x, e =>
    if e.natAbs ≤ 308 then
      match Binary64.round (Nat.pow 10 e.natAbs) 1 with
      | none => .error .numberOutOfRange
      | some p =>
        match if 0 ≤ e then x.mul p else x.div p with
        | none => .error .numberOutOfRange
        | some y => .ok y
    else if x.mantissa = 0 then .ok .zero
    else if 0 ≤ e then .error .numberOutOfRange
    else
      match (Binary64.round (Nat.pow 10 308) 1).bind x.div with
      | none => .error .numberOutOfRange
      | some y => scale steps y (e + 308)

/-- Three divisions by `10 ^ 308` bring every 64-bit number to zero. -/
def scaleSteps : Nat := 4

def value (n : Numeral) : Except Fault Number :=
  let (w, dropped) := gather 0 n.whole
  if n.isPlain ∧ dropped.isEmpty then
    if ¬ n.negative then .ok (.natural w)
    else if 0 < w ∧ 2 * w ≤ wordLimit then .ok (.negative w)
    else .ok (.float true ((Binary64.round w 1).getD .zero))
  else
    let (s, unused) := gather w n.fraction
    let shift : Int := dropped.length - (n.fraction.length - unused.length : Nat)
    match Binary64.round s 1 with
    | none => .error .numberOutOfRange
    | some x => (scale scaleSteps x (shift + n.exponent.getD 0)).map (.float n.negative ·)

end Numeral

end BenchCheckout.Json
