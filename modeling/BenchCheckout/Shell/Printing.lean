import BenchCheckout.Decimal.Places
import BenchCheckout.Shell.Number

/-!
# Printing with escapes and formats

`echo` prints words with their escapes; `formatted` prints words by a format, which is used again as
long as words are left. All texts are octet texts.
-/

namespace BenchCheckout.Shell.Printing

def isOctal (c : Char) : Bool := '0' ≤ c && c ≤ '7'

/-- A byte by its number, of which eight bits count. -/
def byte (n : Nat) : Char := Char.ofNat (n % 256)

/-- The character that stands for what follows a backslash, and the rest. -/
def escapeAt : List Char → Char × List Char
  | [] => ('\\', [])
  | c :: cs =>
    if isOctal c then
      let ds := ((c :: cs).takeWhile isOctal).take 3
      (byte (Number.valueOf 8 ds), (c :: cs).drop ds.length)
    else match c with
      | 'a' => ('\x07', cs)
      | 'b' => ('\x08', cs)
      | 'f' => ('\x0c', cs)
      | 'n' => ('\n', cs)
      | 'r' => ('\r', cs)
      | 't' => ('\t', cs)
      | 'v' => ('\x0b', cs)
      | '\\' => ('\\', cs)
      | c => ('\\', c :: cs)

/-- A word with its escapes, and whether one of them ends the output. An octal number may have a
zero in front of its three digits. -/
def escapedWithin : Nat → List Char → List Char × Bool
  | 0, _ => ([], false)
  | _ + 1, [] => ([], false)
  | _ + 1, '\\' :: 'c' :: _ => ([], true)
  | n + 1, '\\' :: cs =>
    let cs := match cs with
      | '0' :: d :: rest => if isOctal d then d :: rest else cs
      | cs => cs
    let (c, rest) := escapeAt cs
    let (s, stop) := escapedWithin n rest
    (c :: s, stop)
  | n + 1, c :: cs =>
    let (s, stop) := escapedWithin n cs
    (c :: s, stop)

def escaped (word : String) : List Char × Bool := escapedWithin (word.length + 1) word.toList

/-- Words with blanks between them, up to an escape that ends the output. -/
def joined : List String → List Char × Bool
  | [] => ([], false)
  | w :: ws =>
    let (s, stop) := escaped w
    if stop || ws.isEmpty then (s, stop)
    else
      let (rest, stop) := joined ws
      (s ++ ' ' :: rest, stop)

def echo (words : List String) : String :=
  let (newline, words) := match words with
    | "-n" :: ws => (false, ws)
    | ws => (true, ws)
  let (s, stop) := joined words
  String.ofList (if newline && !stop then s ++ ['\n'] else s)

/-! ## Formats -/

/-- How a value is written. -/
structure Directive where
  flags : List Char
  width : Nat
  precision : Option Nat
  kind : Char

/-- What is wrong with a word. -/
inductive Complaint where
  | notNumeric (word : String)
  | notConverted (word : String)
  | tooGreat (word : String)
deriving DecidableEq, Repr

def Complaint.text : Complaint → String
  | notNumeric word => word ++ ": expected numeric value"
  | notConverted word => word ++ ": not completely converted"
  | tooGreat word => word ++ ": Numerical result out of range"

/-- What ends the printing. -/
inductive Stop where
  /-- An escape asked for it. -/
  | asked
  | noKind
  | badDirective (text : String)
deriving DecidableEq, Repr

structure Progress where
  /-- The words that are not printed yet. -/
  words : List String
  text : List Char
  complaints : List Complaint
  stop : Option Stop

namespace Progress

def add (s : List Char) (p : Progress) : Progress := { p with text := p.text ++ s }

def takeWord (p : Progress) : Option String × Progress :=
  match p.words with
  | [] => (none, p)
  | w :: ws => (some w, { p with words := ws })

def complain (c : Complaint) (p : Progress) : Progress :=
  { p with complaints := p.complaints ++ [c] }

/-- A complaint about a word of which `rest` is no number. -/
def check (word : String) (rest : List Char) (isTooGreat : Bool) (p : Progress) : Progress :=
  if rest ≠ [] then
    p.complain (if rest.length = word.length then .notNumeric word else .notConverted word)
  else if isTooGreat then p.complain (.tooGreat word)
  else p

/-- The code of a character behind a quote at the start of a word. -/
def quotedCode? (word : String) : Option Nat :=
  match word.toList with
  | q :: rest => if q = '"' ∨ q = '\'' then some ((rest.head?.map Char.toNat).getD 0) else none
  | [] => none

/-- The number that the next word is. -/
def takeNumber (isSigned : Bool) (p : Progress) : Int × Progress :=
  match p.takeWord with
  | (none, p) => (0, p)
  | (some word, p) =>
    match quotedCode? word with
    | some n => (n, p)
    | none =>
      let r := Number.read true word.toList
      if isSigned then (r.value, p.check word r.rest r.isTooGreat)
      else
        let isTooGreat := 0x10000000000000000 ≤ r.exact.natAbs
        let n : Int :=
          if isTooGreat then 0xffffffffffffffff else r.exact.emod 0x10000000000000000
        (n, p.check word r.rest isTooGreat)

/-- The fraction that a text starts with, its sign, and the rest. -/
def readFraction (s : List Char) : Bool × Decimal.Fraction × List Char :=
  let t := s.dropWhile Octets.isSpace
  let (isNegative, t) := match t with
    | '-' :: t => (true, t)
    | '+' :: t => (false, t)
    | t => (false, t)
  let whole := t.takeWhile Char.isDigit
  let rest := t.dropWhile Char.isDigit
  let (places, rest) := match rest with
    | '.' :: more =>
      let ds := more.takeWhile Char.isDigit
      if whole.isEmpty && ds.isEmpty then ([], rest) else (ds, more.dropWhile Char.isDigit)
    | rest => ([], rest)
  if whole.isEmpty && places.isEmpty then (false, (0, 1), s)
  else
    let power (e : List Char) : Option (Int × List Char) :=
      let (minus, e) := match e with
        | '-' :: e => (true, e)
        | '+' :: e => (false, e)
        | e => (false, e)
      let ds := e.takeWhile Char.isDigit
      let n : Int := Number.decimal (ds.take 4)
      if ds.isEmpty then none else some (if minus then -n else n, e.dropWhile Char.isDigit)
    let (e, rest) := match rest with
      | c :: more => if c = 'e' ∨ c = 'E' then (power more).getD (0, rest) else (0, rest)
      | [] => (0, [])
    let digits := Number.decimal (whole ++ places)
    let e := e - places.length
    let exact : Decimal.Fraction := (digits * Nat.pow 10 e.toNat, Nat.pow 10 (-e).toNat)
    let rounded := (Binary64.round exact.1 exact.2).map (·.fraction)
    (isNegative, rounded.getD exact, rest)

/-- The number with a fraction that the next word is. -/
def takeFraction (p : Progress) : Bool × Decimal.Fraction × Progress :=
  match p.takeWord with
  | (none, p) => (false, (0, 1), p)
  | (some word, p) =>
    match quotedCode? word with
    | some n => (false, (n, 1), p)
    | none =>
      let (isNegative, x, rest) := readFraction word.toList
      (isNegative, x, p.check word rest false)

end Progress

/-! ## Values -/

def padded (d : Directive) (s : List Char) : List Char :=
  let fill := List.replicate (d.width - s.length) ' '
  if '-' ∈ d.flags then s ++ fill else fill ++ s

def upperIf (isUpper : Bool) (s : List Char) : List Char := if isUpper then s.map Char.toUpper else s

/-- What stands in front of a number that is not negative. -/
def plusSign (d : Directive) : List Char :=
  if '+' ∈ d.flags then ['+'] else if ' ' ∈ d.flags then [' '] else []

/-- A sign and digits, filled up with zeros if the flags say so. -/
def filled (d : Directive) (zeros : Bool) (sign digits : List Char) : List Char :=
  let fill :=
    if zeros && '0' ∈ d.flags && '-' ∉ d.flags then
      List.replicate (d.width - sign.length - digits.length) '0'
    else []
  padded d (sign ++ fill ++ digits)

/-- A whole number in digits of its base. -/
def numeral (d : Directive) (n : Int) : List Char :=
  let isSigned := d.kind = 'd' ∨ d.kind = 'i'
  let base := match d.kind with
    | 'o' => 8
    | 'x' | 'X' => 16
    | _ => 10
  let digits := if n = 0 ∧ d.precision = some 0 then [] else Nat.toDigits base n.natAbs
  let digits := List.replicate (d.precision.getD 0 - digits.length) '0' ++ digits
  let isMarked := '#' ∈ d.flags
  let digits := if isMarked ∧ base = 8 ∧ digits.head? ≠ some '0' then '0' :: digits else digits
  let sign :=
    if isSigned then if n < 0 then ['-'] else plusSign d
    else if isMarked ∧ base = 16 ∧ n ≠ 0 then ['0', 'x'] else []
  let upper := upperIf (d.kind = 'X')
  filled d d.precision.isNone (upper sign) (upper digits)

/-- A number with a fraction. -/
def fractional (d : Directive) (isNegative : Bool) (x : Decimal.Fraction) : List Char :=
  let places := d.precision.getD 6
  let digits := match d.kind.toLower with
    | 'f' => Decimal.fixed places x
    | 'g' => Decimal.general ('#' ∈ d.flags) places x
    | _ => Decimal.scientific places x
  let sign := if isNegative then ['-'] else plusSign d
  filled d true sign (upperIf d.kind.isUpper digits)

/-! ## Directives -/

/-- A width or a precision: digits, or the next word. -/
def readWidth (cs : List Char) (p : Progress) : Option Int × List Char × Progress :=
  match cs with
  | '*' :: rest =>
    let (n, p) := p.takeNumber true
    (some n, rest, p)
  | cs =>
    let ds := cs.takeWhile Char.isDigit
    (if ds.isEmpty then none else some (Number.decimal ds), cs.dropWhile Char.isDigit, p)

/-- A directive behind its percent sign. Its kind is still to be read. -/
def readDirective (cs : List Char) (p : Progress) : Directive × List Char × Progress :=
  let isFlag (c : Char) : Bool := c ∈ ['#', '-', '+', ' ', '0']
  let flags := cs.takeWhile isFlag
  let (width, rest, p) := readWidth (cs.dropWhile isFlag) p
  let (precision, rest, p) := match rest with
    | '.' :: more =>
      let (n, rest, p) := readWidth more p
      (some (n.getD 0), rest, p)
    | rest => (none, rest, p)
  let width := width.getD 0
  let flags := if width < 0 then '-' :: flags else flags
  let precision := precision.bind fun n => if n < 0 then none else some n.toNat
  (⟨flags, width.natAbs, precision, 's'⟩, rest, p)

/-- Print the next word as a directive says; `text` is the directive. -/
def printWord (d : Directive) (text : List Char) (p : Progress) : Progress :=
  let cut (s : List Char) : List Char := match d.precision with
    | some n => s.take n
    | none => s
  let kind := d.kind
  if kind = 'b' then
    let (word, p) := p.takeWord
    let (s, stop) := escaped (word.getD "")
    let p := p.add (padded d (cut s))
    if stop then { p with stop := some .asked } else p
  else if kind = 'c' then
    let (word, p) := p.takeWord
    p.add (padded d [((word.getD "").toList.head?).getD '\x00'])
  else if kind = 's' then
    let (word, p) := p.takeWord
    p.add (padded d (cut (word.getD "").toList))
  else if kind = 'd' ∨ kind = 'i' then
    let (n, p) := p.takeNumber true
    p.add (numeral d n)
  else if kind ∈ ['o', 'u', 'x', 'X'] then
    let (n, p) := p.takeNumber false
    p.add (numeral d n)
  else if kind ∈ ['a', 'A', 'e', 'E', 'f', 'F', 'g', 'G'] then
    let (isNegative, x, p) := p.takeFraction
    p.add (fractional d isNegative x)
  else { p with stop := some (.badDirective (String.ofList text)) }

/-- One pass over the format. -/
def pass : Nat → List Char → Progress → Progress
  | 0, _, p => p
  | _ + 1, [], p => p
  | n + 1, '\\' :: cs, p =>
    let (c, rest) := escapeAt cs
    pass n rest (p.add [c])
  | n + 1, '%' :: '%' :: cs, p => pass n cs (p.add ['%'])
  | n + 1, '%' :: cs, p =>
    let (d, rest, p) := readDirective cs p
    match rest with
    | [] => { p with stop := some .noKind }
    | kind :: rest =>
      let text := '%' :: cs.take (cs.length - rest.length)
      let p := printWord { d with kind } text p
      if p.stop.isSome then p else pass n rest p
  | n + 1, c :: cs, p => pass n cs (p.add [c])

/-- Passes over the format as long as words are left and it takes some. -/
def passes (format : List Char) : Nat → Progress → Progress
  | 0, p => p
  | n + 1, p =>
    let q := pass (format.length + 1) format p
    if q.stop.isSome || q.words.isEmpty || q.words.length = p.words.length then q
    else passes format n q

/-- Words printed by a format. -/
def formatted (format : String) (words : List String) : Progress :=
  passes format.toList (words.length + 1) ⟨words, [], [], none⟩

end BenchCheckout.Shell.Printing
