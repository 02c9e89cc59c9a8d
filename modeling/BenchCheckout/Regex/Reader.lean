import BenchCheckout.Regex.Basic

/-!
# Reading regular expressions

In the basic form of an expression the operators for groups, alternatives and counts stand behind a
backslash, and in the extended form they do not. `Regex.read` cuts an expression into signs and puts
them together. A sign can also be a `Flaw`, which is only met once everything in front of it was
read.
-/

namespace BenchCheckout.Regex

inductive Flaw where
  | trailingBackslash
  | loneBracket
  | openBracket
  | openGroup
  | openCount
  | closedGroup
  | className
  | collation
  | rangeEnd
  | count
  | tooBig
  | backReference
  | classOutside
deriving DecidableEq, Repr

def Flaw.text : Flaw → String
  | trailingBackslash => "Trailing backslash"
  | loneBracket => "Invalid regular expression"
  | openBracket => "Unmatched [, [^, [:, [., or [="
  | openGroup => "Unmatched ( or \\("
  | openCount => "Unmatched \\\x7b"
  | closedGroup => "Unmatched ) or \\)"
  | className => "Invalid character class name"
  | collation => "Invalid collation character"
  | rangeEnd => "Invalid range end"
  | count => "Invalid content of \\\x7b\\\x7d"
  | tooBig => "Regular expression too big"
  | backReference => "Invalid back reference"
  | classOutside => "character class syntax is [[:space:]], not [:space:]"

/-- The form of an expression, and whether the case of letters counts. -/
structure Form where
  extended : Bool
  folds : Bool

inductive Sign where
  | one (fits : Char → Bool)
  | edge (holds : Edge)
  | back (number : Nat)
  | count (least : Nat) (most : Option Nat)
  | opening
  | closing
  | bar
  | flaw (f : Flaw)

/-- What counts among the signs before a sign: whether an expression starts here, whether nothing is
there yet that could be repeated, and how many groups are open. -/
structure Before where
  isStart : Bool
  isBare : Bool
  isOpen : Nat

/-! ## Characters -/

/-- The characters that count as one. -/
def cases (f : Form) (c : Char) : List Char := if f.folds then [c.toLower, c.toUpper] else [c]

def literal (f : Form) (c : Char) : Sign := .one fun d => d ∈ cases f c

/-- The character that the ends of ranges are compared by. -/
def top (f : Form) (c : Char) : Char := if f.folds then c.toUpper else c

/-- Classes of characters that stand behind a backslash. -/
def class? (c : Char) : Option (Char → Bool) :=
  match c with
  | 'w' => some isWordPart
  | 'W' => some (!isWordPart ·)
  | 's' => some Octets.isSpace
  | 'S' => some (!Octets.isSpace ·)
  | _ => none

/-- Places between characters that stand behind a backslash. -/
def edge? (c : Char) : Option Edge :=
  match c with
  | '<' => some fun a b => isBreak a && !isBreak b
  | '>' => some fun a b => !isBreak a && isBreak b
  | 'b' => some fun a b => isBreak a != isBreak b
  | 'B' => some fun a b => isBreak a == isBreak b
  | '\x60' => some fun a _ => a.isNone
  | '\'' => some fun _ b => b.isNone
  | _ => none

/-! ## Brackets -/

/-- One item of a bracket: a character, which may start a range, or a class. -/
inductive Item where
  | char (c : Char)
  | fits (f : Char → Bool)

/-- Up to a sign and a closing bracket: what is in front of them and what is behind them. -/
def named (sign : Char) : List Char → Option (List Char × List Char)
  | [] => none
  | c :: cs =>
    match cs with
    | ']' :: rest => if c = sign then some ([], rest) else (named sign cs).map fun (n, r) => (c :: n, r)
    | _ => (named sign cs).map fun (n, r) => (c :: n, r)

def item (f : Form) : List Char → Except Flaw (Item × List Char)
  | '[' :: ':' :: cs =>
    match named ':' cs with
    | none => .error .openBracket
    | some (name, rest) =>
      let name := String.ofList name
      let name := if f.folds ∧ (name = "upper" ∨ name = "lower") then "alpha" else name
      match Octets.class? name with
      | some fits => .ok (.fits fits, rest)
      | none => .error .className
  | '[' :: '.' :: cs => single '.' cs
  | '[' :: '=' :: cs => single '=' cs
  | c :: cs => .ok (.char c, cs)
  | [] => .error .openBracket
where
  single (sign : Char) (cs : List Char) : Except Flaw (Item × List Char) :=
    match named sign cs with
    | none => .error .openBracket
    | some ([c], rest) => .ok (.char c, rest)
    | some _ => .error .collation

/-- The items of a bracket up to its end, and what is behind it. So many characters are left. -/
def items (f : Form) : Nat → Bool → List Char → Except Flaw ((Char → Bool) × List Char)
  | 0, _, _ => .error .openBracket
  | n + 1, isFirst, cs =>
    match isFirst, cs with
    | false, ']' :: rest => .ok (fun _ => false, rest)
    | _, cs => do
      let (first, rest) ← item f cs
      let (fits, rest) ← match first, rest with
        | .fits fits, rest => pure (fits, rest)
        | .char c, '-' :: ']' :: rest => pure ((fun d => d ∈ cases f c), '-' :: ']' :: rest)
        | .char c, '-' :: rest =>
          match ← item f rest with
          | (.char d, rest) =>
            if top f d < top f c then .error .rangeEnd
            else pure ((fun e => (cases f e).any fun x => c ≤ x && x ≤ d), rest)
          | (.fits _, _) => .error .rangeEnd
        | .char c, rest => pure ((fun d => d ∈ cases f c), rest)
      let (others, rest) ← items f n false rest
      .ok (fun d => fits d || others d, rest)

/-- Only a class's name with its colons is in the bracket. -/
def isClassOutside (inside : List Char) : Bool :=
  match inside with
  | ':' :: c :: cs => cs.getLast? == some ':' && (c :: cs.dropLast).all Char.isAlpha
  | _ => false

/-- A bracket behind its start. -/
def bracket (f : Form) (cs : List Char) : Except Flaw ((Char → Bool) × List Char) := do
  if cs.isEmpty then .error .loneBracket
  else
    let (negative, inside) := match cs with
      | '^' :: cs => (true, cs)
      | cs => (false, cs)
    let (fits, rest) ← items f (inside.length + 1) true inside
    if isClassOutside (cs.take (cs.length - rest.length - 1)) then .error .classOutside
    else .ok (if negative then fun c => !fits c else fits, rest)

/-! ## Counts -/

/-- The greatest number in a count. -/
def countLimit : Nat := 32767

def number? (ds : List Char) : Option Nat :=
  if ds.isEmpty then none else some (ds.foldl (fun n d => 10 * n + (d.toNat - '0'.toNat)) 0)

/-- A count behind its opening brace: its two numbers, and what is behind it. `none`: it is a brace
and nothing else. -/
def countAt (f : Form) (cs : List Char) :
    Option (Except Flaw (Nat × Option Nat × List Char)) :=
  let least := cs.takeWhile Char.isDigit
  let rest := cs.dropWhile Char.isDigit
  let (most, hasComma, rest) := match rest with
    | ',' :: rest => (rest.takeWhile Char.isDigit, true, rest.dropWhile Char.isDigit)
    | rest => (least, false, rest)
  let close := if f.extended then ['\x7d'] else ['\\', '\x7d']
  let flawed (flaw : Flaw) : Option (Except Flaw (Nat × Option Nat × List Char)) :=
    if f.extended then none else some (.error flaw)
  if !close.isPrefixOf rest then
    flawed (if rest.isEmpty ∨ rest = ['\\'] then .openCount else .count)
  else if least.isEmpty ∧ !hasComma then flawed .count
  else
    let low := (number? least).getD 0
    let high := number? most
    if high.any (· < low) then some (.error .count)
    else if countLimit < high.getD low then some (.error .tooBig)
    else some (.ok (low, high, rest.drop close.length))

/-! ## Signs -/

/-- A line can end here, with what is behind it. -/
def endsHere (f : Form) (cs : List Char) : Bool :=
  f.extended ||
    match cs with
    | [] => true
    | '\\' :: c :: _ => c == ')' || c == '|'
    | _ => false

/-- The sign of an operator. -/
def operator? (c : Char) : Option Sign :=
  match c with
  | '(' => some .opening
  | ')' => some .closing
  | '|' => some .bar
  | '+' => some (.count 1 none)
  | '?' => some (.count 0 (some 1))
  | _ => none

/-- A count repeats something. At the start of an expression it does so in the extended form only,
where it repeats what is empty. -/
def repeats (f : Form) (b : Before) : Bool := f.extended || !b.isBare

/-- An operator at the start of the rest of an expression, or the character that it is there. -/
def operator (f : Form) (b : Before) (c : Char) (cs : List Char) : Sign × List Char :=
  match operator? c with
  | some (.count least most) =>
    if repeats f b then (.count least most, cs) else (literal f c, cs)
  | some .closing =>
    if b.isOpen = 0 then (if f.extended then literal f c else .flaw .closedGroup, cs)
    else (.closing, cs)
  | some sign => (sign, cs)
  | none =>
    if c = '\x7b' ∧ repeats f b then
      match countAt f cs with
      | some (.ok (least, most, rest)) => (.count least most, rest)
      | some (.error flaw) => (.flaw flaw, cs)
      | none => (literal f c, cs)
    else (literal f c, cs)

/-- A character behind a backslash. -/
def escaped (f : Form) (b : Before) (c : Char) (cs : List Char) : Sign × List Char :=
  match class? c, edge? c with
  | some fits, _ => (.one fits, cs)
  | none, some holds => (.edge holds, cs)
  | none, none =>
    if '1' ≤ c ∧ c ≤ '9' then (.back (c.toNat - '0'.toNat), cs)
    else if f.extended then (literal f c, cs)
    else operator f b c cs

/-- The first sign, and what is behind it. -/
def sign (f : Form) (b : Before) (c : Char) (cs : List Char) : Sign × List Char :=
  match c with
  | '\\' =>
    match cs with
    | [] => (.flaw .trailingBackslash, [])
    | d :: rest => escaped f b d rest
  | '[' =>
    match bracket f cs with
    | .ok (fits, rest) => (.one fits, rest)
    | .error flaw => (.flaw flaw, [])
  | '.' => (.one fun _ => true, cs)
  | '*' => (if repeats f b then .count 0 none else literal f c, cs)
  | '^' => (if f.extended || b.isStart then .edge fun a _ => a.isNone else literal f c, cs)
  | '$' => (if endsHere f cs then .edge fun _ b => b.isNone else literal f c, cs)
  | c => if f.extended then operator f b c cs else (literal f c, cs)

/-- What counts behind a sign. -/
def Before.after (b : Before) : Sign → Before
  | .opening => ⟨true, true, b.isOpen + 1⟩
  | .closing => ⟨false, false, b.isOpen - 1⟩
  | .bar => ⟨true, true, b.isOpen⟩
  | .edge _ => { b with isStart := false }
  | _ => ⟨false, false, b.isOpen⟩

/-- The signs of an expression; there are at most as many as characters. -/
def signs (f : Form) : Nat → Before → List Char → List Sign
  | 0, _, _ => []
  | _ + 1, _, [] => []
  | n + 1, b, c :: cs =>
    let (s, rest) := sign f b c cs
    s :: signs f n (b.after s) rest

/-! ## Putting signs together -/

/-- What is known while signs are put together: the groups that have begun, and those that are over
and can be referred to. -/
structure Groups where
  begun : Nat
  closed : List Nat

abbrev Built := Except Flaw (Regex × Groups × List Sign)

/-- Counts behind an expression. -/
def counted (r : Regex) : List Sign → Regex × List Sign
  | .count least most :: rest => counted (.repeated r least most) rest
  | rest => (r, rest)

mutual

/-- Alternatives, up to a closing parenthesis or the end. -/
def alternatives (f : Form) : Nat → Groups → List Sign → Built
  | 0, g, ss => .ok (.empty, g, ss)
  | n + 1, g, ss => do
    match ← series f n g ss with
    | (r, g, .bar :: rest) => do
      let (q, g, rest) ← alternatives f n g rest
      .ok (.alt r q, g, rest)
    | result => .ok result

/-- One sign after the other. -/
def series (f : Form) : Nat → Groups → List Sign → Built
  | 0, g, ss => .ok (.empty, g, ss)
  | n + 1, g, ss => do
    let go (r : Regex) (g : Groups) (rest : List Sign) : Built := do
      let (r, rest) := counted r rest
      let (q, g, rest) ← series f n g rest
      .ok (.seq r q, g, rest)
    match ss with
    | [] | .bar :: _ | .closing :: _ => .ok (.empty, g, ss)
    | .flaw flaw :: _ => .error flaw
    | .one fits :: rest => go (.one fits) g rest
    | .edge holds :: rest => go (.edge holds) g rest
    | .back number :: rest =>
      if number ∈ g.closed then go (.back f.folds number) g rest else .error .backReference
    | .count .. :: _ =>
      -- A count of nothing takes the parenthesis behind it for a character.
      match counted .empty ss with
      | (_, .closing :: _) => .error .openGroup
      | _ => go .empty g ss
    | .opening :: rest =>
      let number := g.begun + 1
      match ← alternatives f n { g with begun := number } rest with
      | (r, g, .closing :: rest) =>
        go (.group number r) { g with closed := number :: g.closed } rest
      | _ => .error .openGroup

end

/-- The expression without its groups. -/
def ungrouped : Regex → Regex
  | seq q r => .seq q.ungrouped r.ungrouped
  | alt q r => .alt q.ungrouped r.ungrouped
  | repeated r least most => .repeated r.ungrouped least most
  | group _ r => r.ungrouped
  | r => r

def hasBack : Regex → Bool
  | seq q r | alt q r => q.hasBack || r.hasBack
  | repeated r .. | group _ r => r.hasBack
  | back .. => true
  | _ => false

/-- The expression that a text is, with all its groups, and their number. -/
def readGrouped (f : Form) (s : List Char) : Except Flaw (Regex × Nat) := do
  let ss := signs f s.length ⟨true, true, 0⟩ s
  let (r, g, _) ← alternatives f (2 * ss.length + 2) ⟨0, []⟩ ss
  .ok (r, g.begun)

/-- The expression that a text is. Groups that nothing refers to do not matter. -/
def read (f : Form) (s : List Char) : Except Flaw Regex := do
  let (r, _) ← readGrouped f s
  .ok (if r.hasBack then r else r.ungrouped)

/-- The expression that matches a text as it stands. -/
def ofLiteral (folds : Bool) (s : List Char) : Regex :=
  s.foldr (fun c r => .seq (.one fun d => d ∈ cases ⟨false, folds⟩ c) r) .empty

end BenchCheckout.Regex
