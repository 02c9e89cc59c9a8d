import BenchCheckout.Utility.Desk

/-!
# Joining files

`cat` writes files one after the other. It can number lines, leave out blank lines that follow
blank lines, and make visible what cannot be seen. Lines are counted across files.
-/

namespace BenchCheckout.Utility.Cat

/-- How text is shown. -/
structure Look where
  numbersAll : Bool
  numbersFull : Bool
  squeezes : Bool
  showsEnds : Bool
  showsTabs : Bool
  showsControl : Bool

namespace Look

def isPlain (l : Look) : Bool :=
  !(l.numbersAll || l.numbersFull || l.squeezes || l.showsEnds || l.showsTabs || l.showsControl)

/-- A byte of a line. -/
def shown (l : Look) (c : Char) : List Char :=
  if c = '\t' then if l.showsTabs then ['^', 'I'] else [c]
  else if !l.showsControl then [c]
  else
    let seven (n : Nat) : List Char :=
      if n < 32 then ['^', Char.ofNat (n + 64)]
      else if n = 127 then ['^', '?']
      else [Char.ofNat n]
    let n := c.toNat
    if n < 128 then seven n else ['M', '-'] ++ seven (n - 128)

end Look

/-- Where the writing is. -/
structure Place where
  /-- The last line has not ended. -/
  isInside : Bool
  /-- The blank lines before this one, up to two. -/
  blanks : Nat
  /-- The lines that were numbered. -/
  number : Nat

def Place.start : Place := ⟨false, 0, 0⟩

/-- The number in front of a line. -/
def numeral (n : Nat) : List Char :=
  let ds := n.repr.toList
  List.replicate (6 - ds.length) ' ' ++ ds ++ ['\t']

/-- Text as it is shown from a place on, in reverse, behind what was shown before. -/
def shownFrom (l : Look) (p : Place) (before : List Char) : List Char → List Char × Place
  | [] => (before, p)
  | '\n' :: cs =>
    let blanks := if p.isInside then 0 else min 2 (p.blanks + 1)
    if l.squeezes && blanks = 2 then shownFrom l { p with blanks } before cs
    else
      let isNumbered := !p.isInside && l.numbersAll && !l.numbersFull
      let number := if isNumbered then p.number + 1 else p.number
      let before := if isNumbered then (numeral number).reverse ++ before else before
      let before := if l.showsEnds then '$' :: before else before
      shownFrom l ⟨false, blanks, number⟩ ('\n' :: before) cs
  | c :: cs =>
    let isNumbered := !p.isInside && (l.numbersAll || l.numbersFull)
    let number := if isNumbered then p.number + 1 else p.number
    let before := if isNumbered then (numeral number).reverse ++ before else before
    let text := if c = '\r' && l.showsEnds && cs.head? = some '\n' then ['^', 'M'] else l.shown c
    shownFrom l ⟨true, 0, number⟩ (text.reverse ++ before) cs

/-! ## Files -/

/-- What is written would be read again. -/
def feedsItself (m : Machine) (input output : Nat) : Bool :=
  match m.fileNumber? input, m.opening? input, m.opening? output with
  | some number, some i, some o =>
    m.fileNumber? output == some number &&
      i.position < (if o.appends then (m.contentOf number).size else o.position)
  | _, _, _ => false

open Step

/-- Write what an opening holds. -/
def joinOpening (l : Look) (p : Place) (word : String) (input output : Nat) : Step Place := do
  if feedsItself (← get).machine input output then
    complain (Quoting.beforeColon word ++ ": input file is output file")
    pure p
  else match ← readOpening input with
    | .error fault => do
      complainOf (Quoting.beforeColon word) fault
      pure p
    | .ok text =>
      if l.isPlain then do
        say text
        pure p
      else
        let (reversed, p) := shownFrom l p [] text.toList
        say (String.ofList reversed.reverse)
        pure p

def join (l : Look) (output : Nat) (p : Place) : List String → Step Unit
  | [] => pure ()
  | word :: words => do
    let opening ←
      if word = "-" then
        let index := (← get).descriptors.get? 0
        pure (index.elim (.error .badDescriptor) .ok)
      else openFile word .forReading
    match opening with
    | .error fault => do
      complainOf (Quoting.beforeColon word) fault
      join l output p words
    | .ok input => do
      let p ← joinOpening l p word input output
      join l output p words

def rules : List OptionRule :=
  [.flag "full" ['b'] ["number-nonblank"], .flag "numbers" ['n'] ["number"],
    .flag "squeeze" ['s'] ["squeeze-blank"], .flag "control" ['v'] ["show-nonprinting"],
    .flag "ends" ['E'] ["show-ends"], .flag "tabs" ['T'] ["show-tabs"],
    .flag "all" ['A'] ["show-all"], .flag "controlEnds" ['e'] [], .flag "controlTabs" ['t'] [],
    .flag "unbuffered" ['u'] []]

def lookOf (o : Options) : Look where
  numbersAll := o.has "numbers"
  numbersFull := o.has "full"
  squeezes := o.has "squeeze"
  showsEnds := o.has "ends" || o.has "all" || o.has "controlEnds"
  showsTabs := o.has "tabs" || o.has "all" || o.has "controlTabs"
  showsControl := o.has "control" || o.has "all" || o.has "controlEnds" || o.has "controlTabs"

def utility : Step Unit :=
  withOptions rules 1 fun o => do
    let d ← get
    match d.descriptors.get? 1 with
    | none => complain "standard output: Bad file descriptor"
    | some output => do
      let words := if o.words.isEmpty then ["-"] else o.words
      join (lookOf o) output .start words
      if "-" ∈ words ∧ (d.descriptors.get? 0).isNone then
        complain "closing standard input: Bad file descriptor"

end BenchCheckout.Utility.Cat
