import BenchCheckout.Utility.Desk

/-!
# Counting

`wc` counts the lines, words and bytes of files, and tells the width of the longest line. Every byte
is a character. A word holds at least one byte that can be printed.
-/

namespace BenchCheckout.Utility.Count

structure Counts where
  lines : Nat
  words : Nat
  bytes : Nat
  width : Nat
deriving DecidableEq, Repr

namespace Counts

def none : Counts := ⟨0, 0, 0, 0⟩

def add (a b : Counts) : Counts :=
  ⟨a.lines + b.lines, a.words + b.words, a.bytes + b.bytes, max a.width b.width⟩

end Counts

/-- Counts of the text so far: `column` is where the line is, and `inWord` whether a word is. -/
structure Tally where
  counts : Counts
  column : Nat
  inWord : Bool

namespace Tally

def start : Tally := ⟨.none, 0, false⟩

/-- The line, or the part of it that is over, is as wide as the column. -/
def noteWidth (t : Tally) : Tally :=
  { t with counts := { t.counts with width := max t.counts.width t.column }, column := 0 }

def step (t : Tally) (c : Char) : Tally :=
  let t := { t with counts := { t.counts with bytes := t.counts.bytes + 1 } }
  if c = '\n' then
    let t := t.noteWidth
    { t with counts := { t.counts with lines := t.counts.lines + 1 }, inWord := false }
  else if c = '\r' ∨ c = '\x0c' then { t.noteWidth with inWord := false }
  else if c = '\t' then { t with column := t.column + 8 - t.column % 8, inWord := false }
  else if c = ' ' then { t with column := t.column + 1, inWord := false }
  else if c = '\x0b' then { t with inWord := false }
  else if Octets.isPrintable c then
    let words := if t.inWord then t.counts.words else t.counts.words + 1
    ⟨{ t.counts with words }, t.column + 1, true⟩
  else t

end Tally

def ofText (text : String) : Counts := ((text.toList.foldl Tally.step .start).noteWidth).counts

/-! ## Rows -/

/-- The counts that are wanted, in the order in which they are shown. -/
def shown (o : Options) (c : Counts) : List Nat :=
  let keys := [("lines", c.lines), ("words", c.words), ("chars", c.bytes), ("bytes", c.bytes),
    ("width", c.width)]
  let wanted := keys.filter fun (key, _) => o.has key
  if wanted.isEmpty then [c.lines, c.words, c.bytes] else wanted.map (·.2)

def row (width : Nat) (numbers : List Nat) (name : Option String) : String :=
  let cell (n : Nat) : String :=
    String.ofList (List.replicate (width - n.repr.length) ' ') ++ n.repr
  String.intercalate " " (numbers.map cell) ++ (name.elim "" (" " ++ ·)) ++ "\n"

open Step

/-- The size of what an operand means; a second `none` means that it is no regular file. -/
def sizeOf (word : Option String) : Step (Option (Option Nat)) := do
  let d ← get
  match word with
  | none | some "-" =>
    let opening := (d.descriptors.get? 0).bind d.machine.opening?
    match opening.map Opening.channel with
    | some (.file number) => pure (some (some (d.machine.contentOf number).size))
    | some _ => pure (some none)
    | none => pure none
  | some path =>
    match ← stat true path with
    | .ok (l, .file bytes _ _) =>
      pure (some (if l = Machine.nullDevice then none else some bytes.size))
    | .ok _ => pure (some none)
    | .error _ => pure none

def sizesOf : List (Option String) → Step (List (Option Nat))
  | [] => pure []
  | w :: ws => do
    let size ← sizeOf w
    return size.toList ++ (← sizesOf ws)

/-- The width of all numbers but the last ones of rows. -/
def widthFor (isSingle : Bool) (words : List (Option String)) : Step Nat := do
  if isSingle then pure 1
  else
    let sizes ← sizesOf words
    let total := sizes.foldl (fun n size => n + size.getD 0) 0
    let isIrregular := sizes.any (·.isNone)
    pure (if sizes.isEmpty then 1 else max total.repr.length (if isIrregular then 7 else 1))

/-- The counts of an operand, as far as it can be read. -/
def countWord (word : Option String) : Step (Option Counts) := do
  let name := match word with
    | none => "'standard input'"
    | some "-" => "'standard input'"
    | some path => Quoting.beforeColon path
  if word = some "" then
    complain "invalid zero-length file name"
    pure none
  else
    match ← (match word with
      | none => readDescriptor 0
      | some w => readWord w) with
    | .ok text => pure (some (ofText text))
    | .error .isDirectory => do
      complainOf name .isDirectory
      pure (some .none)
    | .error fault => do
      complainOf name fault
      pure none

def countAll (o : Options) (width : Nat) (shows : Bool) (total : Counts) :
    List (Option String) → Step Counts
  | [] => pure total
  | w :: ws => do
    match ← countWord w with
    | some c => do
      if shows then say (row width (shown o c) (w.map Quoting.ifNeededForLine))
      countAll o width shows (total.add c) ws
    | none => countAll o width shows total ws

def rules : List OptionRule :=
  [.flag "bytes" ['c'] ["bytes"], .flag "chars" ['m'] ["chars"], .flag "lines" ['l'] ["lines"],
    .flag "words" ['w'] ["words"], .flag "debug" [] ["debug"],
    .valued "names" [] ["files0-from"], .flag "width" ['L'] ["max-line-length"],
    .valued "total" [] ["total"]]

def utility : Step Unit :=
  withOptions rules 1 fun o => do
    let policy := (o.value? "total").getD "auto"
    if policy ∉ ["auto", "always", "only", "never"] then
      complain ("invalid argument " ++ Quoting.plain policy ++ " for '--total'")
      printError "Valid arguments are:\n  - 'auto'\n  - 'always'\n  - 'only'\n  - 'never'\n"
      printError ("Try '" ++ (← get).name ++ " --help' for more information.\n")
    else
      let words := if o.words.isEmpty then [none] else o.words.map some
      let isSingle := words.length = 1 ∧ (shown o .none).length = 1
      let width ← widthFor isSingle words
      let width := if policy = "only" then 1 else width
      let total ← countAll o width (policy ≠ "only") .none words
      let showsTotal : Bool := match policy with
        | "auto" => 1 < words.length
        | "never" => false
        | _ => true
      if showsTotal then
        say (row width (shown o total) (if policy = "only" then none else some "total"))

end BenchCheckout.Utility.Count
