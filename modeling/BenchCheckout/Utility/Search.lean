import BenchCheckout.Regex.Reader
import BenchCheckout.Shell.Pattern
import BenchCheckout.Utility.Desk
import BenchCheckout.Utility.Names

/-!
# Searching files

`grep` shows the lines of files that match an expression. A `Manner` is what the options ask for;
`Manner.search` goes through the lines of one text.
-/

namespace BenchCheckout.Utility.Search

/-- What is told of a file. -/
inductive Telling where
  | lines
  | count
  /-- The name of a file in which something was selected. -/
  | withMatch
  | withoutMatch
  | nothing
deriving DecidableEq, Repr

/-- What is done with a directory. -/
inductive Directories where
  | read
  | skip
  | walk (followsLinks : Bool)
deriving DecidableEq, Repr

/-- What is done with a file that is no text. -/
inductive Binary where
  | told
  | asText
  | skipped
deriving DecidableEq, Repr

structure Manner where
  /-- The expression is in a line. -/
  fits : Array Char → Bool
  /-- The stretches of a line that match. -/
  stretches : Array Char → List (Nat × Nat)
  inverts : Bool
  telling : Telling
  limit : Option Nat
  before : Option Nat
  after : Option Nat
  separator : Option String
  onlyMatching : Bool
  colors : Bool
  names : Option Bool
  nameEnd : Option String
  numbers : Bool
  offsets : Bool
  aligns : Bool
  lineEnd : Char
  binary : Binary
  directories : Directories
  silent : Bool
  label : String
  accepts : String → Bool
  acceptsDirectory : String → Bool

namespace Manner

/-! ## One line -/

def painted (m : Manner) (color text : String) : String :=
  if m.colors then "\x1b[" ++ color ++ "m\x1b[K" ++ text ++ "\x1b[m\x1b[K" else text

/-- What stands in front of a line or of a stretch of it. `width`: of numbers that are aligned. -/
def head (m : Manner) (name : Option String) (width number offset : Nat) (mark : String) :
    String :=
  let cell (n : Nat) : String :=
    let ds := n.repr
    if m.aligns then String.ofList (List.replicate (width - ds.length) ' ') ++ ds else ds
  let mark := m.painted "36" mark
  let named := name.elim "" fun n => m.painted "35" n ++ m.nameEnd.getD mark
  let numbered := if m.numbers then m.painted "32" (cell number) ++ mark else ""
  let placed := if m.offsets then m.painted "32" (cell offset) ++ mark else ""
  let front := named ++ numbered ++ placed
  if m.aligns ∧ front ≠ "" then front ++ "\t" else front

/-- A line with its matches in color. `shown`: how much of it is shown already. -/
def highlighted (m : Manner) (line : List Char) : Nat → List (Nat × Nat) → String
  | shown, [] => String.ofList (line.drop shown)
  | shown, (start, stop) :: others =>
    String.ofList ((line.drop shown).take (start - shown)) ++
      m.painted "01;31" (String.ofList ((line.drop start).take (stop - start))) ++
      m.highlighted line stop others

structure Line where
  number : Nat
  offset : Nat
  text : Array Char

/-- A line as it is shown. -/
def shown (m : Manner) (name : Option String) (width : Nat) (isSelected : Bool) (l : Line) :
    String :=
  let mark := if isSelected then ":" else "-"
  let matching := isSelected != m.inverts
  let line := l.text.toList
  let finish := m.lineEnd.toString
  if m.onlyMatching then
    if matching then
      String.join ((m.stretches l.text).map fun (start, stop) =>
        m.head name width l.number (l.offset + start) mark ++
          m.painted "01;31" (String.ofList ((line.drop start).take (stop - start))) ++ finish)
    else ""
  else
    let text := if m.colors ∧ matching then m.highlighted line 0 (m.stretches l.text)
      else String.ofList line
    m.head name width l.number l.offset mark ++ text ++ finish

/-! ## One text -/

/-- What is known on the way through the lines of a text. -/
structure Walk where
  /-- What is shown, in reverse. -/
  output : List String
  selected : Nat
  /-- Lines that may still be shown in front of the next one that is selected, in reverse. -/
  kept : List Line
  /-- There are lines that were neither shown nor kept since something was shown. -/
  hasGap : Bool
  /-- The lines that are still to be shown after one that was selected. -/
  pending : Nat
  /-- Something was shown, in this text or in another one. -/
  isUsed : Bool
  /-- What is behind the last selected line. -/
  behind : Nat

def Walk.start (isUsed : Bool) : Walk := ⟨[], 0, [], true, 0, isUsed, 0⟩

/-- The line between groups of lines. -/
def divider (m : Manner) (w : Walk) : List String :=
  match m.separator with
  | some s =>
    if (m.before.isSome ∨ m.after.isSome) ∧ w.isUsed ∧ w.hasGap then [m.painted "36" s ++ "\n"]
    else []
  | none => []

/-- A selected line, with those that are kept in front of it. -/
def select (m : Manner) (render : Bool → Line → String) (l : Line) (w : Walk) : Walk :=
  let w := { w with selected := w.selected + 1, behind := l.offset + l.text.size + 1 }
  if m.telling = .lines then
    let before := w.kept.map (render false)
    { w with
      output := render true l :: (before ++ m.divider w ++ w.output)
      kept := []
      hasGap := false
      pending := m.after.getD 0
      isUsed := true }
  else w

/-- A line that is not selected. -/
def pass (m : Manner) (render : Bool → Line → String) (l : Line) (w : Walk) : Walk :=
  if 0 < w.pending then
    { w with output := render false l :: w.output, pending := w.pending - 1 }
  else
    let limit := m.before.getD 0
    let kept := l :: w.kept
    { w with kept := kept.take limit, hasGap := w.hasGap || limit < kept.length }

/-- Go through lines until nothing more is asked for. -/
def walk (m : Manner) (render : Bool → Line → String) : List Line → Walk → Walk
  | [], w => w
  | l :: ls, w =>
    let isOver := m.limit.any (· ≤ w.selected)
    let isDone := m.telling ≠ .lines ∧ m.telling ≠ .count ∧ 0 < w.selected
    if isDone ∨ isOver ∧ w.pending = 0 then w
    else
      let isSelected := m.fits l.text != m.inverts
      if isOver ∧ isSelected then w
      else if isSelected then walk m render ls (m.select render l w)
      else walk m render ls (m.pass render l w)

/-- The lines of a text. What is behind the last end of a line is a line if it is not empty. -/
def linesOf (lineEnd : Char) : (number offset : Nat) → (before : List Char) → List Char → List Line
  | number, offset, before, [] =>
    if before.isEmpty then [] else [⟨number, offset, before.reverse.toArray⟩]
  | number, offset, before, c :: cs =>
    if c = lineEnd then
      ⟨number, offset, before.reverse.toArray⟩ ::
        linesOf lineEnd (number + 1) (offset + before.length + 1) [] cs
    else linesOf lineEnd number offset (c :: before) cs

def search (m : Manner) (name : Option String) (width : Nat) (isUsed : Bool) (text : String) :
    Walk :=
  m.walk (m.shown name width) (linesOf m.lineEnd 1 0 [] text.toList) (.start isUsed)

end Manner

open Step

/-! ## Files -/

/-- What is known while files are searched. -/
structure Run where
  isUsed : Bool
  /-- Something that was asked for was found. -/
  found : Bool
  /-- There is no need to go on. -/
  isOver : Bool

def complainOfFile (m : Manner) (name : String) (fault : Fault) : Step Unit := do
  if m.silent then setStatus 2 else complainWith 2 (name ++ ": " ++ fault.summary)

/-- Search the text of a file. Gives back where the search ended, if it did not reach the end. -/
def searchText (m : Manner) (name : String) (showsName : Bool) (width : Nat) (text : String)
    (run : Run) : Step (Run × Option Nat) := do
  let isBinary := m.binary ≠ .asText ∧ m.lineEnd = '\n' ∧ text.contains '\x00'
  if isBinary ∧ m.binary = .skipped then pure (run, none)
  else
    let text :=
      if isBinary then text.map fun c => if c = '\x00' then '\n' else c else text
    let isTold := isBinary ∧ m.telling = .lines
    let inner := if isTold then { m with telling := .withMatch } else m
    let w := inner.search (if showsName then some name else none) width run.isUsed text
    say (String.join w.output.reverse)
    if isTold ∧ 0 < w.selected then
      printError ((← get).name ++ ": " ++ name ++ ": binary file matches\n")
    let shownName := m.painted "35" name
    let nameEnd := m.nameEnd.getD "\n"
    match m.telling with
    | .count =>
      let front := if showsName then shownName ++ m.nameEnd.getD (m.painted "36" ":") else ""
      say (front ++ w.selected.repr ++ "\n")
    | .withMatch => if 0 < w.selected then say (shownName ++ nameEnd)
    | .withoutMatch => if w.selected = 0 then say (shownName ++ nameEnd)
    | _ => pure ()
    let found := 0 < w.selected
    let rest := if m.limit.any (· ≤ w.selected) then some w.behind else none
    pure (⟨w.isUsed, run.found || found, m.telling = .nothing && found⟩, rest)

/-- Search a file that is open. -/
def searchOpening (m : Manner) (name : String) (showsName : Bool) (index : Nat) (run : Run) :
    Step Run := do
  let d ← get
  let number := d.machine.fileNumber? index
  let output := (d.descriptors.get? 1).bind d.machine.fileNumber?
  if m.telling = .lines ∧ number.isSome ∧ number = output then
    complainWith 2 (name ++ ": input file is also the output")
    pure run
  else
    let width := (number.map fun n => (d.machine.contentOf n).size.repr.length).getD 19
    match ← readOpening index with
    | .error fault => do
      complainOfFile m name fault
      let (run, _) ← searchText m name showsName width "" run
      pure run
    | .ok text => do
      let (run, behind) ← searchText m name showsName width text run
      if let some behind := behind then
        let rest := Octets.toBytes (String.ofList (text.toList.drop behind))
        modify fun d => { d with machine := d.machine.giveBack index rest }
      pure run

def searchInput (m : Manner) (showsName : Bool) (run : Run) : Step Run := do
  match (← get).descriptors.get? 0 with
  | some index => searchOpening m m.label showsName index run
  | none => do
    complainOfFile m m.label .badDescriptor
    pure run

/-- Search the file at a path. -/
def searchFile (m : Manner) (showsName : Bool) (path : String) (run : Run) : Step Run := do
  match ← openFile path .forReading with
  | .error fault => do
    complainOfFile m path fault
    pure run
  | .ok index => searchOpening m path showsName index run

/-- Search all files below a directory. `front`: of the paths that are shown. So many directories
may be left to go into. -/
def searchBelow (m : Manner) (followsLinks showsName : Bool) :
    Nat → String → String → Run → Step Run
  | 0, _, _, run => pure run
  | depth + 1, dir, front, run => do
    let names := ((← scene).list dir).toOption.getD []
    below depth front names run
where
  below (depth : Nat) (front : String) : List String → Run → Step Run
    | [], run => pure run
    | n :: ns, run => do
      if run.isOver then pure run
      else
        let path := front ++ n
        let run ← match ← stat followsLinks path with
          | .ok (_, .directory) =>
            if m.acceptsDirectory n then
              searchBelow m followsLinks showsName depth path (path ++ "/") run
            else pure run
          | .ok (_, .file ..) =>
            if m.accepts n then searchFile m showsName path run else pure run
          | _ => pure run
        below depth front ns run

def searchWord (m : Manner) (showsName : Bool) (word : String) (run : Run) : Step Run := do
  if word = "-" then searchInput m showsName run
  else if (← scene).isDirectory word then
    match m.directories with
    | .skip => pure run
    | .walk followsLinks =>
      let front := if Names.endsInSlash word then word else word ++ "/"
      searchBelow m followsLinks (m.names.getD true) 4096 word front run
    | .read => searchFile m showsName word run
  else if m.accepts (Names.base word) then searchFile m showsName word run
  else pure run

def searchAll (m : Manner) (showsName : Bool) : List String → Run → Step Run
  | [], run => pure run
  | w :: ws, run => do
    let run ← searchWord m showsName w run
    if run.isOver then pure run else searchAll m showsName ws run

/-! ## Options -/

def rules : List OptionRule :=
  [.flag "basic" ['G'] ["basic-regexp"], .flag "extended" ['E'] ["extended-regexp"],
    .flag "fixed" ['F'] ["fixed-regexp", "fixed-strings"], .flag "perl" ['P'] ["perl-regexp"],
    .valued "after" ['A'] ["after-context"], .valued "before" ['B'] ["before-context"],
    .valued "binaryFiles" [] ["binary-files"], .flag "keepsReturns" ['U'] ["binary"],
    .flag "offsets" ['b'] ["byte-offset"], .valued "context" ['C'] ["context"],
    .attached "color" [] ["color", "colour"], .flag "count" ['c'] ["count"],
    .valued "devices" ['D'] ["devices"], .valued "directories" ['d'] ["directories"],
    .valued "exclude" [] ["exclude"], .valued "excludeFrom" [] ["exclude-from"],
    .valued "excludeDirectory" [] ["exclude-dir"], .valued "file" ['f'] ["file"],
    .flag "withMatch" ['l'] ["files-with-matches"],
    .flag "withoutMatch" ['L'] ["files-without-match"],
    .valued "separator" [] ["group-separator"], .valued "include" [] ["include"],
    .flag "folds" ['i', 'y'] ["ignore-case"], .flag "keepsCase" [] ["no-ignore-case"],
    .flag "aligns" ['T'] ["initial-tab"], .valued "label" [] ["label"],
    .flag "buffered" [] ["line-buffered"], .flag "numbers" ['n'] ["line-number"],
    .flag "wholeLines" ['x'] ["line-regexp"], .valued "limit" ['m'] ["max-count"],
    .flag "noNames" ['h'] ["no-filename"], .flag "noSeparator" [] ["no-group-separator"],
    .flag "silent" ['s'] ["no-messages"], .flag "zeroNames" ['Z'] ["null"],
    .flag "zeroLines" ['z'] ["null-data"], .flag "onlyMatching" ['o'] ["only-matching"],
    .flag "quiet" ['q'] ["quiet", "silent"], .flag "recursive" ['r'] ["recursive"],
    .flag "recursiveLinks" ['R'] ["dereference-recursive"], .valued "expression" ['e'] ["regexp"],
    .flag "inverts" ['v'] ["invert-match"], .flag "text" ['a'] ["text"],
    .flag "unixOffsets" ['u'] ["unix-byte-offsets"], .flag "version" ['V'] [],
    .flag "names" ['H'] ["with-filename"], .flag "words" ['w'] ["word-regexp"],
    .flag "noBinary" ['I'] [], .valued "matcher" ['X'] []] ++
    ("0123456789".toList.map fun d => .flag d.toString [d] [])

/-- The number that a row of digits among the options is: the last one of them. -/
def digits (o : Options) : Option String :=
  let keys := ((o.given.map (·.1)).filter (· ≠ "")).reverse
  let isDigit (k : String) : Bool := k.toList.all Char.isDigit
  let run := (keys.dropWhile (!isDigit ·)).takeWhile isDigit
  if run.isEmpty then none else some (String.join run.reverse)

def number? (w : String) : Option Nat :=
  match w.toList with
  | [] => none
  | cs => if cs.all Char.isDigit then
      some (cs.foldl (fun n d => 10 * n + (d.toNat - '0'.toNat)) 0) else none

/-- The expressions in a text, one in each line. -/
def patternsIn (text : String) : List (List Char) := Path.cut '\n' text.toList

/-- The expressions that options and files give, or a file that cannot be read. -/
def patternsOf : List (String × Option String) → Step (Except (String × Fault) (List (List Char)))
  | [] => pure (.ok [])
  | ("expression", some text) :: given => do
    return (← patternsOf given).map (patternsIn text ++ ·)
  | ("file", some path) :: given => do
    match ← readWord path with
    | .error fault => pure (.error (path, fault))
    | .ok text =>
      let text := text.toList
      let lines :=
        if text.isEmpty then []
        else Path.cut '\n' (if text.getLast? = some '\n' then text.dropLast else text)
      return (← patternsOf given).map (lines ++ ·)
  | _ :: given => patternsOf given

/-- One expression for all of them, or what is wrong with the first one that is none. -/
def regexOf (o : Options) : List (List Char) → Except Regex.Flaw Regex
  | [] => .ok (.one fun _ => false)
  | p :: ps => do
    let folds := o.last? ["folds", "keepsCase"] == some "folds"
    let extended := o.has "extended" || o.has "perl" ||
      (o.value? "matcher").any fun w => w = "egrep" || w = "awk"
    let r ← if o.has "fixed" then pure (Regex.ofLiteral folds p) else Regex.read ⟨extended, folds⟩ p
    if ps.isEmpty then .ok r else return .alt r (← regexOf o ps)

/-- How a line is matched as a whole. -/
def fitting (o : Options) (r : Regex) : Array Char → Bool :=
  if o.has "wholeLines" then r.isLine
  else if o.has "words" then r.occursAsWord
  else r.occursIn

/-- The stretches of a line that match. -/
def stretching (o : Options) (r : Regex) (line : Array Char) : List (Nat × Nat) :=
  let endsAt (i : Nat) : List Nat :=
    if o.has "wholeLines" then (if i = 0 then (r.ends line 0).filter (· == line.size) else [])
    else if o.has "words" then r.wordEnds line i
    else r.ends line i
  Regex.stretchesFrom endsAt (line.size + 1) 0

def tellingOf (o : Options) : Telling :=
  if o.has "quiet" then .nothing
  else match o.last? ["withMatch", "withoutMatch"] with
    | some "withMatch" => .withMatch
    | some _ => .withoutMatch
    | none => if o.has "count" then .count else .lines

/-- The last context that was asked for, on one side or on both. -/
def contextOf (o : Options) (side : String) : Option String :=
  match o.value? side with
  | some w => some w
  | none => (o.value? "context").or (digits o)

/-- What is wrong with the value of an option. -/
def valueFlaw (o : Options) : Option String :=
  let contexts := o.values "after" ++ o.values "before" ++ o.values "context"
  let matchers := ["basic", "extended", "fixed", "perl"].filter (o.has ·)
  match contexts.find? fun w => (number? w).isNone with
  | some w => some (w ++ ": invalid context length argument")
  | none =>
    if 1 < matchers.length then some "conflicting matchers specified"
    else if (o.values "limit").any fun w =>
        (number? w).isNone && !(w.startsWith "-" && (number? (w.drop 1).toString).isSome) then
      some "invalid max count"
    else if (o.values "binaryFiles").any (· ∉ ["binary", "text", "without-match"]) then
      some "unknown binary-files type"
    else if (o.values "devices").any (· ∉ ["read", "skip"]) then some "unknown devices method"
    else none

def directoriesOf (o : Options) : Directories :=
  match o.given.reverse.find? fun (k, _) => k ∈ ["recursive", "recursiveLinks", "directories"] with
  | some ("recursive", _) => .walk false
  | some ("recursiveLinks", _) => .walk true
  | some (_, some "recurse") => .walk false
  | some (_, some "skip") => .skip
  | _ => .read

def binaryOf (o : Options) : Binary :=
  match o.given.reverse.find? fun (k, _) => k ∈ ["text", "noBinary", "binaryFiles"] with
  | some ("text", _) => .asText
  | some ("noBinary", _) => .skipped
  | some (_, some "text") => .asText
  | some (_, some "without-match") => .skipped
  | _ => .told

def namesOf (o : Options) : Option Bool :=
  (o.last? ["names", "noNames"]).map (· == "names")

def globFits (glob name : String) : Bool := Shell.Pattern.fits glob.toList name.toList

def mannerOf (o : Options) (r : Regex) : Manner where
  fits := fitting o r
  stretches := stretching o r
  inverts := o.has "inverts"
  telling := tellingOf o
  limit := (o.value? "limit").bind number?
  before := (contextOf o "before").bind number?
  after := (contextOf o "after").bind number?
  separator :=
    match o.last? ["separator", "noSeparator"] with
    | some "separator" => o.value? "separator"
    | some _ => none
    | none => some "--"
  onlyMatching := o.has "onlyMatching"
  colors := (o.value? "color").any (· ∈ ["always", "yes", "force"])
  names := namesOf o
  nameEnd := if o.has "zeroNames" then some "\x00" else none
  numbers := o.has "numbers"
  offsets := o.has "offsets"
  aligns := o.has "aligns"
  lineEnd := if o.has "zeroLines" then '\x00' else '\n'
  binary := binaryOf o
  directories := directoriesOf o
  silent := o.has "silent"
  label := (o.value? "label").getD "(standard input)"
  accepts name :=
    let included := o.values "include"
    (included.isEmpty || included.any (globFits · name)) &&
      !(o.values "exclude").any (globFits · name)
  acceptsDirectory name := !(o.values "excludeDirectory").any (globFits · name)

def usage : Step Unit := do
  printError "Usage: grep [OPTION]... PATTERNS [FILE]...\nTry 'grep --help' for more information.\n"
  setStatus 2

/-- Search what the words name, or what is asked for without them. -/
def searchWords (m : Manner) (words : List String) : Step Unit := do
  let showsName := m.names.getD (1 < words.length)
  let start : Run := ⟨false, false, false⟩
  let run ←
    match words, m.directories with
    | [], .walk followsLinks =>
      searchBelow m followsLinks (m.names.getD true) 4096 "." "" start
    | [], _ => searchInput m showsName start
    | words, _ => searchAll m showsName words start
  if run.isOver then setStatus 0
  else if (← get).outputFault.isSome then setStatus 2
  else if (← get).status ≠ 2 then setStatus (if run.found then 0 else 1)

def utility : Step Unit := do
  let o := Options.read (rules ++ commonRules) false (← get).args
  match o.flaw, valueFlaw o with
  | some flaw, _ => do
    complainWith 2 flaw
    usage
  | none, some flaw => complainWith 2 flaw
  | none, none =>
    if o.has "help" ∨ o.has "version" then pure ()
    else
      let isGiven := o.has "expression" || o.has "file"
      let (given, words) := match (isGiven, o.words) with
        | (false, w :: ws) => (("expression", some w) :: o.given, ws)
        | (_, ws) => (o.given, ws)
      if !isGiven ∧ o.words.isEmpty then usage
      else match ← patternsOf given with
        | .error (path, fault) => complainWith 2 (path ++ ": " ++ fault.summary)
        | .ok patterns =>
          match regexOf o patterns with
          | .error flaw => complainWith 2 flaw.text
          | .ok r =>
            let m := mannerOf o r
            if m.limit = some 0 ∧ m.telling ≠ .withoutMatch then setStatus 1
            else searchWords m words

end BenchCheckout.Utility.Search
