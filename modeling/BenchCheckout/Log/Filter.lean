import BenchCheckout.Path
import BenchCheckout.Text.Alphanumeric
import BenchCheckout.Text.Blank

/-!
# Log filters

A `Filter` says which entries of a log are written. It is read from the text of an environment
variable (`Filter.parse?`), a list of directives between commas. A directive is a level, a target,
or a target and a level with an equals sign between them; behind the target a field can stand in
brackets and braces, as in `area[{field}]=debug`.

Of the rules that fit an entry the one with the longest target decides; of rules with one target the
one with a field, and then the last one (`Filter.decisive?`).
-/

namespace BenchCheckout.Log

/-- How much a line matters, from what matters most. -/
inductive Level where
  | error
  | warn
  | info
  | debug
  | trace
deriving DecidableEq, Repr

namespace Level

def all : List Level := [error, warn, info, debug, trace]

def label : Level → String
  | error => "ERROR"
  | warn => " WARN"
  | info => " INFO"
  | debug => "DEBUG"
  | trace => "TRACE"

def rank : Level → Nat
  | error => 1
  | warn => 2
  | info => 3
  | debug => 4
  | trace => 5

def name : Level → String
  | error => "error"
  | warn => "warn"
  | info => "info"
  | debug => "debug"
  | trace => "trace"

end Level

/-- Entries whose area starts with `target` and that have the field `field` are written up to the
rank `limit`. No target fits every area, no field every entry, and the rank zero writes nothing. -/
structure Rule where
  target : Option String
  field : Option String
  limit : Nat
deriving DecidableEq, Repr

namespace Rule

def fits (rule : Rule) (area : String) (fields : List String) : Bool :=
  rule.target.all (fun t => t.toList.isPrefixOf area.toList) && rule.field.all (fields.contains ·)

/-- The length of the target, and whether there is a field. -/
def weight (rule : Rule) : Nat × Nat :=
  ((rule.target.map (·.utf8ByteSize + 1)).getD 0, if rule.field.isSome then 1 else 0)

/-- `a` decides before `b`. Targets of one length that fit the same area are the same. -/
def outweighs (a b : Rule) : Bool :=
  let (m, f) := a.weight
  let (n, g) := b.weight
  n < m || (m == n && (g < f || (f == g && b.field.getD "" < a.field.getD "")))

/-- The rule that decides, the later one if neither comes before the other. -/
def heavier (best : Option Rule) (rule : Rule) : Option Rule :=
  match best with
  | some b => if b.outweighs rule then some b else some rule
  | none => some rule

end Rule

/-! ## Directives -/

/-- A rank as a number or a name in letters of either case; the empty text means errors. -/
def limit? (s : String) : Option Nat :=
  let digits := match s.toList with
    | '+' :: ds => ds
    | ds => ds
  if s = "" then some Level.error.rank
  else if digits ≠ [] ∧ digits.all Char.isDigit then
    let n := digits.foldl (fun n d => 10 * n + (d.toNat - '0'.toNat)) 0
    if n ≤ 5 then some n else none
  else
    let lower := String.ofList (s.toList.map Char.toLower)
    if lower = "off" then some 0 else (Level.all.find? (·.name == lower)).map (·.rank)

/-- A directive as far as it is read. One that names a span, or the value of a field, says nothing
about entries outside of spans. -/
structure Directive where
  rule : Rule
  spanOnly : Bool
deriving DecidableEq, Repr

namespace Directive

def blank : Directive := ⟨⟨none, none, Level.trace.rank⟩, false⟩

def withTarget (target : String) (d : Directive) : Directive :=
  { d with rule := { d.rule with target := some target } }

def withLimit (limit : Nat) (d : Directive) : Directive :=
  { d with rule := { d.rule with limit } }

/-- A span with a name. -/
def withSpan (d : Directive) : Directive := { d with spanOnly := true }

/-- A field by its name, or by its name and its value. -/
def withField (text : String) (d : Directive) : Directive :=
  let name := text.toList.takeWhile (· ≠ '=')
  { rule := { d.rule with field := some (String.ofList name) }
    spanOnly := d.spanOnly || '=' ∈ text.toList }

/-- What is being read, and the position of its first byte. -/
inductive Stage where
  | start
  | word (first : Nat)
  | span (first : Nat)
  | field (first : Nat)
  | fieldEnd
  | targetEnd
  | level (first : Nat)
deriving DecidableEq, Repr

/-- Characters that a target may start with. -/
def startsTarget (c : Char) : Bool :=
  c == '-' || c == ':' || c == '_' || Text.isAlphanumeric c

/-- One character, at a position of the text without blanks at its ends. The parts that it ends are
cut out of the whole text at these positions, so blanks in front of a directive shift them. -/
def step (text : ByteArray) (d : Directive) (stage : Stage) (position : Nat) (c : Char) :
    Option (Directive × Stage) :=
  let part (first : Nat) : Option String := String.fromUTF8? (text.extract first position)
  match stage, c with
  | .start, '[' => some (d, .span (position + 1))
  | .start, c => if startsTarget c then some (d, .word position) else none
  | .word first, '=' => (part first).map fun t => (d.withTarget t, .level (position + 1))
  | .word first, '[' => (part first).map fun t => (d.withTarget t, .span (position + 1))
  | .span first, ']' => (part first).map fun _ => (d.withSpan, .targetEnd)
  | .span first, '\x7b' => (part first).map fun s =>
    (if s = "" then d else d.withSpan, .field (position + 1))
  | .field first, '\x7d' => (part first).bind fun f =>
    if f = "" then none else some (d.withField f, .fieldEnd)
  | .fieldEnd, ']' => some (d, .targetEnd)
  | .targetEnd, '=' => some (d, .level (position + 1))
  | .fieldEnd, _ | .targetEnd, _ => none
  | stage, _ => some (d, stage)

def steps (text : ByteArray) : Directive → Stage → Nat → List Char → Option (Directive × Stage)
  | d, stage, _, [] => some (d, stage)
  | d, stage, position, c :: cs =>
    match step text d stage position c with
    | some (d, stage) => steps text d stage (position + c.utf8Size) cs
    | none => none

/-- The directive that a text is. A word alone is a level if it is the name of one, and else a
target; a target without a level takes everything. -/
def parse? (s : String) : Option Directive := do
  let text := s.toUTF8
  let rest (first : Nat) : Option String := String.fromUTF8? (text.extract first text.size)
  let (d, stage) ← steps text blank .start 0 (Text.trim s.toList)
  match stage with
  | .word first =>
    let word ← rest first
    match limit? word with
    | some n => some (d.withLimit n)
    | none => some (d.withTarget word)
  | .level first =>
    let level ← rest first
    if level = "" then some d else (limit? level).map (d.withLimit ·)
  | .targetEnd => some d
  | _ => none

end Directive

/-! ## Filters -/

abbrev Filter := List Rule

namespace Filter

/-- Nothing is written. -/
def silent : Filter := [⟨none, none, 0⟩]

def upTo (level : Level) : Filter := [⟨none, none, level.rank⟩]

/-- The rules of the directives between commas. Without any directive, errors are written. -/
def parse? (s : String) : Option Filter :=
  let parts := ((Path.cut ',' s.toList).filter (!·.isEmpty)).map String.ofList
  if parts.isEmpty then some (upTo .error)
  else (parts.mapM Directive.parse?).map fun ds => (ds.filter (!·.spanOnly)).map (·.rule)

/-- The filter that an environment variable asks for: warnings, where it is not set or no filter. -/
def ofVariable (value : Option String) : Filter :=
  (value.bind parse?).getD (upTo .warn)

/-- The rule that decides about an entry of an area with fields. -/
def decisive? (filter : Filter) (area : String) (fields : List String) : Option Rule :=
  (filter.filter (·.fits area fields)).foldl Rule.heavier none

def allows (filter : Filter) (level : Level) (area : String) (fields : List String) : Bool :=
  match filter.decisive? area fields with
  | some rule => level.rank ≤ rule.limit
  | none => false

end Filter

end BenchCheckout.Log
