import BenchCheckout.Shell.Pattern

/-!
# Fields of expanded words

What a word expands to is a row of glyphs, in which some stretches are to be cut at separators.
`Expanded.fields` cuts it, and `Glyph.paths` replaces a field that is a pattern by the paths that
fit.
-/

namespace BenchCheckout.Shell

/-- A character of an expanded word. -/
inductive Glyph where
  | plain (c : Char)
  /-- It stands for itself even in a pattern. -/
  | quoted (c : Char)
  /-- A quote begins or ends here, so that the field exists even if nothing is in it. -/
  | mark
deriving DecidableEq, Repr, Inhabited

namespace Glyph

def char? : Glyph → Option Char
  | plain c | quoted c => some c
  | mark => none

/-- The character between arguments that are to be fields of their own. -/
def divider : Char := '\x00'

def text (gs : List Glyph) : String := String.ofList (gs.filterMap (·.char?))

/-- The pattern that glyphs are. A backslash that is not quoted takes the meaning of the next
character itself. -/
def pattern (isOpen : Bool) : List Glyph → Pattern
  | [] => []
  | .mark :: gs => pattern isOpen gs
  | .plain '\\' :: gs => '\\' :: pattern (!isOpen) gs
  | .plain c :: gs => c :: pattern true gs
  | .quoted c :: gs => if isOpen then '\\' :: c :: pattern true gs else c :: pattern true gs

/-- The paths that a field stands for, or its own text. -/
def paths (scene : Scene) (gs : List Glyph) : List String :=
  if Pattern.isActive (gs.filterMap (·.char?)) then
    match Pattern.paths scene (pattern true gs) with
    | [] => [text gs]
    | found => found
  else [text gs]

end Glyph

/-- A stretch that is to be cut, from one position up to another. -/
structure Region where
  start : Nat
  stop : Nat
  /-- It is cut at dividers and nowhere else. -/
  dividersOnly : Bool
deriving DecidableEq, Repr

/-- A word while it is being expanded. -/
structure Expanded where
  glyphs : Array Glyph
  regions : Array Region

namespace Expanded

def empty : Expanded := ⟨#[], #[]⟩

def size (e : Expanded) : Nat := e.glyphs.size

def push (e : Expanded) (g : Glyph) : Expanded := { e with glyphs := e.glyphs.push g }

/-- The characters as glyphs behind the others; quoted ones stand for themselves. -/
def pushText (e : Expanded) (isQuoted : Bool) (s : List Char) : Expanded :=
  s.foldl (fun e c => e.push (if isQuoted then .quoted c else .plain c)) e

/-- Mark what was pushed since a position as a stretch to be cut. -/
def record (e : Expanded) (start : Nat) (dividersOnly : Bool) : Expanded :=
  { e with regions := e.regions.push ⟨start, e.size, dividersOnly⟩ }

def text (e : Expanded) : String := Glyph.text e.glyphs.toList

/-! ## Cutting -/

/-- Separators of which several count as one. -/
def isBlank (c : Char) : Bool := c == ' ' || c == '\t' || c == '\n' || c == Glyph.divider

/-- Where the cutting is. -/
structure Cutting where
  fields : Array (Nat × Nat)
  /-- Where the field that is not ended yet starts. -/
  start : Nat
  /-- The last separator was a blank, and more may follow. -/
  afterBlank : Bool
  /-- How many fields may still be ended, if their number is limited. -/
  left : Option Nat
  /-- Where the separators at the end of the last field start. -/
  cutOff : Option Nat

/-- The glyph at position `i` of a region. -/
def cutStep (separators : List Char) (wasDividers dividersOnly : Bool) (i : Nat) (c : Option Char)
    (k : Cutting) : Cutting :=
  let isSeparator := c.any fun c => c == Glyph.divider || (!dividersOnly && c ∈ separators)
  let isBlank := isSeparator && c.any isBlank
  if k.left = some 0 then
    if isBlank then { k with cutOff := some (k.cutOff.getD i) }
    else
      { k with
        cutOff := if isSeparator && k.afterBlank then k.cutOff else none
        afterBlank := false }
  else if k.afterBlank then
    { k with start := if isSeparator then i + 1 else i, afterBlank := isBlank }
  else if isSeparator then
    let afterBlank := isBlank && !(wasDividers || dividersOnly)
    if i = k.start ∧ afterBlank then { k with start := i + 1 }
    else if k.left = some 1 then { k with left := some 0, cutOff := some i, afterBlank }
    else
      { k with
        fields := k.fields.push (k.start, i)
        start := i + 1
        left := k.left.map (· - 1)
        afterBlank }
  else k

/-- The glyphs of a region, one after the other. -/
def cutRegion (glyphs : Array Glyph) (separators : List Char) (wasDividers : Bool) (r : Region)
    (k : Cutting) : Cutting :=
  (List.range (r.stop - r.start)).foldl (fun k j =>
    let i := r.start + j
    cutStep separators wasDividers r.dividersOnly i ((glyphs[i]?).bind (·.char?)) k) k

/-- The fields of an expanded word, at most so many if there is a limit: the last one has what is
left then. -/
def fieldsUpTo (limit : Option Nat) (separators : List Char) (e : Expanded) :
    List (List Glyph) :=
  let start : Cutting := ⟨#[], 0, false, limit, none⟩
  let (k, isDivided) := e.regions.foldl (fun (k, wasDividers) r =>
    (cutRegion e.glyphs separators wasDividers r { k with afterBlank := false }, r.dividersOnly))
    (start, false)
  let slice (a b : Nat) : List Glyph := (e.glyphs.extract a b).toList
  let fields := k.fields.toList.map fun (a, b) => slice a b
  let last := slice k.start (k.cutOff.getD e.size)
  if isDivided || !last.isEmpty then fields ++ [last] else fields

def fields (separators : List Char) (e : Expanded) : List (List Glyph) :=
  e.fieldsUpTo none separators

end Expanded

end BenchCheckout.Shell
