import BenchCheckout.Text.Octets

/-!
# Regular expressions

`Regex.reach r s` leads from the places in a line where a match of `r` can start to those where one
can end. A place is a position, together with the stretches that groups have matched so far, which
back-references ask for. An expression without back-references has no groups in it, so that there is
one place for each position.
-/

namespace BenchCheckout

/-- What a position is told by: the characters in front of it and behind it. -/
abbrev Edge := Option Char → Option Char → Bool

inductive Regex where
  | empty
  | one (fits : Char → Bool)
  | edge (holds : Edge)
  | seq (r s : Regex)
  | alt (r s : Regex)
  /-- At least so many times, and at most so many times if there is a limit. -/
  | repeated (r : Regex) (least : Nat) (most : Option Nat)
  | group (number : Nat) (r : Regex)
  /-- What a group has matched, once more; with `folds` the case of letters does not count. -/
  | back (folds : Bool) (number : Nat)

namespace Regex

structure Place where
  position : Nat
  /-- The stretches that groups have matched: number, start and end. -/
  stretches : List (Nat × Nat × Nat)
deriving DecidableEq, Repr

/-- The places of both lists, each one once. -/
def union (ps qs : List Place) : List Place := ps ++ qs.filter (· ∉ ps)

/-- What further steps reach from `front`, with what was seen before. At most `steps` of them. -/
def closure (step : List Place → List Place) : Nat → List Place → List Place → List Place
  | 0, _, seen => seen
  | steps + 1, front, seen =>
    let next := (step front).filter (· ∉ seen)
    if next.isEmpty then seen else closure step steps next (seen ++ next)

/-- So many steps, or fewer if they lead nowhere. -/
def steps (step : List Place → List Place) : Nat → List Place → List Place
  | 0, ps => ps
  | n + 1, ps => if ps.isEmpty then [] else steps step n (step ps)

/-- Where the same characters follow as in the stretch. -/
def follows (folds : Bool) (s : Array Char) (start stop position : Nat) : Bool :=
  let fold (c : Char) : Char := if folds then c.toLower else c
  (List.range (stop - start)).all fun k =>
    match s[start + k]?, s[position + k]? with
    | some c, some d => fold c == fold d
    | _, _ => false

def reach (s : Array Char) : Regex → List Place → List Place
  | empty, ps => ps
  | one fits, ps =>
    ps.filterMap fun p =>
      if s[p.position]?.any fits then some { p with position := p.position + 1 } else none
  | edge holds, ps =>
    ps.filter fun p =>
      holds (if p.position = 0 then none else s[p.position - 1]?) s[p.position]?
  | seq q r, ps => reach s r (reach s q ps)
  | alt q r, ps => union (reach s q ps) (reach s r ps)
  | repeated r least most, ps =>
    let front := steps (reach s r) least ps
    let limit := (s.size + 1) * (s.size + 1)
    closure (reach s r) ((most.map (· - least)).getD limit) front front
  | group number r, ps =>
    ps.flatMap fun p =>
      (reach s r [p]).map fun q =>
        { q with
          stretches := (number, p.position, q.position) :: q.stretches.filter (·.1 != number) }
  | back folds number, ps =>
    ps.filterMap fun p =>
      match p.stretches.find? (·.1 == number) with
      | some (_, start, stop) =>
        if follows folds s start stop p.position then
          some { p with position := p.position + (stop - start) }
        else none
      | none => none

/-! ## Matches in a line -/

/-- The positions where matches end that start at a position. -/
def ends (r : Regex) (s : Array Char) (start : Nat) : List Nat :=
  (reach s r [⟨start, []⟩]).map Place.position

/-- Some stretch of the line matches. -/
def occursIn (r : Regex) (s : Array Char) : Bool :=
  !(reach s r ((List.range (s.size + 1)).map fun i => ⟨i, []⟩)).isEmpty

/-- The whole line matches. -/
def isLine (r : Regex) (s : Array Char) : Bool := (r.ends s 0).contains s.size

def isWordPart (c : Char) : Bool := c.isAlphanum || c == '_'

/-- No word goes on at the position. -/
def isBreak (c : Option Char) : Bool := !c.any isWordPart

/-- The positions where matches end that start at a position and are no part of a longer word. -/
def wordEnds (r : Regex) (s : Array Char) (start : Nat) : List Nat :=
  if start = 0 ∨ isBreak s[start - 1]? then (r.ends s start).filter fun j => isBreak s[j]?
  else []

/-- Some stretch of the line matches, and is no part of a longer word. -/
def occursAsWord (r : Regex) (s : Array Char) : Bool :=
  (List.range (s.size + 1)).any fun i => !(wordEnds r s i).isEmpty

/-- The stretches that match, from left to right, each as long as it can be, and none of them empty.
So many positions are left to be looked at. -/
def stretchesFrom (endsAt : Nat → List Nat) : (left start : Nat) → List (Nat × Nat)
  | 0, _ => []
  | left + 1, start =>
    let stop := (endsAt start).foldl max start
    if stop ≤ start then stretchesFrom endsAt left (start + 1)
    else (start, stop) :: stretchesFrom endsAt left stop

end Regex

end BenchCheckout
