import BenchCheckout.Text.Blank
import BenchCheckout.Text.Lines

/-!
# Patching a build manifest

A patch rule names a line by its text without the blanks around it. `applyRules` runs the rules in
order; each one replaces the text of the first line that it names and leaves the blanks around the
text alone, the line's end among them.

* `applyRules_nil`: no rule, no change.
* `patchLines_eq_none_iff`: a rule that names no line changes nothing.
-/

namespace BenchCheckout

/-- The line to look for, and what to write in its place. -/
structure PatchRule where
  line : String
  replacement : String
deriving DecidableEq, Inhabited

namespace Manifest

open Text

/-- The text of a line replaced, the blanks around it kept. On a line of blanks alone both ends are
the whole line, so its blanks stand before and after the replacement. -/
def replaceLine (replacement segment : List Char) : List Char :=
  leading segment ++ replacement ++ trailing segment

/-- The rule's line without the blanks around it. -/
def names (rule : PatchRule) (segment : List Char) : Bool :=
  trim segment == rule.line.toList

/-- The segments with the first one that the rule names replaced, or none if it names none. -/
def patchLines (rule : PatchRule) : List (List Char) → Option (List (List Char))
  | [] => none
  | l :: ls =>
    if names rule l then some (replaceLine rule.replacement.toList l :: ls)
    else (patchLines rule ls).map (l :: ·)

/-- One rule on the segments and the count of lines replaced so far. -/
def applyRule (state : List (List Char) × Nat) (rule : PatchRule) : List (List Char) × Nat :=
  match patchLines rule state.1 with
  | some ls => (ls, state.2 + 1)
  | none => state

/-- The patched text and the number of lines that were replaced. -/
def applyRules (content : String) (rules : List PatchRule) : String × Nat :=
  let patched := rules.foldl applyRule (segments content.toList, 0)
  (String.ofList patched.1.flatten, patched.2)

theorem patchLines_eq_none_iff {rule : PatchRule} {ls : List (List Char)} :
    patchLines rule ls = none ↔ ∀ l ∈ ls, names rule l = false := by
  induction ls with
  | nil => simp [patchLines]
  | cons l ls ih =>
    by_cases h : names rule l = true
    · simp [patchLines, h]
    · simp [patchLines, h, ih]

@[simp]
theorem applyRules_nil (content : String) : applyRules content [] = (content, 0) := by
  simp [applyRules, flatten_segments]

end Manifest

end BenchCheckout
