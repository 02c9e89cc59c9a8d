import BenchCheckout.Proofs.Manifest.Layout
import Mathlib.Data.List.TakeWhile

/-!
# What one rule does

A rule rewrites the first line that it names, or nothing. A rewritten line has the text of the
replacement, whatever blanks stood around the old one.

* `trim_replaceLine`: the text of a line after it was rewritten.
* `patchLines_eq_some_iff`, `applyRule_cases`: all that a rule can do to the lines.
* `foldl_applyRule_start`: the count goes on from where it stood.
-/

namespace BenchCheckout

namespace Text

variable {a b l : List Char}

theorem trim_append_left (ha : ∀ c ∈ a, isBlank c = true) : trim (a ++ b) = trim b := by
  rw [trim, trimStart, List.dropWhile_append_of_pos ha]
  rfl

theorem trimStart_eq_nil_iff : trimStart l = [] ↔ ∀ c ∈ l, isBlank c = true :=
  List.dropWhile_eq_nil_iff

theorem trimEnd_append_right (hb : ∀ c ∈ b, isBlank c = true) :
    trimEnd (a ++ b) = trimEnd a := by
  rw [trimEnd, List.reverse_append,
    List.dropWhile_append_of_pos fun c hc => hb c (List.mem_reverse.mp hc)]
  rfl

theorem trim_append_right (hb : ∀ c ∈ b, isBlank c = true) : trim (a ++ b) = trim a := by
  by_cases ha : ∀ c ∈ a, isBlank c = true
  · rw [trim_append_left ha, trim, trim, trimStart_eq_nil_iff.mpr ha, trimStart_eq_nil_iff.mpr hb]
  · have hne : ¬ (a.dropWhile isBlank).isEmpty = true := by
      rwa [List.isEmpty_iff, List.dropWhile_eq_nil_iff]
    rw [trim, trimStart, List.dropWhile_append, if_neg hne, trimEnd_append_right hb]
    rfl

/-- The text of a line is empty exactly if the line is blank. -/
theorem trim_eq_nil_iff : trim l = [] ↔ ∀ c ∈ l, isBlank c = true := by
  constructor
  · intro h c hc
    have hstart : ∀ c ∈ trimStart l, isBlank c = true := by
      simpa [trim, trimEnd, List.dropWhile_eq_nil_iff] using h
    rw [← leading_append_trimStart l, List.mem_append] at hc
    exact hc.elim isBlank_of_mem_leading (hstart c)
  · intro h
    rw [trim, trimStart_eq_nil_iff.mpr h]
    rfl

/-- What stands behind a text does not change the blanks before it. -/
theorem leading_append (h : trim a ≠ []) (b : List Char) : leading (a ++ b) = leading a := by
  rw [leading, List.takeWhile_append, if_neg, leading]
  intro hlength
  exact h (trim_eq_nil_iff.mpr (List.takeWhile_eq_self_iff.mp
    ((List.takeWhile_prefix _).eq_of_length hlength)))

end Text

namespace Manifest

open Text

variable {rule : PatchRule} {ls ms : List (List Char)}

/-- A rewritten line has the text of the replacement. -/
@[simp]
theorem trim_replaceLine (replacement l : List Char) :
    trim (replaceLine replacement l) = trim replacement := by
  rw [replaceLine, trim_append_right fun _ => isBlank_of_mem_trailing,
    trim_append_left fun _ => isBlank_of_mem_leading]

theorem names_eq_true_iff {l : List Char} : names rule l = true ↔ trim l = rule.line.toList := by
  rw [names, beq_iff_eq]

/-- A rule that names a line rewrites the first such one and nothing else. -/
theorem patchLines_eq_some_iff :
    patchLines rule ls = some ms ↔ ∃ before l after, ls = before ++ l :: after ∧
      (∀ m ∈ before, names rule m = false) ∧ names rule l = true ∧
      ms = before ++ replaceLine rule.replacement.toList l :: after := by
  constructor
  · intro h
    induction ls generalizing ms with
    | nil => cases h
    | cons l ls ih =>
      rw [patchLines] at h
      split at h
      · rename_i hl
        exact ⟨[], l, ls, rfl, List.forall_mem_nil _, hl, (Option.some.inj h).symm⟩
      · rename_i hl
        obtain ⟨ms, hms, rfl⟩ := Option.map_eq_some_iff.mp h
        obtain ⟨before, k, after, rfl, hbefore, hk, rfl⟩ := ih hms
        refine ⟨l :: before, k, after, rfl, ?_, hk, rfl⟩
        exact List.forall_mem_cons.mpr ⟨by simpa using hl, hbefore⟩
  · rintro ⟨before, l, after, rfl, hbefore, hl, rfl⟩
    induction before with
    | nil => rw [List.nil_append, patchLines, if_pos hl, List.nil_append]
    | cons m before ih =>
      rw [List.forall_mem_cons] at hbefore
      rw [List.cons_append, patchLines, if_neg (by simp [hbefore.1]), ih hbefore.2]
      rfl

/-- What a rule comes to: it names no line and changes nothing, or it rewrites the first line that
it names and counts one. -/
theorem applyRule_cases (state : List (List Char) × Nat) (rule : PatchRule) :
    ((∀ l ∈ state.1, names rule l = false) ∧ applyRule state rule = state) ∨
      ∃ before l after, state.1 = before ++ l :: after ∧ (∀ m ∈ before, names rule m = false) ∧
        names rule l = true ∧ applyRule state rule =
          (before ++ replaceLine rule.replacement.toList l :: after, state.2 + 1) := by
  cases hp : patchLines rule state.1 with
  | none => exact .inl ⟨patchLines_eq_none_iff.mp hp, applyRule_of_none hp⟩
  | some ms =>
    obtain ⟨before, l, after, hstate, hbefore, hl, rfl⟩ := patchLines_eq_some_iff.mp hp
    exact .inr ⟨before, l, after, hstate, hbefore, hl, applyRule_of_some hp⟩

/-- The count goes on from where it stood. -/
theorem foldl_applyRule_start (rules : List PatchRule) (ls : List (List Char)) (n : Nat) :
    rules.foldl applyRule (ls, n) =
      ((rules.foldl applyRule (ls, 0)).1, n + (rules.foldl applyRule (ls, 0)).2) := by
  induction rules generalizing ls n with
  | nil => rfl
  | cons rule rules ih =>
    have hstep : applyRule (ls, n) rule =
        ((applyRule (ls, 0) rule).1, n + (applyRule (ls, 0) rule).2) := by
      cases hp : patchLines rule ls with
      | none =>
        rw [applyRule_of_none hp, applyRule_of_none hp]
        rfl
      | some ms => rw [applyRule_of_some hp, applyRule_of_some hp, Nat.zero_add]
    rw [List.foldl_cons, List.foldl_cons, hstep, ih, ih (applyRule (ls, 0) rule).1
      (applyRule (ls, 0) rule).2, Nat.add_assoc]

/-- The lines do not depend on the count. -/
theorem fst_foldl_applyRule (rules : List PatchRule) (state : List (List Char) × Nat) :
    (rules.foldl applyRule state).1 = (rules.foldl applyRule (state.1, 0)).1 := by
  rw [show state = (state.1, state.2) from rfl, foldl_applyRule_start]

end Manifest

end BenchCheckout
