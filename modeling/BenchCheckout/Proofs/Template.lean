import BenchCheckout.Template
import Mathlib.Data.List.Find
import Mathlib.Data.List.Infix

/-!
# Filling in all placeholders at once

`fill bindings template` reads a template once from left to right and puts each binding's value in
place of its placeholder; what a value holds is not read again. `expand`, which fills in one
variable after the other, comes to the same where no value but the last can be, or complete, a
placeholder.

* `expand_eq_fill`: for values without braces that hold a slash, as paths and addresses do.
-/

namespace BenchCheckout.Template

/-- From left to right; the first `k` characters belong to a placeholder that was filled in. -/
def fillFrom (bindings : List Binding) : Nat → List Char → List Char
  | _, [] => []
  | k + 1, _ :: s => fillFrom bindings k s
  | 0, c :: s =>
    match bindings.find? fun b => (placeholder b.1).isPrefixOf (c :: s) with
    | some b => b.2.toList ++ fillFrom bindings ((placeholder b.1).length - 1) s
    | none => c :: fillFrom bindings 0 s

/-- Every placeholder of the template with its value, and everything else as it is. -/
def fill (bindings : List Binding) (template : String) : String :=
  String.ofList (fillFrom bindings 0 template.toList)

/-- A name that no text with a slash or a brace can be. -/
def IsPlain (name : String) : Prop := '{' ∉ name.toList ∧ '/' ∉ name.toList

instance (name : String) : Decidable (IsPlain name) := inferInstanceAs (Decidable (_ ∧ _))

/-- A value that is no placeholder, no part of one from either end, and no plain name. -/
def IsInert (value : String) : Prop :=
  '{' ∉ value.toList ∧ '}' ∉ value.toList ∧ '/' ∈ value.toList

instance (value : String) : Decidable (IsInert value) := inferInstanceAs (Decidable (_ ∧ _))

/-- A placeholder behind its brace. -/
def rest (name : String) : List Char := name.toList ++ ['}']

theorem placeholder_eq (name : String) : placeholder name = '{' :: rest name := rfl

theorem not_mem_rest {name : String} (h : IsPlain name) : '{' ∉ rest name := by
  simp [rest, h.1]

/-! ## Steps of a reading -/

section Steps

variable {bindings : List Binding} {b : Binding} {c : Char} {v w s : List Char}

theorem isPrefixOf_placeholder (n : String) :
    (placeholder n).isPrefixOf (c :: s) = true ↔ c = '{' ∧ rest n <+: s := by
  rw [List.isPrefixOf_iff_prefix, placeholder_eq, List.cons_prefix_cons, eq_comm]

theorem fillFrom_skip : fillFrom bindings w.length (w ++ s) = fillFrom bindings 0 s := by
  induction w with
  | nil => rfl
  | cons d w ih => exact ih

theorem replaceFrom_skip {p : List Char} :
    Text.replaceFrom p v w.length (w ++ s) = Text.replaceFrom p v 0 s := by
  induction w with
  | nil => rfl
  | cons d w ih => exact ih

theorem fillFrom_cons_of_ne (hc : c ≠ '{') :
    fillFrom bindings 0 (c :: s) = c :: fillFrom bindings 0 s := by
  have hnone : (bindings.find? fun b => (placeholder b.1).isPrefixOf (c :: s)) = none := by
    rw [List.find?_eq_none]
    exact fun b _ hp => hc ((isPrefixOf_placeholder b.1).mp hp).1
  rw [fillFrom, hnone]

theorem replaceFrom_cons_of_ne {n : String} (hc : c ≠ '{') :
    Text.replaceFrom (placeholder n) v 0 (c :: s) =
      c :: Text.replaceFrom (placeholder n) v 0 s := by
  rw [Text.replaceFrom, if_neg fun hp => hc ((isPrefixOf_placeholder n).mp hp).1]

/-- A text without an opening brace holds no placeholder. -/
theorem fillFrom_append (hw : '{' ∉ w) :
    fillFrom bindings 0 (w ++ s) = w ++ fillFrom bindings 0 s := by
  induction w with
  | nil => rfl
  | cons d w ih =>
    rw [List.mem_cons, not_or] at hw
    rw [List.cons_append, fillFrom_cons_of_ne (Ne.symm hw.1), ih hw.2, List.cons_append]

theorem replaceFrom_append {n : String} (hw : '{' ∉ w) :
    Text.replaceFrom (placeholder n) v 0 (w ++ s) =
      w ++ Text.replaceFrom (placeholder n) v 0 s := by
  induction w with
  | nil => rfl
  | cons d w ih =>
    rw [List.mem_cons, not_or] at hw
    rw [List.cons_append, replaceFrom_cons_of_ne (Ne.symm hw.1), ih hw.2, List.cons_append]

theorem fillFrom_nil (s : List Char) : fillFrom [] 0 s = s := by
  induction s with
  | nil => rfl
  | cons c s ih => rw [fillFrom, List.find?_nil, ih]

/-- A placeholder that is filled in. -/
theorem fillFrom_of_find {r : List Char}
    (h : bindings.find? (fun b => (placeholder b.1).isPrefixOf (c :: s)) = some b)
    (hs : s = rest b.1 ++ r) :
    fillFrom bindings 0 (c :: s) = b.2.toList ++ fillFrom bindings 0 r := by
  rw [fillFrom, h]
  simp only [placeholder_eq, List.length_cons, Nat.add_sub_cancel]
  rw [hs, fillFrom_skip]

theorem replaceFrom_placeholder (n : String) :
    Text.replaceFrom (placeholder n) v 0 ('{' :: (rest n ++ s)) =
      v ++ Text.replaceFrom (placeholder n) v 0 s := by
  rw [Text.replaceFrom, if_pos ((isPrefixOf_placeholder n).mpr ⟨rfl, List.prefix_append _ _⟩),
    placeholder_eq, List.length_cons, Nat.add_sub_cancel, replaceFrom_skip]

end Steps

/-! ## One variable after the other -/

section Rounds

variable {bindings : List Binding} {b : Binding} {n : String} {v s u : List Char}

/-- Where a name ends is not moved by filling in another placeholder: no value without a closing
brace, but with a slash, can be or end the name. -/
theorem prefix_replaceFrom_iff (hv : '}' ∉ v ∧ '/' ∈ v) (hu : '{' ∉ u ∧ '/' ∉ u) :
    u ++ ['}'] <+: Text.replaceFrom (placeholder n) v 0 s ↔ u ++ ['}'] <+: s := by
  induction s generalizing u with
  | nil => rfl
  | cons d s ih =>
    by_cases hp : (placeholder n).isPrefixOf (d :: s)
    · obtain ⟨rfl, r, rfl⟩ := (isPrefixOf_placeholder n).mp hp
      rw [replaceFrom_placeholder]
      refine iff_of_false (fun h => ?_) fun h => ?_
      · rcases List.prefix_or_prefix_of_prefix h (List.prefix_append v _) with h | h
        · exact hv.1 (h.subset (by simp))
        · have := h.subset hv.2
          simp [hu.2] at this
      · cases u with
        | nil => simp at h
        | cons e u =>
          rw [List.cons_append, List.cons_prefix_cons] at h
          exact hu.1 (h.1 ▸ List.mem_cons_self)
    · rw [Text.replaceFrom, if_neg hp]
      cases u with
      | nil => simp
      | cons e u =>
        rw [List.mem_cons, not_or, List.mem_cons, not_or] at hu
        rw [List.cons_append, List.cons_prefix_cons, List.cons_prefix_cons,
          ih ⟨hu.1.2, hu.2.2⟩]

/-- The binding that is filled in at a brace is the same before and after another round. -/
theorem find?_replaceFrom (hn : ∀ b ∈ bindings, IsPlain b.1) (hv : bindings = [] ∨ IsInert b.2)
    (c : Char) (s : List Char) :
    (bindings.find? fun b' => (placeholder b'.1).isPrefixOf
        (c :: Text.replaceFrom (placeholder b.1) b.2.toList 0 s)) =
      bindings.find? fun b' => (placeholder b'.1).isPrefixOf (c :: s) := by
  refine List.find?_congr fun b' hb' => ?_
  rcases hv with rfl | hv
  · cases hb'
  · rw [Bool.eq_iff_iff, isPrefixOf_placeholder, isPrefixOf_placeholder, rest,
      prefix_replaceFrom_iff hv.2 (hn b' hb')]

/-- Filling in one variable and then all others at once is filling in all at once, if the first
value neither is nor completes a placeholder of the others. -/
theorem fillFrom_replaceFrom (hn : ∀ b ∈ bindings, IsPlain b.1)
    (hv : bindings = [] ∨ IsInert b.2) (s : List Char) :
    fillFrom bindings 0 (Text.replaceFrom (placeholder b.1) b.2.toList 0 s) =
      fillFrom (b :: bindings) 0 s := by
  induction hlen : s.length using Nat.strongRecOn generalizing s with
  | ind k ih =>
    subst hlen
    cases s with
    | nil => rfl
    | cons c s =>
      by_cases hp : (placeholder b.1).isPrefixOf (c :: s)
      · -- The first variable's own placeholder: its value is not read again.
        obtain ⟨rfl, r, rfl⟩ := (isPrefixOf_placeholder b.1).mp hp
        have hfirst : ((b :: bindings).find? fun b' =>
            (placeholder b'.1).isPrefixOf ('{' :: (rest b.1 ++ r))) = some b := by
          rw [List.find?_cons_of_pos]
          exact hp
        have hvalue (x : List Char) :
            fillFrom bindings 0 (b.2.toList ++ x) = b.2.toList ++ fillFrom bindings 0 x := by
          rcases hv with rfl | hv
          · rw [fillFrom_nil, fillFrom_nil]
          · exact fillFrom_append hv.1
        rw [replaceFrom_placeholder, hvalue, fillFrom_of_find hfirst rfl,
          ih r.length (by simp only [List.length_cons, List.length_append]; omega) r rfl]
      · have hothers : ((b :: bindings).find? fun b' =>
            (placeholder b'.1).isPrefixOf (c :: s)) =
            bindings.find? fun b' => (placeholder b'.1).isPrefixOf (c :: s) := by
          rw [List.find?_cons_of_neg]
          exact hp
        have hsame := find?_replaceFrom hn hv c s
        rw [Text.replaceFrom, if_neg hp]
        cases hfind : bindings.find? fun b' => (placeholder b'.1).isPrefixOf (c :: s) with
        | none =>
          rw [fillFrom, hsame, hfind, fillFrom, hothers, hfind]
          simp only
          rw [ih s.length (by simp) s rfl]
        | some b' =>
          -- Another one's: its name holds no brace, so the first round leaves it whole.
          have hb' := hn b' (List.mem_of_find?_eq_some hfind)
          have hstart := List.find?_some hfind
          obtain ⟨-, r, rfl⟩ := (isPrefixOf_placeholder b'.1).mp hstart
          rw [hfind] at hsame hothers
          rw [fillFrom_of_find hothers rfl, fillFrom_of_find hsame (replaceFrom_append
            (not_mem_rest hb')),
            ih r.length (by simp only [List.length_cons, List.length_append]; omega) r rfl]

/-- Where no value but the last can be or complete a placeholder, one variable after the other is
all at once. -/
theorem expand_eq_fill {bindings : List Binding} (hn : ∀ b ∈ bindings, IsPlain b.1)
    (hv : ∀ b ∈ bindings.dropLast, IsInert b.2) (template : String) :
    expand bindings template = fill bindings template := by
  induction bindings generalizing template with
  | nil => rw [expand_nil, fill, fillFrom_nil, String.ofList_toList]
  | cons b bindings ih =>
    rw [List.forall_mem_cons] at hn
    have hlast : bindings = [] ∨ IsInert b.2 := by
      cases bindings with
      | nil => exact .inl rfl
      | cons b' bindings => exact .inr (hv b List.mem_cons_self)
    have hrest : ∀ b ∈ bindings.dropLast, IsInert b.2 := by
      cases bindings with
      | nil => exact nofun
      | cons b' bindings => exact fun a ha => hv a (List.mem_cons_of_mem b ha)
    rw [expand_cons, ih hn.2 hrest, fill, fill, String.toList_ofList, substitute, Text.replaceAll,
      fillFrom_replaceFrom hn.2 hlast]

end Rounds

end BenchCheckout.Template
