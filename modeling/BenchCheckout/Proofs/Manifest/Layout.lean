import BenchCheckout.Manifest
import Mathlib.Data.List.Forall2

/-!
# What patching keeps of a text

A patched text has the segments of the old one, in the same order, and each of them has the blanks
at both ends that it had before, its line's end among them.

* `isCut_segments`: what the segments of a text are.
* `KeepsMargins.replaceLine`: a segment keeps its blanks however often it is replaced.
* `applyRule_keeps`, `foldl_applyRule_keeps`: what one rule and a list of rules keep.
* `applyRules_keeps_layout`: all of it for a text.
-/

namespace BenchCheckout

namespace Text

/-! ## Segments -/

/-- `ls` is the text `s` cut behind each line feed. -/
structure IsCut (s : List Char) (ls : List (List Char)) : Prop where
  flatten_eq : ls.flatten = s
  ne_nil : ∀ l ∈ ls, l ≠ []
  feed_last : ∀ l ∈ ls, '\n' ∉ l.dropLast
  ends_in_feed : ∀ l ∈ ls.dropLast, l.getLast? = some '\n'

theorem feed_last_of_mem_segments {s l : List Char} (h : l ∈ segments s) : '\n' ∉ l.dropLast := by
  induction s generalizing l with
  | nil => simp [segments] at h
  | cons c s ih =>
    rw [segments] at h
    split at h
    · rcases List.mem_cons.mp h with rfl | h
      · simp
      · exact ih h
    · rename_i hc
      split at h
      · simp_all
      · rename_i m ms heq
        rcases List.mem_cons.mp h with rfl | h
        · have hm : m ∈ segments s := heq ▸ List.mem_cons_self
          rw [List.dropLast_cons_of_ne_nil (ne_nil_of_mem_segments hm), List.mem_cons, not_or]
          exact ⟨Ne.symm hc, ih hm⟩
        · exact ih (heq ▸ List.mem_cons_of_mem m h)

theorem ends_in_feed_of_mem_dropLast {s l : List Char} (h : l ∈ (segments s).dropLast) :
    l.getLast? = some '\n' := by
  induction s generalizing l with
  | nil => simp [segments] at h
  | cons c s ih =>
    rw [segments] at h
    split at h
    · rename_i hc
      cases hs : segments s with
      | nil => simp [hs] at h
      | cons m ms =>
        rw [hs, List.dropLast_cons_of_ne_nil (List.cons_ne_nil m ms), ← hs] at h
        rcases List.mem_cons.mp h with rfl | h
        · rw [hc]
          rfl
        · exact ih h
    · cases hs : segments s with
      | nil => simp [hs] at h
      | cons m ms =>
        simp only [hs] at h
        cases ms with
        | nil => simp at h
        | cons k ks =>
          have hdrop : (segments s).dropLast = m :: (k :: ks).dropLast := by rw [hs]; rfl
          have hm : m.getLast? = some '\n' := ih (hdrop ▸ List.mem_cons_self)
          rw [List.dropLast_cons_of_ne_nil (List.cons_ne_nil k ks)] at h
          rcases List.mem_cons.mp h with rfl | h
          · rw [List.getLast?_cons, hm]
            rfl
          · exact ih (hdrop ▸ List.mem_cons_of_mem m h)

theorem isCut_segments (s : List Char) : IsCut s (segments s) where
  flatten_eq := flatten_segments s
  ne_nil _ h := ne_nil_of_mem_segments h
  feed_last _ h := feed_last_of_mem_segments h
  ends_in_feed _ h := ends_in_feed_of_mem_dropLast h

/-! ## Blanks at both ends -/

/-- What a line ends with: a line feed with or without a carriage return before it, or nothing. -/
def terminator (l : List Char) : List Char :=
  if ['\r', '\n'] <:+ l then ['\r', '\n'] else if ['\n'] <:+ l then ['\n'] else []

theorem isBlank_of_mem_leading {l : List Char} {c : Char} (h : c ∈ leading l) : isBlank c = true :=
  List.all_eq_true.mp List.all_takeWhile c h

theorem isBlank_of_mem_trailing {l : List Char} {c : Char} (h : c ∈ trailing l) :
    isBlank c = true :=
  List.all_eq_true.mp List.all_takeWhile c (List.mem_reverse.mp h)

/-- Blanks that a text starts with are among all those that it starts with. -/
theorem isPrefix_leading {a l : List Char} (h : a <+: l) (ha : ∀ c ∈ a, isBlank c = true) :
    a <+: leading l := by
  obtain ⟨b, rfl⟩ := h
  rw [leading, List.takeWhile_append_of_pos ha]
  exact List.prefix_append a _

theorem isSuffix_trailing {a l : List Char} (h : a <:+ l) (ha : ∀ c ∈ a, isBlank c = true) :
    a <:+ trailing l := by
  rw [trailing, ← List.reverse_prefix, List.reverse_reverse]
  exact isPrefix_leading (List.reverse_prefix.mpr h) fun c hc => ha c (List.mem_reverse.mp hc)

/-- A line's end is blank. -/
theorem terminator_isSuffix_trailing (l : List Char) : terminator l <:+ trailing l := by
  unfold terminator
  split
  · rename_i h
    exact isSuffix_trailing h (List.all_eq_true.mp rfl)
  split
  · rename_i h
    exact isSuffix_trailing h (List.all_eq_true.mp rfl)
  · exact List.nil_suffix

end Text

namespace Manifest

open Text

variable {rule : PatchRule} {before ls ms : List (List Char)}

/-! ## One segment -/

/-- `after` starts with all the blanks that `before` starts with, and ends with all those that it
ends with. It may have more of them. -/
structure KeepsMargins (before after : List Char) : Prop where
  leading_isPrefix : leading before <+: after
  trailing_isSuffix : trailing before <:+ after

namespace KeepsMargins

theorem refl (l : List Char) : KeepsMargins l l where
  leading_isPrefix := List.takeWhile_prefix _
  trailing_isSuffix := ⟨trimEnd l, trimEnd_append_trailing l⟩

/-- A segment that was replaced before may have more blanks at its ends, and they stay as well. -/
theorem replaceLine {l m : List Char} (h : KeepsMargins l m) (replacement : List Char) :
    KeepsMargins l (replaceLine replacement m) where
  leading_isPrefix := by
    have hleading : leading l <+: leading m :=
      isPrefix_leading h.leading_isPrefix fun _ => isBlank_of_mem_leading
    rw [Manifest.replaceLine, List.append_assoc]
    exact hleading.trans (List.prefix_append _ _)
  trailing_isSuffix :=
    (isSuffix_trailing h.trailing_isSuffix fun _ => isBlank_of_mem_trailing).trans
      (List.suffix_append _ _)

end KeepsMargins

/-! ## One rule -/

/-- In how many places two lists differ. -/
def differing (ls ms : List (List Char)) : Nat := (ls.zip ms).countP fun p => p.1 ≠ p.2

theorem differing_self (ls : List (List Char)) : differing ls ls = 0 := by
  induction ls with
  | nil => rfl
  | cons l ls ih => simpa [differing] using ih

theorem differing_cons_cons (l m : List Char) :
    differing (l :: ls) (m :: ms) = differing ls ms + if l ≠ m then 1 else 0 := by
  simp [differing, List.countP_cons]

theorem keepsMargins_patchLines (h : List.Forall₂ KeepsMargins before ls)
    (hp : patchLines rule ls = some ms) : List.Forall₂ KeepsMargins before ms := by
  induction h generalizing ms with
  | nil => cases hp
  | @cons b l bs ls hl hls ih =>
    rw [patchLines] at hp
    split at hp
    · obtain rfl := Option.some.inj hp
      exact .cons (hl.replaceLine _) hls
    · obtain ⟨ms, hms, rfl⟩ := Option.map_eq_some_iff.mp hp
      exact .cons hl (ih hms)

/-- A rule replaces one segment at most. -/
theorem differing_patchLines (before : List (List Char)) (hp : patchLines rule ls = some ms) :
    differing before ms ≤ differing before ls + 1 := by
  induction ls generalizing before ms with
  | nil => cases hp
  | cons l ls ih =>
    rw [patchLines] at hp
    cases before with
    | nil => simp [differing]
    | cons b before =>
      split at hp
      · obtain rfl := Option.some.inj hp
        rw [differing_cons_cons, differing_cons_cons]
        split <;> omega
      · obtain ⟨ms, hms, rfl⟩ := Option.map_eq_some_iff.mp hp
        have := ih before hms
        rw [differing_cons_cons, differing_cons_cons]
        omega

/-- What the segments and the count are behind some rules: no segment lost a blank at its ends, and
only as many of them as were counted are new. -/
structure Keeps (before : List (List Char)) (state : List (List Char) × Nat) : Prop where
  margins : List.Forall₂ KeepsMargins before state.1
  differing_le : differing before state.1 ≤ state.2

theorem keeps_start (before : List (List Char)) : Keeps before (before, 0) where
  margins := List.forall₂_same.mpr fun l _ => .refl l
  differing_le := Nat.le_of_eq (differing_self before)

theorem applyRule_of_none {state : List (List Char) × Nat} (h : patchLines rule state.1 = none) :
    applyRule state rule = state := by
  rw [applyRule, h]

theorem applyRule_of_some {state : List (List Char) × Nat} (h : patchLines rule state.1 = some ms) :
    applyRule state rule = (ms, state.2 + 1) := by
  rw [applyRule, h]

theorem applyRule_keeps {state : List (List Char) × Nat} (h : Keeps before state)
    (rule : PatchRule) : Keeps before (applyRule state rule) := by
  cases hp : patchLines rule state.1 with
  | none => rwa [applyRule_of_none hp]
  | some ms =>
    rw [applyRule_of_some hp]
    refine ⟨keepsMargins_patchLines h.margins hp, ?_⟩
    exact Nat.le_trans (differing_patchLines before hp) (Nat.succ_le_succ h.differing_le)

/-! ## All rules -/

theorem foldl_applyRule_keeps {state : List (List Char) × Nat} (h : Keeps before state)
    (rules : List PatchRule) : Keeps before (rules.foldl applyRule state) := by
  induction rules generalizing state with
  | nil => exact h
  | cons rule rules ih => exact ih (applyRule_keeps h rule)

/-- Each rule counts once at most. -/
theorem foldl_applyRule_count (rules : List PatchRule) (state : List (List Char) × Nat) :
    state.2 ≤ (rules.foldl applyRule state).2 ∧
      (rules.foldl applyRule state).2 ≤ state.2 + rules.length := by
  induction rules generalizing state with
  | nil => simp
  | cons rule rules ih =>
    have hrest := ih (applyRule state rule)
    rw [List.foldl_cons, List.length_cons]
    cases hp : patchLines rule state.1 with
    | none =>
      rw [applyRule_of_none hp] at hrest ⊢
      omega
    | some ms =>
      rw [applyRule_of_some hp] at hrest ⊢
      simp only at hrest ⊢
      omega

/-- Nothing is counted exactly if no rule names a segment, and then nothing changes: as long as
nothing was counted, every rule sees the first segments. -/
theorem foldl_applyRule_count_eq_iff (rules : List PatchRule) (state : List (List Char) × Nat) :
    (rules.foldl applyRule state).2 = state.2 ↔
      ∀ rule ∈ rules, ∀ l ∈ state.1, names rule l = false := by
  induction rules generalizing state with
  | nil => simp
  | cons rule rules ih =>
    rw [List.foldl_cons, List.forall_mem_cons]
    cases hp : patchLines rule state.1 with
    | none =>
      rw [applyRule_of_none hp, ih]
      exact (and_iff_right (patchLines_eq_none_iff.mp hp)).symm
    | some ms =>
      have hrest := (foldl_applyRule_count rules (ms, state.2 + 1)).1
      have hnamed : ¬ ∀ l ∈ state.1, names rule l = false := by
        rw [← patchLines_eq_none_iff, hp]
        simp
      rw [applyRule_of_some hp]
      refine iff_of_false (fun h => ?_) fun h => hnamed h.1
      simp only at hrest
      omega

theorem foldl_applyRule_of_not_named {rules : List PatchRule} {state : List (List Char) × Nat}
    (h : ∀ rule ∈ rules, ∀ l ∈ state.1, names rule l = false) :
    rules.foldl applyRule state = state := by
  induction rules with
  | nil => rfl
  | cons rule rules ih =>
    rw [List.forall_mem_cons] at h
    rw [List.foldl_cons, applyRule_of_none (patchLines_eq_none_iff.mpr h.1)]
    exact ih h.2

theorem names_eq_false_iff {l : List Char} :
    names rule l = false ↔ trim l ≠ rule.line.toList := by
  rw [names, beq_eq_false_iff_ne]

/-- **The layout stays.** The patched text is made of the segments of the old one in their order,
each with the blanks at both ends that it had, and no more of them are new than were counted. A rule
counts once at most; none counts exactly if no segment has a rule's line as its text, and then
nothing changes. -/
theorem applyRules_keeps_layout (content : String) (rules : List PatchRule) :
    let before := segments content.toList
    let patched := applyRules content rules
    IsCut content.toList before ∧ (∀ l ∈ before, terminator l <:+ trailing l) ∧
    (∃ after, patched.1.toList = after.flatten ∧ List.Forall₂ KeepsMargins before after ∧
      differing before after ≤ patched.2) ∧
    patched.2 ≤ rules.length ∧
    (patched.2 = 0 ↔ ∀ rule ∈ rules, ∀ l ∈ before, trim l ≠ rule.line.toList) ∧
    (patched.2 = 0 → patched.1 = content) := by
  intro before patched
  have hkeeps := foldl_applyRule_keeps (keeps_start before) rules
  have hcount : patched.2 ≤ 0 + rules.length := (foldl_applyRule_count rules (before, 0)).2
  have hnone := foldl_applyRule_count_eq_iff rules (before, 0)
  refine ⟨isCut_segments _, fun l _ => terminator_isSuffix_trailing l, ⟨_, String.toList_ofList,
    hkeeps.margins, hkeeps.differing_le⟩, by rwa [Nat.zero_add] at hcount, ?_, fun h => ?_⟩
  · simp only [names_eq_false_iff] at hnone
    exact hnone
  · apply String.toList_injective
    show (String.ofList (rules.foldl applyRule (before, 0)).1.flatten).toList = _
    rw [foldl_applyRule_of_not_named (hnone.mp h), String.toList_ofList]
    exact flatten_segments _

/-- Two rules hit the first line one after the other, and one a line of blanks. -/
theorem layout_of_small_manifest :
    let rules : List PatchRule := [⟨"<a>", " <c>"⟩, ⟨"<c>", "<d>"⟩, ⟨"", "<e>"⟩, ⟨"<f>", "<g>"⟩]
    applyRules "\t<a>\r\n \n<b>" rules = ("\t <d>\r\n \n<e> \n<b>", 3) ∧
    ∃ after, "\t <d>\r\n \n<e> \n<b>".toList = after.flatten ∧
      List.Forall₂ KeepsMargins ["\t<a>\r\n".toList, " \n".toList, "<b>".toList] after ∧
      differing ["\t<a>\r\n".toList, " \n".toList, "<b>".toList] after ≤ 3 := by
  intro rules
  have hpatched : applyRules "\t<a>\r\n \n<b>" rules = ("\t <d>\r\n \n<e> \n<b>", 3) := by
    decide +kernel
  have hsegments : segments "\t<a>\r\n \n<b>".toList =
      ["\t<a>\r\n".toList, " \n".toList, "<b>".toList] := by
    decide +kernel
  obtain ⟨-, -, hlayout, -⟩ := applyRules_keeps_layout "\t<a>\r\n \n<b>" rules
  rw [hpatched, hsegments] at hlayout
  exact ⟨hpatched, hlayout⟩

end Manifest

end BenchCheckout
