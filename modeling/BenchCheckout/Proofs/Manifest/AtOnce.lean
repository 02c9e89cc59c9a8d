import BenchCheckout.Proofs.Manifest.Rewriting
import Mathlib.Data.List.Find
import Mathlib.Data.List.Nodup

/-!
# Rules that act at once

The rules of a list run one after the other, each on what the ones before it left. Where no two of
them have one line and none writes what another looks for, this comes to one step: every line that
is the first one of a rule is rewritten by it, and the others stay.

* `rewriteAtOnce`: that one step.
* `foldl_applyRule_eq_rewriteAtOnce`: the rules one after the other make this step.
* `rewriteAtOnce_perm`: the order of the rules makes no difference to it.
* `applyRules_at_once`: all of it for a text.
-/

namespace BenchCheckout.Manifest

open Text

variable {rule : PatchRule} {rules : List PatchRule} {ls before after : List (List Char)}
  {l : List Char} {k : Nat}

/-- The line `k` is the first one that the rule names. -/
def isFirst (ls : List (List Char)) (k : Nat) (rule : PatchRule) : Bool :=
  ls.findIdx? (names rule) == some k

/-- Every line that is the first one of a rule rewritten by that rule, and every other one kept. All
rules look at the same lines. -/
def rewriteAtOnce (rules : List PatchRule) (ls : List (List Char)) : List (List Char) :=
  ls.mapIdx fun k l =>
    (rules.find? (isFirst ls k)).elim l fun rule => replaceLine rule.replacement.toList l

/-- No two rules have one line, and none writes the line of another. -/
structure Independent (rules : List PatchRule) : Prop where
  nodup : (rules.map (·.line)).Nodup
  replacement_ne : ∀ a ∈ rules, ∀ b ∈ rules, a ≠ b → trim a.replacement.toList ≠ b.line.toList

namespace Independent

theorem perm {rules' : List PatchRule} (h : Independent rules) (hperm : rules'.Perm rules) :
    Independent rules' where
  nodup := ((hperm.map _).nodup_iff).mpr h.nodup
  replacement_ne a ha b hb :=
    h.replacement_ne a (hperm.mem_iff.mp ha) b (hperm.mem_iff.mp hb)

theorem tail (h : Independent (rule :: rules)) : Independent rules where
  nodup := (List.nodup_cons.mp h.nodup).2
  replacement_ne a ha b hb :=
    h.replacement_ne a (List.mem_cons_of_mem rule ha) b (List.mem_cons_of_mem rule hb)

/-- The line that the first of independent rules names is none of the other rules' lines, neither
before it is rewritten nor after. -/
theorem names_eq_false {other : PatchRule} (h : Independent (rule :: rules))
    (hother : other ∈ rules) (hl : names rule l = true) :
    names other l = false ∧ names other (replaceLine rule.replacement.toList l) = false := by
  have hline : rule.line ≠ other.line := by
    intro heq
    exact (List.nodup_cons.mp h.nodup).1 (List.mem_map.mpr ⟨other, hother, heq.symm⟩)
  have hne : rule ≠ other := fun heq => hline (congrArg _ heq)
  constructor
  · rw [names_eq_false_iff, names_eq_true_iff.mp hl]
    exact fun heq => hline (String.toList_injective heq)
  · rw [names_eq_false_iff, trim_replaceLine]
    exact h.replacement_ne rule List.mem_cons_self other (List.mem_cons_of_mem rule hother) hne

end Independent

/-! ## First lines -/

theorem isFirst_iff : isFirst ls k rule = true ↔ ls.findIdx? (names rule) = some k := by
  rw [isFirst, beq_iff_eq]

theorem names_of_isFirst (h : isFirst ls k rule = true) (hl : ls[k]? = some l) :
    names rule l = true := by
  obtain ⟨hk, hnames, -⟩ := List.findIdx?_eq_some_iff_getElem.mp (isFirst_iff.mp h)
  rwa [← Option.some.inj ((List.getElem?_eq_getElem hk).symm.trans hl)]

theorem getElem?_of_isFirst (h : isFirst ls k rule = true) : ∃ l, ls[k]? = some l := by
  obtain ⟨hk, -⟩ := List.findIdx?_eq_some_iff_getElem.mp (isFirst_iff.mp h)
  exact ⟨ls[k], List.getElem?_eq_getElem hk⟩

/-- A line is the first one of one rule at most. -/
theorem Independent.subsingleton_isFirst (h : Independent rules) (ls : List (List Char)) (k : Nat) :
    {rule ∈ rules | isFirst ls k rule = true}.Subsingleton := by
  rintro a ⟨ha, hfirsta⟩ b ⟨hb, hfirstb⟩
  obtain ⟨l, hl⟩ := getElem?_of_isFirst hfirsta
  refine List.inj_on_of_nodup_map h.nodup ha hb (String.toList_injective ?_)
  rw [← names_eq_true_iff.mp (names_of_isFirst hfirsta hl),
    ← names_eq_true_iff.mp (names_of_isFirst hfirstb hl)]

theorem find?_isFirst_eq_some (h : Independent rules) (hrule : rule ∈ rules)
    (hfirst : isFirst ls k rule = true) : rules.find? (isFirst ls k) = some rule := by
  cases hf : rules.find? (isFirst ls k) with
  | none => exact absurd hfirst (List.find?_eq_none.mp hf rule hrule)
  | some found =>
    rw [h.subsingleton_isFirst ls k ⟨List.mem_of_find?_eq_some hf, List.find?_some hf⟩
      ⟨hrule, hfirst⟩]

/-! ## The one step -/

theorem getElem?_rewriteAtOnce (rules : List PatchRule) (ls : List (List Char)) (k : Nat) :
    (rewriteAtOnce rules ls)[k]? = ls[k]?.map fun l =>
      (rules.find? (isFirst ls k)).elim l fun rule => replaceLine rule.replacement.toList l := by
  rw [rewriteAtOnce, List.getElem?_mapIdx]

/-- Independent rules may stand in any order. -/
theorem rewriteAtOnce_perm {rules' : List PatchRule} (h : Independent rules)
    (hperm : rules'.Perm rules) : rewriteAtOnce rules' ls = rewriteAtOnce rules ls := by
  apply List.ext_getElem?
  intro k
  rw [getElem?_rewriteAtOnce, getElem?_rewriteAtOnce,
    List.find?_eq_find?_of_perm hperm ((h.perm hperm).subsingleton_isFirst ls k)]

/-! ## One rule after the other -/

theorem rewriteAtOnce_nil (ls : List (List Char)) : rewriteAtOnce [] ls = ls := by
  apply List.ext_getElem?
  intro k
  rw [getElem?_rewriteAtOnce]
  simp

theorem rewriteAtOnce_cons_of_not_named (hnone : ∀ l ∈ ls, names rule l = false) :
    rewriteAtOnce (rule :: rules) ls = rewriteAtOnce rules ls := by
  have hfirst (k : Nat) : isFirst ls k rule = false := by
    rw [isFirst, List.findIdx?_eq_none_iff.mpr hnone]
    rfl
  simp only [rewriteAtOnce, List.find?_cons, hfirst]

/-- The line that the first rule names is rewritten before the other rules look, and they do not
see the difference. -/
theorem rewriteAtOnce_cons_of_named (h : Independent (rule :: rules))
    (hbefore : ∀ m ∈ before, names rule m = false) (hl : names rule l = true) :
    rewriteAtOnce (rule :: rules) (before ++ l :: after) =
      rewriteAtOnce rules (before ++ replaceLine rule.replacement.toList l :: after) := by
  have hindex : (before ++ l :: after).findIdx? (names rule) = some before.length := by
    rw [List.findIdx?_append, List.findIdx?_eq_none_iff.mpr hbefore, List.findIdx?_cons, if_pos hl]
    simp
  have hsame (k : Nat) : rules.find? (isFirst (before ++ l :: after) k) =
      rules.find? (isFirst (before ++ replaceLine rule.replacement.toList l :: after) k) := by
    refine List.find?_congr fun other hother => ?_
    obtain ⟨hold, hnew⟩ := h.names_eq_false hother hl
    simp only [isFirst, List.findIdx?_append, List.findIdx?_cons, hold, hnew]
  apply List.ext_getElem?
  intro k
  rw [getElem?_rewriteAtOnce, getElem?_rewriteAtOnce, List.find?_cons, ← hsame, isFirst, hindex]
  by_cases hk : before.length = k
  · -- No other rule names the line that was rewritten, so it stays as it is.
    have hnone : rules.find? (isFirst (before ++ l :: after) k) = none := by
      refine List.find?_eq_none.mpr fun other hother hfirst => ?_
      have hnames := names_of_isFirst hfirst (l := l) (by simp [← hk])
      exact absurd hnames (by simp [(h.names_eq_false hother hl).1])
    rw [hnone]
    subst hk
    simp
  · have hne : (some before.length == some k) = false := by simpa using hk
    have hset : before ++ replaceLine rule.replacement.toList l :: after =
        (before ++ l :: after).set before.length (replaceLine rule.replacement.toList l) := by
      simp
    rw [hne, hset, List.getElem?_set_ne hk]

/-- Independent rules one after the other make the one step, and each one that names a line counts.
The induction follows the rules: what the first one leaves is rewritten at once by the others. -/
theorem foldl_applyRule_eq_rewriteAtOnce (h : Independent rules) (ls : List (List Char)) :
    rules.foldl applyRule (ls, 0) =
      (rewriteAtOnce rules ls, rules.countP fun rule => ls.any (names rule)) := by
  induction rules generalizing ls with
  | nil => rw [rewriteAtOnce_nil, List.foldl_nil, List.countP_nil]
  | cons rule rules ih =>
    rw [List.foldl_cons, List.countP_cons]
    obtain ⟨hnone, hstep⟩ | ⟨before, l, after, hls, hbefore, hl, hstep⟩ :=
      applyRule_cases (ls, 0) rule
    · have hany : ls.any (names rule) = false := by simpa using hnone
      rw [hstep, ih h.tail, rewriteAtOnce_cons_of_not_named hnone, hany]
      rfl
    · obtain rfl : ls = before ++ l :: after := hls
      have hany : (before ++ l :: after).any (names rule) = true := by simp [hl]
      have hcount : (rules.countP fun other =>
          (before ++ replaceLine rule.replacement.toList l :: after).any (names other)) =
            rules.countP fun other => (before ++ l :: after).any (names other) := by
        refine List.countP_congr fun other hother => ?_
        obtain ⟨hold, hnew⟩ := h.names_eq_false hother hl
        simp [hold, hnew]
      rw [hstep, foldl_applyRule_start, ih h.tail, rewriteAtOnce_cons_of_named h hbefore hl, hany,
        hcount, if_pos rfl, Nat.zero_add, Nat.add_comm]

/-! ## Main statement -/

/-- **The rules act at once.** For independent rules the patched text is the old one with every line
that is the first one of a rule rewritten by that rule, and every other one kept. As many lines are
counted as there are rules that name one, and the order of the rules makes no difference. -/
theorem applyRules_at_once (content : String) (rules : List PatchRule) (h : Independent rules) :
    let before := segments content.toList
    let after := rewriteAtOnce rules before
    applyRules content rules =
      (String.ofList after.flatten, rules.countP fun rule => before.any (names rule)) ∧
    after.length = before.length ∧
    (∀ k, ∀ rule ∈ rules, before.findIdx? (names rule) = some k →
      after[k]? = before[k]?.map (replaceLine rule.replacement.toList)) ∧
    (∀ k, (∀ rule ∈ rules, before.findIdx? (names rule) ≠ some k) → after[k]? = before[k]?) ∧
    ∀ rules' : List PatchRule, rules'.Perm rules →
      applyRules content rules' = applyRules content rules := by
  intro before after
  have hat (rules' : List PatchRule) (h' : Independent rules') : applyRules content rules' =
      (String.ofList (rewriteAtOnce rules' before).flatten,
        rules'.countP fun rule => before.any (names rule)) := by
    rw [applyRules, foldl_applyRule_eq_rewriteAtOnce h']
  refine ⟨hat rules h, List.length_mapIdx, fun k rule hrule hfirst => ?_, fun k hnone => ?_,
    fun rules' hperm => ?_⟩
  · rw [getElem?_rewriteAtOnce, find?_isFirst_eq_some h hrule (isFirst_iff.mpr hfirst)]
    rfl
  · have hfind : rules.find? (isFirst before k) = none :=
      List.find?_eq_none.mpr fun rule hrule hfirst => hnone rule hrule (isFirst_iff.mp hfirst)
    rw [getElem?_rewriteAtOnce, hfind]
    simp
  · rw [hat rules' (h.perm hperm), hat rules h, rewriteAtOnce_perm h hperm, hperm.countP_eq]

/-- A rule without a text, one that writes two lines and one that names no line, in two orders. -/
theorem small_manifest_at_once :
    let rules : List PatchRule := [⟨"<a>", " <c>\n<d>"⟩, ⟨"", "<b>"⟩, ⟨"<f>", "<f>"⟩]
    let before := segments "<a>\n \n<a>".toList
    Independent rules ∧
    rewriteAtOnce rules before = [" <c>\n<d>\n".toList, " \n<b> \n".toList, "<a>".toList] ∧
    applyRules "<a>\n \n<a>" rules = (" <c>\n<d>\n \n<b> \n<a>", 2) ∧
    applyRules "<a>\n \n<a>" rules.reverse = (" <c>\n<d>\n \n<b> \n<a>", 2) := by
  intro rules before
  have hindependent : Independent rules := ⟨by decide +kernel, by decide +kernel⟩
  obtain ⟨hstep, -, -, -, horder⟩ := applyRules_at_once "<a>\n \n<a>" rules hindependent
  have hpatched : applyRules "<a>\n \n<a>" rules = (" <c>\n<d>\n \n<b> \n<a>", 2) :=
    hstep.trans (by decide +kernel)
  refine ⟨hindependent, by decide +kernel, hpatched, ?_⟩
  rw [horder rules.reverse rules.reverse_perm, hpatched]

end BenchCheckout.Manifest
