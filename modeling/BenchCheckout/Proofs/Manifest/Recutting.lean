import BenchCheckout.Proofs.Manifest.Rewriting

/-!
# A patched text, cut into lines again

Rules that run one after the other see the lines that the ones before them left; rules that run on a
patched text see that text cut again. The two can differ in an empty line at the end, which the cut
leaves out, as long as no rule without a text meets a line of blanks and nothing that is written
has a line feed.

* `Lined.eq_segments_append`: what cutting lines in a row again leaves out.
* `sameFeed_replaceLine`: a rewritten line keeps its line feed where it was.
* `forall₂_foldl_applyRule`: what holds of every rewritten line holds behind all rules.
* `applyRules_append`: two lists of rules in one run, or one behind the other.
-/

namespace BenchCheckout

namespace Text

variable {s l : List Char} {ls before after : List (List Char)}

/-! ## Lines in a row -/

/-- Lines in a row: each has a line feed at its end and nowhere else, but the last one has none. -/
inductive Lined : List (List Char) → Prop where
  | nil : Lined []
  | last {s : List Char} (h : '\n' ∉ s) : Lined [s]
  | fed {s : List Char} {ls : List (List Char)} (h : '\n' ∉ s) (rest : Lined ls) :
      Lined ((s ++ ['\n']) :: ls)

theorem lined_cons_iff :
    Lined (l :: ls) ↔ '\n' ∉ l ∧ ls = [] ∨ ∃ s, '\n' ∉ s ∧ l = s ++ ['\n'] ∧ Lined ls := by
  constructor
  · intro h
    cases h with
    | last h => exact .inl ⟨h, rfl⟩
    | fed h rest => exact .inr ⟨_, h, rfl, rest⟩
  · rintro (⟨h, rfl⟩ | ⟨s, h, rfl, rest⟩)
    · exact .last h
    · exact .fed h rest

theorem lined_segments (s : List Char) : Lined (segments s) := by
  induction s with
  | nil => exact .nil
  | cons c s ih =>
    rw [segments]
    split
    · rename_i hc
      exact hc ▸ .fed (s := []) (by simp) ih
    · rename_i hc
      have hc : '\n' ≠ c := Ne.symm hc
      split
      · exact .last (by simpa using hc)
      · rename_i l ls heq
        rw [heq, lined_cons_iff] at ih
        obtain ⟨hl, rfl⟩ | ⟨t, ht, rfl, rest⟩ := ih
        · exact .last (List.not_mem_cons_of_ne_of_not_mem hc hl)
        · exact .fed (s := c :: t) (List.not_mem_cons_of_ne_of_not_mem hc ht) rest

/-- The two lines both have a line feed at their end, or both have none. Neither has one elsewhere.
-/
inductive SameFeed : List Char → List Char → Prop where
  | last {s t : List Char} (hs : '\n' ∉ s) (ht : '\n' ∉ t) : SameFeed s t
  | fed {s t : List Char} (hs : '\n' ∉ s) (ht : '\n' ∉ t) :
      SameFeed (s ++ ['\n']) (t ++ ['\n'])

theorem Lined.forall₂_self (h : Lined ls) : List.Forall₂ SameFeed ls ls := by
  induction h with
  | nil => exact .nil
  | last h => exact .cons (.last h h) .nil
  | fed h _ ih => exact .cons (.fed h h) ih

/-- Lines with their line feeds where lines in a row have them are in a row as well. -/
theorem Lined.of_sameFeed (h : Lined before) (hsame : List.Forall₂ SameFeed before after) :
    Lined after := by
  induction h generalizing after with
  | nil =>
    cases hsame
    exact .nil
  | @last s h =>
    obtain ⟨m, _, hm, hnil, rfl⟩ := List.forall₂_cons_left_iff.mp hsame
    cases hnil
    cases hm with
    | last _ ht => exact .last ht
    | fed => simp at h
  | @fed s ls h _ ih =>
    obtain ⟨m, ms, hm, hms, rfl⟩ := List.forall₂_cons_left_iff.mp hsame
    generalize hb : s ++ ['\n'] = b at hm
    cases hm with
    | last hs => exact absurd (hb ▸ by simp) hs
    | fed _ ht => exact .fed ht (ih hms)

/-! ## Cutting again -/

theorem segments_append_feed (h : '\n' ∉ s) (r : List Char) :
    segments (s ++ '\n' :: r) = (s ++ ['\n']) :: segments r := by
  induction s with
  | nil => rw [List.nil_append, segments, if_pos rfl, List.nil_append]
  | cons c s ih =>
    rw [List.cons_append, segments, if_neg (List.ne_of_not_mem_cons h).symm,
      ih (List.not_mem_of_not_mem_cons h)]
    rfl

theorem segments_of_not_mem (h : '\n' ∉ s) (hne : s ≠ []) : segments s = [s] := by
  induction s with
  | nil => exact absurd rfl hne
  | cons c s ih =>
    rw [segments, if_neg (List.ne_of_not_mem_cons h).symm]
    cases s with
    | nil => rfl
    | cons d s => rw [ih (List.not_mem_of_not_mem_cons h) (List.cons_ne_nil d s)]

/-- Cut again, lines in a row are the same but for an empty one at the end. -/
theorem Lined.eq_segments_append (h : Lined ls) :
    ∃ n, ls = segments ls.flatten ++ List.replicate n [] := by
  induction h with
  | nil => exact ⟨0, rfl⟩
  | @last s h =>
    rw [List.flatten_singleton]
    by_cases hne : s = []
    · exact ⟨1, by rw [hne]; rfl⟩
    · exact ⟨0, by rw [segments_of_not_mem h hne]; rfl⟩
  | @fed s ls h rest ih =>
    obtain ⟨n, hn⟩ := ih
    refine ⟨n, ?_⟩
    rw [List.flatten_cons, List.append_assoc, List.singleton_append, segments_append_feed h,
      List.cons_append, ← hn]

end Text

namespace Manifest

open Text

variable {rule : PatchRule} {rules : List PatchRule} {s l replacement : List Char}
  {ls before after : List (List Char)}

/-! ## A rewritten line -/

theorem trim_append_feed (s : List Char) : trim (s ++ ['\n']) = trim s :=
  trim_append_right (List.all_eq_true.mp rfl)

theorem trim_ne_nil_of_append_feed (h : trim (s ++ ['\n']) ≠ [] ∨ '\n' ∉ s ++ ['\n']) :
    trim s ≠ [] := by
  rw [← trim_append_feed]
  exact h.resolve_right (by simp)

/-- A line with a text keeps its line feed where it was. -/
theorem replaceLine_append_feed (h : trim s ≠ []) :
    replaceLine replacement (s ++ ['\n']) = replaceLine replacement s ++ ['\n'] := by
  have htrailing : trailing (s ++ ['\n']) = trailing s ++ ['\n'] := by
    rw [trailing, List.reverse_append, List.reverse_singleton, List.singleton_append,
      List.takeWhile_cons_of_pos rfl, List.reverse_cons, trailing]
  rw [replaceLine, replaceLine, leading_append h, htrailing, List.append_assoc _ (trailing s)]

theorem not_mem_replaceLine {c : Char} (hs : c ∉ s) (hr : c ∉ replacement) :
    c ∉ replaceLine replacement s := by
  simp only [replaceLine, List.mem_append, not_or]
  exact ⟨⟨fun h => hs ((List.takeWhile_sublist _).mem h), hr⟩,
    fun h => hs ((trimEnd_append_trailing s ▸ List.mem_append_right (trimEnd s) h))⟩

/-- A line with a text, or without a line feed, keeps its line feed if nothing that is written has
one. -/
theorem sameFeed_replaceLine {b : List Char} (h : SameFeed b l) (hr : '\n' ∉ replacement)
    (hl : trim l ≠ [] ∨ '\n' ∉ l) : SameFeed b (replaceLine replacement l) := by
  cases h with
  | last hs ht => exact .last hs (not_mem_replaceLine ht hr)
  | fed hs ht =>
    rw [replaceLine_append_feed (trim_ne_nil_of_append_feed hl)]
    exact .fed hs (not_mem_replaceLine ht hr)

/-! ## Rules without a text -/

/-- A rule without a text comes to a line of blanks with a line feed, which it would have twice
then: the blanks stand before and after what is written. -/
def DoublesFeed : List PatchRule → List (List Char) → Prop
  | [], _ => False
  | rule :: rules, ls =>
    (rule.line = "" ∧ ∃ l ∈ ls.find? (names rule), '\n' ∈ l) ∨
      DoublesFeed rules (applyRule (ls, 0) rule).1

instance decidableDoublesFeed :
    (rules : List PatchRule) → (ls : List (List Char)) → Decidable (DoublesFeed rules ls)
  | [], _ => inferInstanceAs (Decidable False)
  | rule :: rules, ls =>
    have := decidableDoublesFeed rules (applyRule (ls, 0) rule).1
    inferInstanceAs (Decidable ((rule.line = "" ∧ ∃ l ∈ ls.find? (names rule), '\n' ∈ l) ∨
      DoublesFeed rules (applyRule (ls, 0) rule).1))

theorem not_doublesFeed (h : ∀ rule ∈ rules, rule.line ≠ "") (ls : List (List Char)) :
    ¬ DoublesFeed rules ls := by
  induction rules generalizing ls with
  | nil => exact id
  | cons rule rules ih =>
    rw [List.forall_mem_cons] at h
    exact not_or.mpr ⟨fun hempty => h.1 hempty.1, ih h.2 _⟩

/-- The line that a rule rewrites has a text, or no line feed that it could have twice. -/
theorem trim_ne_nil_or_of_names (hl : names rule l = true)
    (hbefore : ∀ m ∈ before, names rule m = false)
    (hd : ¬ (rule.line = "" ∧ ∃ l' ∈ (before ++ l :: after).find? (names rule), '\n' ∈ l')) :
    trim l ≠ [] ∨ '\n' ∉ l := by
  by_contra hboth
  rw [not_or, not_not, not_not] at hboth
  have hline : rule.line = "" := by
    rw [← String.toList_eq_nil_iff, ← names_eq_true_iff.mp hl, hboth.1]
  refine hd ⟨hline, l, List.find?_eq_some_iff_append.mpr ⟨hl, before, after, rfl, ?_⟩, hboth.2⟩
  simpa using hbefore

theorem forall₂_append_cons {R : List Char → List Char → Prop} {m : List Char}
    (h : List.Forall₂ R ls (before ++ l :: after)) (hm : ∀ b, R b l → R b m) :
    List.Forall₂ R ls (before ++ m :: after) := by
  induction before generalizing ls with
  | nil =>
    obtain ⟨b, bs, hb, hbs, rfl⟩ := List.forall₂_cons_right_iff.mp h
    exact .cons (hm b hb) hbs
  | cons k before ih =>
    obtain ⟨b, bs, hb, hbs, rfl⟩ := List.forall₂_cons_right_iff.mp h
    exact .cons hb (ih hbs)

/-- What holds of a line in the place of another, and goes on to hold when it is rewritten, holds
behind a rule. -/
theorem forall₂_applyRule {R : List Char → List Char → Prop} (h : List.Forall₂ R before ls)
    (hd : ¬ (rule.line = "" ∧ ∃ l ∈ ls.find? (names rule), '\n' ∈ l))
    (hR : ∀ b l, R b l → (trim l ≠ [] ∨ '\n' ∉ l) → R b (replaceLine rule.replacement.toList l)) :
    List.Forall₂ R before (applyRule (ls, 0) rule).1 := by
  obtain ⟨-, hstep⟩ | ⟨front, l, after, hls, hfront, hl, hstep⟩ := applyRule_cases (ls, 0) rule
  · rwa [hstep]
  · obtain rfl : ls = front ++ l :: after := hls
    rw [hstep]
    exact forall₂_append_cons h fun b hb => hR b l hb (trim_ne_nil_or_of_names hl hfront hd)

/-- The same for a list of rules. -/
theorem forall₂_foldl_applyRule {R : List Char → List Char → Prop}
    (h : List.Forall₂ R before ls) (hd : ¬ DoublesFeed rules ls)
    (hR : ∀ rule ∈ rules, ∀ b l, R b l → (trim l ≠ [] ∨ '\n' ∉ l) →
      R b (replaceLine rule.replacement.toList l)) :
    List.Forall₂ R before (rules.foldl applyRule (ls, 0)).1 := by
  induction rules generalizing ls with
  | nil => exact h
  | cons rule rules ih =>
    rw [List.forall_mem_cons] at hR
    obtain ⟨hrule, hrules⟩ := not_or.mp hd
    rw [List.foldl_cons, fst_foldl_applyRule]
    exact ih (forall₂_applyRule h hrule hR.1) hrules hR.2

/-- All lines keep their line feeds. -/
theorem sameFeed_foldl_applyRule (h : Lined ls)
    (hfeed : ∀ rule ∈ rules, '\n' ∉ rule.replacement.toList) (hd : ¬ DoublesFeed rules ls) :
    List.Forall₂ SameFeed ls (rules.foldl applyRule (ls, 0)).1 :=
  forall₂_foldl_applyRule h.forall₂_self hd fun rule hrule _ _ hl htext =>
    sameFeed_replaceLine hl (hfeed rule hrule) htext

/-! ## Two lists of rules -/

theorem patchLines_append (tail : List (List Char)) (h : ∀ m ∈ tail, names rule m = false) :
    patchLines rule (ls ++ tail) = (patchLines rule ls).map (· ++ tail) := by
  induction ls with
  | nil => rw [List.nil_append, patchLines_eq_none_iff.mpr h]; rfl
  | cons l ls ih =>
    rw [List.cons_append, patchLines, patchLines, ih]
    split
    · rfl
    · simp [Function.comp_def]

/-- Lines at the end that no rule names are not in the way. -/
theorem foldl_applyRule_append (tail : List (List Char))
    (h : ∀ rule ∈ rules, ∀ m ∈ tail, names rule m = false) (ls : List (List Char)) (n : Nat) :
    rules.foldl applyRule (ls ++ tail, n) =
      ((rules.foldl applyRule (ls, n)).1 ++ tail, (rules.foldl applyRule (ls, n)).2) := by
  induction rules generalizing ls n with
  | nil => rfl
  | cons rule rules ih =>
    rw [List.forall_mem_cons] at h
    have happend : patchLines rule (ls ++ tail) = (patchLines rule ls).map (· ++ tail) :=
      patchLines_append tail h.1
    rw [List.foldl_cons, List.foldl_cons]
    cases hp : patchLines rule ls with
    | none =>
      rw [hp] at happend
      rw [applyRule_of_none happend, applyRule_of_none hp]
      exact ih h.2 ls n
    | some ms =>
      rw [hp] at happend
      rw [applyRule_of_some happend, applyRule_of_some hp]
      exact ih h.2 ms (n + 1)

/-- What the rules leave is the patched text cut again, and perhaps an empty line at the end. -/
theorem exists_segments_applyRules (content : String)
    (hfeed : ∀ rule ∈ rules, '\n' ∉ rule.replacement.toList)
    (hd : ¬ DoublesFeed rules (segments content.toList)) :
    ∃ n, (rules.foldl applyRule (segments content.toList, 0)).1 =
      segments (applyRules content rules).1.toList ++ List.replicate n [] := by
  rw [applyRules, String.toList_ofList]
  have hlined := lined_segments content.toList
  exact (hlined.of_sameFeed (sameFeed_foldl_applyRule hlined hfeed hd)).eq_segments_append

/-- An empty line at the end is not seen by rules that have a text. -/
theorem names_eq_false_of_mem_replicate (h : rule.line ≠ "") {n : Nat} {m : List Char}
    (hm : m ∈ List.replicate n []) : names rule m = false := by
  rw [names_eq_false_iff, List.eq_of_mem_replicate hm]
  exact fun heq => h (String.toList_eq_nil_iff.mp heq.symm)

/-- **Two lists of rules, in one run or one behind the other.** If every rule has a text and the
rules of the first list write no line feed, then both lists in one run make the text that the second
list makes of what the first one leaves, and the counts add up. -/
theorem applyRules_append (content : String) (first second : List PatchRule)
    (hlines : ∀ rule ∈ first ++ second, rule.line ≠ "")
    (hfeed : ∀ rule ∈ first, '\n' ∉ rule.replacement.toList) :
    applyRules content (first ++ second) =
      ((applyRules (applyRules content first).1 second).1,
        (applyRules content first).2 + (applyRules (applyRules content first).1 second).2) := by
  rw [List.forall_mem_append] at hlines
  obtain ⟨n, hn⟩ := exists_segments_applyRules content hfeed (not_doublesFeed hlines.1 _)
  have htail (rule : PatchRule) (hrule : rule ∈ second) (m : List Char)
      (hm : m ∈ List.replicate n []) : names rule m = false :=
    names_eq_false_of_mem_replicate (hlines.2 rule hrule) hm
  have hrun : (first ++ second).foldl applyRule (segments content.toList, 0) =
      ((second.foldl applyRule (segments (applyRules content first).1.toList, 0)).1 ++
          List.replicate n [],
        (applyRules content first).2 +
          (second.foldl applyRule (segments (applyRules content first).1.toList, 0)).2) := by
    rw [List.foldl_append, foldl_applyRule_start second _ _, hn, foldl_applyRule_append _ htail]
    rfl
  rw [applyRules, hrun, List.flatten_append, List.flatten_replicate_nil, List.append_nil]
  rfl

/-- The first list empties the last line. -/
theorem small_manifest_in_two_runs :
    let first : List PatchRule := [⟨"<b>", ""⟩, ⟨"<a>", " <c>"⟩]
    let second : List PatchRule := [⟨"<c>", "<d>\n<e>"⟩]
    (∀ rule ∈ first ++ second, rule.line ≠ "") ∧
    (∀ rule ∈ first, '\n' ∉ rule.replacement.toList) ∧
    applyRules "<a>\r\n<b>" first = (" <c>\r\n", 2) ∧
    applyRules "<a>\r\n<b>" (first ++ second) = (" <d>\n<e>\r\n", 3) := by
  intro first second
  have hlines : ∀ rule ∈ first ++ second, rule.line ≠ "" := by decide +kernel
  have hfeed : ∀ rule ∈ first, '\n' ∉ rule.replacement.toList := by decide +kernel
  have hfirst : applyRules "<a>\r\n<b>" first = (" <c>\r\n", 2) := by decide +kernel
  have hsecond : applyRules " <c>\r\n" second = (" <d>\n<e>\r\n", 1) := by decide +kernel
  refine ⟨hlines, hfeed, hfirst, ?_⟩
  rw [applyRules_append "<a>\r\n<b>" first second hlines hfeed, hfirst, hsecond]
  rfl

end Manifest

end BenchCheckout
