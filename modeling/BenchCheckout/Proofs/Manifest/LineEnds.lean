import BenchCheckout.Proofs.Manifest.Recutting
import Mathlib.Data.List.GetD

/-!
# The ends of the lines

Rules that write no line feed leave as many lines as there were, unless a rule without a text comes
to a line of blanks with a line feed, which stands twice then. Where that does not happen, every
line ends as it did, but for a carriage return that comes to stand right before a line feed.

* `terminatorAt`: what a line of a text ends with.
* `count_feed_foldl_applyRule`: the line feeds behind all rules.
* `KeepsEnd.replaceLine`: a rewritten line ends as before.
* `line_ends_kept`: all of it for a text.
* `blank_line_doubled`: the exception.
-/

namespace BenchCheckout

namespace Text

variable {s a b l : List Char} {c : Char}

/-! ## Ends -/

theorem singleton_isSuffix_iff : [c] <:+ l ↔ l.getLast? = some c := by
  rw [List.getLast?_eq_some_iff]
  exact exists_congr fun t => eq_comm

theorem singleton_isSuffix_append_iff :
    [c] <:+ a ++ b ↔ [c] <:+ b ∨ b = [] ∧ [c] <:+ a := by
  rw [singleton_isSuffix_iff, singleton_isSuffix_iff, singleton_isSuffix_iff, List.getLast?_append,
    Option.or_eq_some_iff, List.getLast?_eq_none_iff]

/-- A blank at the end of a line is among those that the line ends with. -/
theorem singleton_isSuffix_trailing_iff (hc : isBlank c = true) :
    [c] <:+ trailing s ↔ [c] <:+ s :=
  ⟨fun h => h.trans ⟨trimEnd s, trimEnd_append_trailing s⟩,
    fun h => isSuffix_trailing h (by simpa using hc)⟩

theorem terminator_of_not_mem (h : '\n' ∉ s) : terminator s = [] := by
  have hcrlf : ¬ ['\r', '\n'] <:+ s := fun hs => h (hs.subset (by simp))
  have hlf : ¬ ['\n'] <:+ s := fun hs => h (hs.subset (by simp))
  rw [terminator, if_neg hcrlf, if_neg hlf]

theorem terminator_append_feed (s : List Char) :
    terminator (s ++ ['\n']) = if ['\r'] <:+ s then ['\r', '\n'] else ['\n'] := by
  have hcrlf : ['\r'] ++ ['\n'] <:+ s ++ ['\n'] ↔ ['\r'] <:+ s := List.suffix_append_self_iff
  rw [terminator, if_pos (List.suffix_append s ['\n'])]
  exact if_congr hcrlf rfl rfl

/-- What the line `k` of a text ends with. A line that is not there ends with nothing. -/
def terminatorAt (s : List Char) (k : Nat) : List Char := terminator ((segments s).getD k [])

/-! ## Texts of lines -/

/-- The blanks before the text of a line. A line of blanks has no text, and none before it. -/
def indentation (l : List Char) : List Char := if trim l = [] then [] else leading l

theorem leading_eq_self (h : trim l = []) : leading l = l :=
  List.takeWhile_eq_self_iff.mpr (trim_eq_nil_iff.mp h)

theorem trailing_eq_self (h : trim l = []) : trailing l = l := by
  have hreverse : l.reverse.takeWhile isBlank = l.reverse :=
    List.takeWhile_eq_self_iff.mpr fun c hc => trim_eq_nil_iff.mp h c (List.mem_reverse.mp hc)
  rw [trailing, hreverse, List.reverse_reverse]

theorem mem_of_mem_trim (h : c ∈ trim s) : c ∈ s :=
  (List.dropWhile_suffix isBlank).mem (List.IsPrefix.mem h ⟨_, trimEnd_append_trailing _⟩)

/-- What stands before a text does not change the blanks behind it. -/
theorem trailing_append (h : trim b ≠ []) (a : List Char) : trailing (a ++ b) = trailing b := by
  rw [trailing, List.reverse_append, List.takeWhile_append, if_neg, trailing]
  intro hlength
  have hself := (List.takeWhile_prefix isBlank).eq_of_length hlength
  exact h (trim_eq_nil_iff.mpr fun c hc =>
    List.takeWhile_eq_self_iff.mp hself c (List.mem_reverse.mpr hc))

/-- A line with a text is this text with the blanks around it. -/
theorem leading_append_trim_append_trailing (h : trim l ≠ []) :
    leading l ++ (trim l ++ trailing l) = l := by
  have hstart : trim (trimStart l) = trim l := by
    conv_rhs => rw [← leading_append_trimStart l]
    rw [trim_append_left fun _ => isBlank_of_mem_leading]
  have htrailing : trailing l = trailing (trimStart l) := by
    conv_lhs => rw [← leading_append_trimStart l]
    exact trailing_append (hstart ▸ h) _
  rw [htrailing, trim, trimEnd_append_trailing, leading_append_trimStart]

end Text

namespace Manifest

open Text

variable {rule : PatchRule} {rules : List PatchRule} {replacement b l s : List Char}
  {ls : List (List Char)}

/-! ## Line feeds -/

/-- The blanks of a line without a text stand twice, before and after what is written. -/
theorem count_feed_replaceLine (hr : '\n' ∉ replacement) (hl : '\n' ∉ trim l) :
    (replaceLine replacement l).count '\n' =
      l.count '\n' + if trim l = [] then l.count '\n' else 0 := by
  rw [replaceLine, List.count_append, List.count_append, List.count_eq_zero.mpr hr, Nat.add_zero]
  split
  · rename_i h
    rw [leading_eq_self h, trailing_eq_self h]
  · rename_i h
    conv_rhs => rw [← leading_append_trim_append_trailing h]
    rw [List.count_append, List.count_append, List.count_eq_zero.mpr hl]
    omega

theorem feed_not_mem_trim_of_lined (h : Lined ls) : ∀ l ∈ ls, '\n' ∉ trim l := by
  induction h with
  | nil => nofun
  | last h => simpa using fun hmem => h (mem_of_mem_trim hmem)
  | fed h _ ih =>
    rw [List.forall_mem_cons, trim_append_feed]
    exact ⟨fun hmem => h (mem_of_mem_trim hmem), ih⟩

theorem feed_not_mem_trim_applyRule (h : ∀ l ∈ ls, '\n' ∉ trim l)
    (hr : '\n' ∉ rule.replacement.toList) :
    ∀ l ∈ (applyRule (ls, 0) rule).1, '\n' ∉ trim l := by
  obtain ⟨-, hstep⟩ | ⟨before, l, after, hls, -, -, hstep⟩ := applyRule_cases (ls, 0) rule
  · rwa [hstep]
  · obtain rfl : ls = before ++ l :: after := hls
    rw [hstep]
    rw [List.forall_mem_append, List.forall_mem_cons] at h ⊢
    refine ⟨h.1, fun hmem => hr ?_, h.2.2⟩
    rw [trim_replaceLine] at hmem
    exact mem_of_mem_trim hmem

/-- A rule takes no line feed away, and adds one exactly if it comes to a line of blanks that has
one. -/
theorem count_feed_applyRule (h : ∀ l ∈ ls, '\n' ∉ trim l)
    (hr : '\n' ∉ rule.replacement.toList) :
    ls.flatten.count '\n' ≤ (applyRule (ls, 0) rule).1.flatten.count '\n' ∧
    ((applyRule (ls, 0) rule).1.flatten.count '\n' = ls.flatten.count '\n' ↔
      ¬ (rule.line = "" ∧ ∃ l ∈ ls.find? (names rule), '\n' ∈ l)) := by
  obtain ⟨hnone, hstep⟩ | ⟨before, l, after, hls, hbefore, hl, hstep⟩ :=
    applyRule_cases (ls, 0) rule
  · have hfind : ls.find? (names rule) = none := List.find?_eq_none.mpr (by simpa using hnone)
    rw [hstep, hfind]
    simp
  · obtain rfl : ls = before ++ l :: after := hls
    have hfind : (before ++ l :: after).find? (names rule) = some l :=
      List.find?_eq_some_iff_append.mpr ⟨hl, before, after, rfl, by simpa using hbefore⟩
    have hblank : rule.line = "" ↔ trim l = [] := by
      rw [names_eq_true_iff.mp hl, String.toList_eq_nil_iff]
    have hcount := count_feed_replaceLine hr (h l (by simp))
    rw [hstep, hfind, hblank]
    simp only [List.flatten_append, List.flatten_cons, List.count_append, hcount, Option.mem_def,
      Option.some.injEq, exists_eq_left']
    split
    · rename_i htext
      rw [← List.count_pos_iff]
      simp only [htext, true_and]
      omega
    · rename_i htext
      simp [htext]

/-- Behind all rules there are as many line feeds as before exactly if no line of blanks with a
line feed was rewritten on the way. -/
theorem count_feed_foldl_applyRule (h : ∀ l ∈ ls, '\n' ∉ trim l)
    (hfeed : ∀ rule ∈ rules, '\n' ∉ rule.replacement.toList) :
    ls.flatten.count '\n' ≤ (rules.foldl applyRule (ls, 0)).1.flatten.count '\n' ∧
    ((rules.foldl applyRule (ls, 0)).1.flatten.count '\n' = ls.flatten.count '\n' ↔
      ¬ DoublesFeed rules ls) := by
  induction rules generalizing ls with
  | nil => exact ⟨Nat.le_refl _, iff_of_true rfl id⟩
  | cons rule rules ih =>
    rw [List.forall_mem_cons] at hfeed
    obtain ⟨hle, hiff⟩ := count_feed_applyRule h hfeed.1
    obtain ⟨hrest, hrestiff⟩ := ih (feed_not_mem_trim_applyRule h hfeed.1) hfeed.2
    rw [List.foldl_cons, fst_foldl_applyRule]
    refine ⟨Nat.le_trans hle hrest, ?_⟩
    rw [DoublesFeed, not_or, ← hiff, ← hrestiff]
    exact ⟨fun heq => ⟨by omega, by omega⟩, fun heq => heq.2.trans heq.1⟩

/-! ## Carriage returns -/

/-- What is written brings no carriage return before a line feed: no replacement ends in one, and if
one is empty, no carriage return stands right before a text either. -/
structure AddsNoReturn (content : String) (rules : List PatchRule) : Prop where
  replacement_ends : ∀ rule ∈ rules, ¬ ['\r'] <:+ rule.replacement.toList
  indentation_ends : (∃ rule ∈ rules, rule.replacement = "") →
    ∀ l ∈ segments content.toList ++ rules.map (·.replacement.toList), ¬ ['\r'] <:+ indentation l

/-- A rewritten line ends in a carriage return as it did before, if no other one takes its place. -/
theorem return_isSuffix_replaceLine_iff (hr : ¬ ['\r'] <:+ replacement)
    (hempty : replacement = [] → ¬ ['\r'] <:+ leading s) :
    ['\r'] <:+ replaceLine replacement s ↔ ['\r'] <:+ s := by
  have hfront : ¬ ['\r'] <:+ leading s ++ replacement := by
    rw [singleton_isSuffix_append_iff, not_or, not_and]
    exact ⟨hr, hempty⟩
  rw [replaceLine, singleton_isSuffix_append_iff, singleton_isSuffix_trailing_iff rfl]
  exact or_iff_left fun h => hfront h.2

/-- The blanks before a new text are those of the line and those that are written with it. -/
theorem indentation_replaceLine (hr : trim replacement ≠ []) (s : List Char) :
    indentation (replaceLine replacement s) = leading s ++ indentation replacement := by
  rw [indentation, trim_replaceLine, if_neg hr, indentation, if_neg hr, replaceLine,
    List.append_assoc, leading, List.takeWhile_append_of_pos fun _ => isBlank_of_mem_leading,
    ← leading, leading_append hr]

/-- The line `a` in the place of `b`: it ends as `b` does, and where a replacement may be empty no
carriage return stands before its text. -/
structure KeepsEnd (mayEmpty : Prop) (b a : List Char) : Prop where
  sameFeed : SameFeed b a
  terminator_eq : terminator a = terminator b
  indentation_ends : mayEmpty → '\n' ∈ a → ¬ ['\r'] <:+ indentation a

theorem indentation_append_feed (s : List Char) : indentation (s ++ ['\n']) = indentation s := by
  unfold indentation
  rw [trim_append_feed]
  split
  · rfl
  · rename_i h
    exact leading_append h _

/-- A rewritten line ends as before. -/
theorem KeepsEnd.replaceLine {mayEmpty : Prop} (h : KeepsEnd mayEmpty b l)
    (hfeed : '\n' ∉ replacement) (hends : ¬ ['\r'] <:+ replacement)
    (hempty : replacement = [] → mayEmpty)
    (hindent : mayEmpty → ¬ ['\r'] <:+ indentation replacement)
    (htext : trim l ≠ [] ∨ '\n' ∉ l) : KeepsEnd mayEmpty b (replaceLine replacement l) := by
  obtain ⟨hsame, hterminator, hindentation⟩ := h
  have hnew := sameFeed_replaceLine hsame hfeed htext
  cases hsame with
  | last hs ht =>
    have hnone := not_mem_replaceLine ht hfeed
    exact ⟨hnew, by rw [terminator_of_not_mem hnone, terminator_of_not_mem hs],
      fun _ hmem => absurd hmem hnone⟩
  | @fed s t hs ht =>
    have hfed : trim t ≠ [] := trim_ne_nil_of_append_feed htext
    have hleading (hmay : mayEmpty) : ¬ ['\r'] <:+ leading t := by
      have hold := hindentation hmay (by simp)
      rwa [indentation_append_feed, indentation, if_neg hfed] at hold
    rw [replaceLine_append_feed hfed] at hnew ⊢
    refine ⟨hnew, ?_, fun hmay _ => ?_⟩
    · have hreturn := return_isSuffix_replaceLine_iff hends fun hnil => hleading (hempty hnil)
      rw [← hterminator, terminator_append_feed, terminator_append_feed]
      simp only [hreturn]
    · rw [indentation_append_feed]
      by_cases hr : trim replacement = []
      · rw [indentation, trim_replaceLine, if_pos hr]
        simp
      · rw [indentation_replaceLine hr, singleton_isSuffix_append_iff, not_or, not_and]
        exact ⟨hindent hmay, fun _ => hleading hmay⟩

/-! ## All lines -/

theorem keepsEnd_foldl_applyRule {content : String}
    (hfeed : ∀ rule ∈ rules, '\n' ∉ rule.replacement.toList)
    (hd : ¬ DoublesFeed rules (segments content.toList)) (h : AddsNoReturn content rules) :
    List.Forall₂ (KeepsEnd (∃ rule ∈ rules, rule.replacement = "")) (segments content.toList)
      (rules.foldl applyRule (segments content.toList, 0)).1 := by
  have hstart := List.forall₂_same.mp (lined_segments content.toList).forall₂_self
  refine forall₂_foldl_applyRule (List.forall₂_same.mpr fun l hl => ⟨hstart l hl, rfl, ?_⟩) hd
    fun rule hrule b l hl htext => hl.replaceLine (hfeed rule hrule) (h.replacement_ends rule hrule)
      (fun hnil => ⟨rule, hrule, String.toList_eq_nil_iff.mp hnil⟩) (fun hmay => ?_) htext
  · exact fun hmay _ => h.indentation_ends hmay l (List.mem_append_left _ hl)
  · exact h.indentation_ends hmay _ (List.mem_append_right _ (List.mem_map_of_mem hrule))

theorem forall₂_getD {R : List Char → List Char → Prop} {ms : List (List Char)}
    (h : List.Forall₂ R ls ms) (hnil : R [] []) (k : Nat) : R (ls.getD k []) (ms.getD k []) := by
  induction h generalizing k with
  | nil => exact hnil
  | cons hl _ ih =>
    cases k with
    | zero => exact hl
    | succ k => exact ih k

/-- The ends of the lines of a patched text are those of the lines that the rules leave. -/
theorem terminatorAt_applyRules {content : String}
    (hfeed : ∀ rule ∈ rules, '\n' ∉ rule.replacement.toList)
    (hd : ¬ DoublesFeed rules (segments content.toList)) (k : Nat) :
    terminatorAt (applyRules content rules).1.toList k =
      terminator ((rules.foldl applyRule (segments content.toList, 0)).1.getD k []) := by
  obtain ⟨n, hn⟩ := exists_segments_applyRules content hfeed hd
  rw [hn, terminatorAt]
  rcases Nat.lt_or_ge k (segments (applyRules content rules).1.toList).length with hlt | hge
  · rw [List.getD_append _ _ _ _ hlt]
  · rw [List.getD_append_right _ _ _ _ hge, List.getD_eq_default _ _ hge]
    rw [List.getD_eq_getElem?_getD, List.getElem?_getD_replicate_default_eq]

theorem terminator_eq_nil_iff {a : List Char} (h : SameFeed b a) :
    terminator a = [] ↔ terminator b = [] := by
  cases h with
  | last hs ht => simp [terminator_of_not_mem hs, terminator_of_not_mem ht]
  | fed =>
    rw [terminator_append_feed, terminator_append_feed]
    refine iff_of_false ?_ ?_ <;> split <;> simp

/-- A carriage return and a line feed are blanks of their line, and these stay. -/
theorem terminator_eq_of_keepsMargins {a : List Char} (h : KeepsMargins b a)
    (hb : terminator b = ['\r', '\n']) : terminator a = ['\r', '\n'] := by
  have hsuffix : ['\r', '\n'] <:+ a :=
    hb ▸ (terminator_isSuffix_trailing b).trans h.trailing_isSuffix
  rw [terminator, if_pos hsuffix]

/-! ## Main statement -/

/-- **Lines and their ends are kept**, where no replacement has a line feed. There are as many lines
as before exactly if no rule without a text rewrites a line of blanks that has a line feed. If so, a
line that had no end has none, and one that ended in a carriage return and a line feed still does.
A line that ended in a line feed ends in one, and in nothing else if no carriage return is written
before it. -/
theorem line_ends_kept (content : String) (rules : List PatchRule)
    (hfeed : ∀ rule ∈ rules, '\n' ∉ rule.replacement.toList) :
    let before := content.toList
    let after := (applyRules content rules).1.toList
    ((∀ rule ∈ rules, rule.line ≠ "") → ¬ DoublesFeed rules (segments before)) ∧
    (after.count '\n' = before.count '\n' ↔ ¬ DoublesFeed rules (segments before)) ∧
    (¬ DoublesFeed rules (segments before) → ∀ k,
      (terminatorAt after k = [] ↔ terminatorAt before k = []) ∧
      (terminatorAt before k = ['\r', '\n'] → terminatorAt after k = ['\r', '\n']) ∧
      (AddsNoReturn content rules → terminatorAt after k = terminatorAt before k)) := by
  intro before after
  have hlined := lined_segments before
  refine ⟨fun hlines => not_doublesFeed hlines _, ?_, fun hd k => ?_⟩
  · have hcount := (count_feed_foldl_applyRule (feed_not_mem_trim_of_lined hlined) hfeed).2
    have hafter : (rules.foldl applyRule (segments before, 0)).1.flatten = after :=
      String.toList_ofList.symm
    rwa [hafter, flatten_segments] at hcount
  · have hnil : SameFeed [] [] := .last List.not_mem_nil List.not_mem_nil
    have hsame := forall₂_getD (sameFeed_foldl_applyRule hlined hfeed hd) hnil k
    have hmargins := forall₂_getD
      (foldl_applyRule_keeps (keeps_start (segments before)) rules).margins (.refl []) k
    rw [show terminatorAt after k = _ from terminatorAt_applyRules hfeed hd k]
    refine ⟨terminator_eq_nil_iff hsame, terminator_eq_of_keepsMargins hmargins, fun hreturn => ?_⟩
    have hends := forall₂_getD (keepsEnd_foldl_applyRule hfeed hd hreturn)
      ⟨hnil, rfl, fun _ hmem => nomatch hmem⟩ k
    exact hends.terminator_eq

/-- A rule without a text that comes to a line of blanks without a line feed, and a replacement that
is empty. -/
theorem small_manifest_line_ends :
    let content := "  a\r\nb\n  "
    let rules : List PatchRule := [⟨"", "e"⟩, ⟨"b", "c"⟩, ⟨"a", ""⟩]
    (∀ rule ∈ rules, '\n' ∉ rule.replacement.toList) ∧
    applyRules content rules = ("  \r\nc\n  e  ", 3) ∧
    (applyRules content rules).1.toList.count '\n' = content.toList.count '\n' ∧
    ∀ k, terminatorAt (applyRules content rules).1.toList k = terminatorAt content.toList k := by
  intro content rules
  have hfeed : ∀ rule ∈ rules, '\n' ∉ rule.replacement.toList := by decide +kernel
  have hd : ¬ DoublesFeed rules (segments content.toList) := by decide +kernel
  have hreturn : AddsNoReturn content rules := ⟨by decide +kernel, fun _ => by decide +kernel⟩
  obtain ⟨-, hcount, hends⟩ := line_ends_kept content rules hfeed
  exact ⟨hfeed, by decide +kernel, hcount.mpr hd, fun k => (hends hd k).2.2 hreturn⟩

/-- The line feed of a line of blanks stands twice. A carriage return at the end of a replacement
comes to stand before the line feed. -/
theorem blank_line_doubled :
    ('\n' ∉ "x".toList ∧ applyRules "\n" [⟨"", "x"⟩] = ("\nx\n", 1) ∧
      "\nx\n".toList.count '\n' ≠ "\n".toList.count '\n') ∧
    ('\n' ∉ "b\r".toList ∧ applyRules "a\n" [⟨"a", "b\r"⟩] = ("b\r\n", 1) ∧
      terminatorAt "b\r\n".toList 0 ≠ terminatorAt "a\n".toList 0) := by
  decide +kernel

end Manifest

end BenchCheckout
