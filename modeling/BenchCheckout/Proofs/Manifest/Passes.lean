import BenchCheckout.Proofs.Build
import BenchCheckout.Proofs.Files.Landing
import BenchCheckout.Proofs.Manifest.AtOnce
import BenchCheckout.Proofs.Manifest.Recutting

/-!
# Patch passes in a row

A pass rewrites one line for each rule that names one. Where no rule writes a line that a rule looks
for, each pass leaves one line less to every rule, until none is left and the text stays as it is.

* `countP_applyRule`, `countP_foldl_applyRule`: how many lines are left to a rule.
* `occurrences_pass`: what a pass takes from a rule.
* `Build.readText_of_rounds`: the rounds of a build are such passes.
* `passes_settle`: all passes together.
-/

namespace BenchCheckout

namespace Manifest

open Text

variable {rule other : PatchRule} {rules : List PatchRule} {ls : List (List Char)}
  {content : String}

/-- How many lines of a text a rule names. -/
def occurrences (rule : PatchRule) (content : String) : Nat :=
  (segments content.toList).countP (names rule)

/-- The text that a pass leaves. -/
def pass (rules : List PatchRule) (content : String) : String := (applyRules content rules).1

/-- Rules that make nothing new to do: they have different lines, none of them empty, and write
neither a line feed nor the line of any rule. -/
structure Settling (rules : List PatchRule) : Prop where
  nodup : (rules.map (·.line)).Nodup
  line_ne : ∀ rule ∈ rules, rule.line ≠ ""
  no_feed : ∀ rule ∈ rules, '\n' ∉ rule.replacement.toList
  replacement_ne : ∀ a ∈ rules, ∀ b ∈ rules, trim a.replacement.toList ≠ b.line.toList

theorem Settling.independent (h : Settling rules) : Independent rules where
  nodup := h.nodup
  replacement_ne a ha b hb _ := h.replacement_ne a ha b hb

/-! ## One pass over the lines -/

/-- A rule takes a line from the rules that have its own line, and none from the others. -/
theorem countP_applyRule (h : trim rule.replacement.toList ≠ other.line.toList) (n : Nat) :
    (applyRule (ls, n) rule).1.countP (names other) =
      ls.countP (names other) - if rule.line = other.line then 1 else 0 := by
  obtain ⟨hnone, hstep⟩ | ⟨before, l, after, hls, -, hl, hstep⟩ := applyRule_cases (ls, n) rule
  · rw [hstep]
    split
    · rename_i hline
      have hzero : ls.countP (names other) = 0 := by
        rw [List.countP_eq_zero]
        intro l hmem hnames
        rw [names_eq_true_iff, ← hline, ← names_eq_true_iff, hnone l hmem] at hnames
        cases hnames
      rw [hzero]
    · rfl
  · obtain rfl : ls = before ++ l :: after := hls
    have hnew : names other (replaceLine rule.replacement.toList l) = false := by
      rwa [names_eq_false_iff, trim_replaceLine]
    have hold : names other l = true ↔ rule.line = other.line := by
      rw [names_eq_true_iff, names_eq_true_iff.mp hl, String.toList_inj]
    rw [hstep]
    simp only [List.countP_append, List.countP_cons, hnew, hold, Bool.false_eq_true, if_false]
    split <;> omega

/-- The rules take as many lines from a rule as there are rules with its line. -/
theorem countP_foldl_applyRule
    (h : ∀ rule ∈ rules, trim rule.replacement.toList ≠ other.line.toList) (n : Nat) :
    (rules.foldl applyRule (ls, n)).1.countP (names other) =
      ls.countP (names other) - (rules.map (·.line)).count other.line := by
  induction rules generalizing ls n with
  | nil => rfl
  | cons rule rules ih =>
    rw [List.forall_mem_cons] at h
    rw [List.foldl_cons, foldl_applyRule_start, ih h.2, countP_applyRule h.1, List.map_cons,
      List.count_cons, Nat.sub_sub, Nat.add_comm]
    simp only [beq_iff_eq]

/-! ## One pass over a text -/

/-- A pass takes one line from each rule that names one. -/
theorem occurrences_pass (h : Settling rules) (hrule : rule ∈ rules) (content : String) :
    occurrences rule (pass rules content) = occurrences rule content - 1 := by
  obtain ⟨n, hn⟩ := exists_segments_applyRules content h.no_feed (not_doublesFeed h.line_ne _)
  have hcount : (rules.foldl applyRule (segments content.toList, 0)).1.countP (names rule) =
      occurrences rule content - (rules.map (·.line)).count rule.line :=
    countP_foldl_applyRule (fun a ha => h.replacement_ne a ha rule hrule) 0
  have hempty : (List.replicate n []).countP (names rule) = 0 := by
    rw [List.countP_eq_zero]
    intro m hm
    simp [names_eq_false_of_mem_replicate (h.line_ne rule hrule) hm]
  rwa [hn, List.countP_append, hempty, Nat.add_zero,
    List.count_eq_one_of_mem h.nodup (List.mem_map_of_mem hrule)] at hcount

/-- A pass counts the rules that name a line. -/
theorem count_applyRules (h : Settling rules) (content : String) :
    (applyRules content rules).2 = rules.countP fun rule => 1 ≤ occurrences rule content := by
  rw [applyRules, foldl_applyRule_eq_rewriteAtOnce h.independent]
  refine List.countP_congr fun rule _ => ?_
  rw [List.any_eq_true, decide_eq_true_eq, occurrences, Nat.succ_le_iff, List.countP_pos_iff]

/-- Where nothing is left to do, nothing is done. -/
theorem applyRules_of_occurrences_eq_zero (h : ∀ rule ∈ rules, occurrences rule content = 0) :
    applyRules content rules = (content, 0) := by
  have hnone (rule : PatchRule) (hrule : rule ∈ rules) (l : List Char)
      (hl : l ∈ segments content.toList) : names rule l = false := by
    have hzero := List.countP_eq_zero.mp (h rule hrule) l hl
    rwa [Bool.not_eq_true] at hzero
  rw [applyRules, foldl_applyRule_of_not_named hnone, flatten_segments, String.ofList_toList]

/-! ## Passes in a row -/

theorem occurrences_iterate_pass (h : Settling rules) (hrule : rule ∈ rules) (content : String)
    (n : Nat) : occurrences rule ((pass rules)^[n] content) = occurrences rule content - n := by
  induction n with
  | zero => rfl
  | succ n ih => rw [Function.iterate_succ_apply', occurrences_pass h hrule, ih, Nat.sub_sub]

end Manifest

/-! ## The passes of a build -/

namespace Build

variable {config : BuildConfig} {dest : String} {host : Host} {t u : FileTree} {n : Nat}
  {history : List Event} {content : String}

/-- A build that leaves the manifest as it is. -/
def LeavesManifest (config : BuildConfig) (dest : String) (host : Host) : Prop :=
  ∀ t : FileTree,
    contentAfter config dest host t = t.readText host.cwd (manifest config dest)

/-- A round is a pass over the manifest. -/
theorem Round.readText_eq (hleaves : LeavesManifest config dest host)
    (hread : t.readText host.cwd (manifest config dest) = .ok content)
    (h : Round config dest host t history u) :
    u.readText host.cwd (manifest config dest) = .ok (Manifest.pass config.patches content) := by
  obtain ⟨-, reads, writes⟩ := h
  rw [hleaves, hread] at reads
  obtain rfl := Except.ok.inj reads
  rw [patching, Call.perform_write] at writes
  split at writes
  · rename_i v hw
    obtain rfl : v = u := (Prod.mk.inj writes).2
    exact FileTree.readText_of_read (FileTree.read_write hw)
  · cases writes

/-- Behind so many rounds of a build that leaves the manifest alone, the manifest is as so many
passes leave it. -/
theorem readText_of_rounds (hleaves : LeavesManifest config dest host)
    (hread : t.readText host.cwd (manifest config dest) = .ok content)
    (h : Rounds config dest host n t history u) :
    u.readText host.cwd (manifest config dest) =
      .ok ((Manifest.pass config.patches)^[n] content) := by
  induction h generalizing content with
  | none t => exact hread
  | next round _ ih =>
    rw [ih (round.readText_eq hleaves hread), Function.iterate_succ_apply]

end Build

namespace Manifest

open Text

/-! ## Main statement -/

/-- **Passes settle.** Behind `n` passes of rules that make nothing new to do, a rule names `n`
lines less than at the start, or none. The pass behind them counts the rules that named more than
`n` lines at the start. Once no rule named more than `n`, the text stays as it is and nothing is
counted. These are the passes of a build that leaves the manifest alone. -/
theorem passes_settle (content : String) (rules : List PatchRule) (h : Settling rules) :
    (∀ n, ∀ rule ∈ rules,
      occurrences rule ((pass rules)^[n] content) = occurrences rule content - n) ∧
    (∀ n, (applyRules ((pass rules)^[n] content) rules).2 =
      rules.countP fun rule => n + 1 ≤ occurrences rule content) ∧
    (∀ n, (∀ rule ∈ rules, occurrences rule content ≤ n) → ∀ m,
      (pass rules)^[n + m] content = (pass rules)^[n] content ∧
      (applyRules ((pass rules)^[n + m] content) rules).2 = 0) ∧
    ∀ config dest host n t history u, config.patches = rules →
      Build.LeavesManifest config dest host →
      t.readText host.cwd (Build.manifest config dest) = .ok content →
      Build.Rounds config dest host n t history u →
      u.readText host.cwd (Build.manifest config dest) = .ok ((pass rules)^[n] content) := by
  have hleft (n : Nat) (rule : PatchRule) (hrule : rule ∈ rules) :=
    occurrences_iterate_pass h hrule content n
  refine ⟨hleft, fun n => ?_, fun n hdone m => ?_, ?_⟩
  · rw [count_applyRules h]
    refine List.countP_congr fun rule hrule => ?_
    rw [decide_eq_true_eq, decide_eq_true_eq, hleft n rule hrule]
    omega
  · have hsettled : applyRules ((pass rules)^[n] content) rules = ((pass rules)^[n] content, 0) :=
      applyRules_of_occurrences_eq_zero fun rule hrule => by
        rw [hleft n rule hrule, Nat.sub_eq_zero_of_le (hdone rule hrule)]
    have hfixed : (pass rules)^[n + m] content = (pass rules)^[n] content := by
      rw [Nat.add_comm, Function.iterate_add_apply]
      exact Function.iterate_fixed (congrArg Prod.fst hsettled) m
    exact ⟨hfixed, by rw [hfixed, hsettled]⟩
  · rintro config dest host n t history u rfl hleaves hread hrounds
    exact Build.readText_of_rounds hleaves hread hrounds

/-- A build that fails and leaves everything as it is. -/
def refusingHost : Host := .plain fun _ t => ⟨.ok (.exited 1), t, "", ""⟩

def refusedConfig : BuildConfig := ⟨⟨"build", []⟩, "m", 2, [⟨"<a>", "<c>"⟩, ⟨"<b>", ""⟩]⟩

/-- Two passes, for the two lines of the first rule, and the two rounds of a build that make them. -/
theorem small_manifest_settles :
    let rules := refusedConfig.patches
    let content := "<a>\r\n <a>\n<b>"
    Settling rules ∧
    (applyRules ((pass rules)^[0] content) rules).2 = 2 ∧
    (applyRules ((pass rules)^[1] content) rules).2 = 1 ∧
    (∀ m, (pass rules)^[2 + m] content = "<c>\r\n <c>\n" ∧
      (applyRules ((pass rules)^[2 + m] content) rules).2 = 0) ∧
    Build.LeavesManifest refusedConfig "" refusingHost ∧
    ∃ t history u, t.readText [] "m" = .ok content ∧
      Build.Rounds refusedConfig "" refusingHost 2 t history u ∧
      u.readText [] "m" = .ok "<c>\r\n <c>\n" := by
  intro rules content
  have hsettling : Settling rules :=
    ⟨by decide +kernel, by decide +kernel, by decide +kernel, by decide +kernel⟩
  have htwo : (pass rules)^[2] content = "<c>\r\n <c>\n" := by decide +kernel
  obtain ⟨-, hcount, hfixed, hrounds⟩ := passes_settle content rules hsettling
  have hleaves : Build.LeavesManifest refusedConfig "" refusingHost := fun _ => rfl
  let t := FileTree.empty.put [] "m" (.file content.toUTF8 false none)
  let u := ((Build.patching refusedConfig "" content).perform [] t).2
  let v := ((Build.patching refusedConfig "" (pass rules content)).perform [] u).2
  have hread : t.readText [] "m" = .ok content := by decide +kernel
  have hfirst : Build.Round refusedConfig "" refusingHost t _ u :=
    .mk ⟨.exited 1, rfl, rfl⟩ hread (Prod.ext (by decide +kernel) rfl)
  have hsecond : Build.Round refusedConfig "" refusingHost u _ v :=
    .mk ⟨.exited 1, rfl, rfl⟩ (hfirst.readText_eq hleaves hread)
      (Prod.ext (by decide +kernel) rfl)
  have htwice : Build.Rounds refusedConfig "" refusingHost 2 t _ v :=
    .next hfirst (.next hsecond (.none v))
  refine ⟨hsettling, (hcount 0).trans (by decide +kernel), (hcount 1).trans (by decide +kernel),
    fun m => ?_, hleaves, t, _, v, hread, htwice, ?_⟩
  · rw [← htwo]
    exact hfixed 2 (by decide +kernel) m
  · rw [← htwo]
    exact hrounds refusedConfig "" refusingHost 2 t _ v rfl hleaves hread htwice

end Manifest

end BenchCheckout
