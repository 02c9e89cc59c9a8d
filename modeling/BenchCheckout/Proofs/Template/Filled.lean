import BenchCheckout.Config.Basic
import BenchCheckout.Proofs.Template
import Mathlib.Data.List.Forall2
import Mathlib.Data.List.Nodup

/-!
# Templates that were read once

`Filled bindings template text` says what one reading of a template from left to right writes: at a
placeholder of a variable the value of the first binding of that name, and every other character as
it is. Unlike `fill` it tells the readings apart by what stands in the template, not by counting.

* `filled_iff`: for names without a closing brace there is one such text, and `fill` finds it.
* `Filled.not_isInfix`: a text with values like paths holds no placeholder of a variable.
* `Filled.perm`: different names may be bound in any order.
* `ToolCommand.expandArgs_filled`: all of this for the arguments of a tool.
-/

namespace BenchCheckout

namespace Template

variable {bindings bindings' : List Binding} {b b' : Binding} {c : Char} {n m : String}
  {s t u v w : List Char}

/-- One reading of a template, from left to right. -/
inductive Filled (bindings : List Binding) : List Char → List Char → Prop
  | nil : Filled bindings [] []
  /-- A placeholder. Of several bindings of its name the first one counts. -/
  | value {b : Binding} {s u : List Char} (first : bindings.find? (·.1 == b.1) = some b)
    (rest : Filled bindings s u) : Filled bindings (placeholder b.1 ++ s) (b.2.toList ++ u)
  /-- No placeholder of a variable starts here. -/
  | char {c : Char} {s u : List Char} (free : ∀ b ∈ bindings, ¬ placeholder b.1 <+: c :: s)
    (rest : Filled bindings s u) : Filled bindings (c :: s) (c :: u)

/-- A name that no text with a slash or a brace can be, and that holds no end of a placeholder. -/
def IsVariable (name : String) : Prop := IsPlain name ∧ '}' ∉ name.toList

instance (name : String) : Decidable (IsVariable name) := inferInstanceAs (Decidable (_ ∧ _))

/-! ## One text for each template -/

/-- A placeholder ends at its first closing brace, so one text starts with one of them at most. -/
theorem eq_of_placeholder_isPrefix (hn : '}' ∉ n.toList) (hm : '}' ∉ m.toList)
    (h : placeholder n <+: t) (h' : placeholder m <+: t) : n = m := by
  have key {n m : String} (hm : '}' ∉ m.toList) (h : placeholder n <+: placeholder m) : n = m := by
    rw [placeholder_eq, placeholder_eq, List.cons_prefix_cons, rest, rest,
      List.prefix_concat_iff] at h
    rcases h.2 with heq | hp
    · exact String.toList_injective (List.append_cancel_right heq)
    · exact absurd (hp.subset (by simp)) hm
  rcases List.prefix_or_prefix_of_prefix h h' with hp | hp
  · exact key hm hp
  · exact (key hn hp).symm

/-- The ways in which a reading can start. -/
theorem Filled.cases (h : Filled bindings t v) :
    (t = [] ∧ v = []) ∨
    (∃ b s u, bindings.find? (·.1 == b.1) = some b ∧ Filled bindings s u ∧
      t = placeholder b.1 ++ s ∧ v = b.2.toList ++ u) ∨
    ∃ c s u, (∀ b ∈ bindings, ¬ placeholder b.1 <+: c :: s) ∧ Filled bindings s u ∧
      t = c :: s ∧ v = c :: u := by
  cases h with
  | nil => exact .inl ⟨rfl, rfl⟩
  | value first rest => exact .inr (.inl ⟨_, _, _, first, rest, rfl, rfl⟩)
  | char free rest => exact .inr (.inr ⟨_, _, _, free, rest, rfl, rfl⟩)

theorem Filled.unique (hn : ∀ b ∈ bindings, '}' ∉ b.1.toList) (h : Filled bindings t u)
    (h' : Filled bindings t v) : u = v := by
  induction h generalizing v with
  | nil =>
    obtain ⟨-, rfl⟩ | ⟨b, s, u, -, -, ht, -⟩ | ⟨c, s, u, -, -, ht, -⟩ := h'.cases
    · rfl
    · simp [placeholder_eq] at ht
    · cases ht
  | @value b s u first _ ih =>
    have hb := List.mem_of_find?_eq_some first
    obtain ⟨ht, -⟩ | ⟨b', s', u', first', hrest, ht, rfl⟩ | ⟨c, s', u', free, -, ht, -⟩ := h'.cases
    · simp [placeholder_eq] at ht
    · have hb' := List.mem_of_find?_eq_some first'
      have hname := eq_of_placeholder_isPrefix (hn b hb) (hn b' hb') (List.prefix_append _ s)
        (ht ▸ List.prefix_append _ s')
      rw [hname, first', Option.some.injEq] at first
      subst first
      rw [ih (List.append_cancel_left ht ▸ hrest)]
    · exact absurd (ht ▸ List.prefix_append _ s) (free b hb)
  | @char c s u free _ ih =>
    obtain ⟨ht, -⟩ | ⟨b', s', u', first', -, ht, -⟩ | ⟨c', s', u', -, hrest, ht, rfl⟩ := h'.cases
    · cases ht
    · exact absurd (ht ▸ List.prefix_append _ s') (free b' (List.mem_of_find?_eq_some first'))
    · cases ht
      rw [ih hrest]

/-- The binding that is found at a placeholder is the first one of its name. -/
theorem find?_name_of_find?
    (h : bindings.find? (fun b => (placeholder b.1).isPrefixOf t) = some b) :
    bindings.find? (·.1 == b.1) = some b := by
  obtain ⟨hb, as, bs, rfl, has⟩ := List.find?_eq_some_iff_append.mp h
  refine List.find?_eq_some_iff_append.mpr ⟨by simp, as, bs, rfl, fun a ha => ?_⟩
  have hfirst := has a ha
  rw [Bool.not_eq_true'] at hfirst ⊢
  rw [beq_eq_false_iff_ne]
  intro hname
  rw [hname, hb] at hfirst
  cases hfirst

/-- What `fill` writes is what one reading writes. -/
theorem filled_fillFrom (bindings : List Binding) (s : List Char) :
    Filled bindings s (fillFrom bindings 0 s) := by
  induction hlen : s.length using Nat.strongRecOn generalizing s with
  | ind k ih =>
    subst hlen
    cases s with
    | nil => exact .nil
    | cons c s =>
      cases hfind : bindings.find? fun b => (placeholder b.1).isPrefixOf (c :: s) with
      | none =>
        rw [fillFrom, hfind]
        refine .char (fun b hb hp => ?_) (ih s.length (by simp) s rfl)
        exact List.find?_eq_none.mp hfind b hb (List.isPrefixOf_iff_prefix.mpr hp)
      | some b =>
        have hstart := List.find?_some hfind
        obtain ⟨rfl, r, rfl⟩ := (isPrefixOf_placeholder b.1).mp hstart
        rw [fillFrom_of_find hfind rfl]
        refine .value (find?_name_of_find? hfind) (ih r.length ?_ r rfl)
        simp only [List.length_cons, List.length_append]
        omega

theorem filled_iff (hn : ∀ b ∈ bindings, '}' ∉ b.1.toList) (template : String) :
    Filled bindings template.toList u ↔ u = (fill bindings template).toList := by
  have hfill : Filled bindings template.toList (fill bindings template).toList := by
    rw [fill, String.toList_ofList]
    exact filled_fillFrom bindings template.toList
  exact ⟨fun h => h.unique hn hfill, fun h => h ▸ hfill⟩

/-! ## No placeholder is left -/

/-- What ends at a brace of the text ended there in the template: a value has no closing brace, but
a slash. -/
theorem Filled.isPrefix (hv : ∀ b ∈ bindings, '}' ∉ b.2.toList ∧ '/' ∈ b.2.toList)
    (h : Filled bindings t u) (hw : '/' ∉ w) (hp : w ++ ['}'] <+: u) : w ++ ['}'] <+: t := by
  induction h generalizing w with
  | nil => exact hp
  | @value b s u first _ _ =>
    have hb := hv b (List.mem_of_find?_eq_some first)
    rcases List.prefix_or_prefix_of_prefix hp (List.prefix_append b.2.toList u) with hp | hp
    · exact absurd (hp.subset (by simp)) hb.1
    · have := hp.subset hb.2
      simp [hw] at this
  | @char c s u _ _ ih =>
    cases w with
    | nil => simpa using hp
    | cons d w =>
      rw [List.mem_cons, not_or] at hw
      rw [List.cons_append, List.cons_prefix_cons] at hp ⊢
      exact ⟨hp.1, ih hw.2 hp.2⟩

/-- A placeholder behind a text without an opening brace starts behind it. -/
theorem placeholder_isInfix_append (hw : '{' ∉ w) (h : placeholder n <:+: w ++ u) :
    placeholder n <:+: u := by
  induction w with
  | nil => exact h
  | cons d w ih =>
    rw [List.mem_cons, not_or] at hw
    rw [List.cons_append, List.infix_cons_iff, placeholder_eq, List.cons_prefix_cons] at h
    rcases h with ⟨rfl, -⟩ | h
    · exact absurd rfl hw.1
    · exact ih hw.2 h

/-- Values like paths leave no placeholder of a variable: neither from the template, nor within a
value, nor across the seam of both. -/
theorem Filled.not_isInfix (hv : ∀ b ∈ bindings, IsInert b.2) (h : Filled bindings t u)
    (hn : '/' ∉ n.toList) (hb : n ∈ bindings.map Prod.fst) : ¬ placeholder n <:+: u := by
  induction h with
  | nil => simp [placeholder_eq]
  | @value b s u first _ ih =>
    have hval := hv b (List.mem_of_find?_eq_some first)
    exact fun hi => ih (placeholder_isInfix_append hval.1 hi)
  | @char c s u free hrest ih =>
    rw [List.infix_cons_iff, not_or, placeholder_eq, List.cons_prefix_cons]
    refine ⟨fun ⟨hc, hp⟩ => ?_, ih⟩
    obtain ⟨b, hmem, rfl⟩ := List.mem_map.mp hb
    refine free b hmem ?_
    rw [placeholder_eq, List.cons_prefix_cons]
    exact ⟨hc, hrest.isPrefix (fun b hb => (hv b hb).2) hn hp⟩

/-! ## The order of the variables -/

/-- Where every name is bound once, a reading does not depend on the order of the bindings. -/
theorem Filled.perm (hd : (bindings.map Prod.fst).Nodup) (hp : bindings'.Perm bindings)
    (h : Filled bindings t u) : Filled bindings' t u := by
  induction h with
  | nil => exact .nil
  | @value b s u first _ ih =>
    refine .value ?_ ih
    have hmem := hp.mem_iff.mpr (List.mem_of_find?_eq_some first)
    obtain ⟨b', hfind⟩ := Option.isSome_iff_exists.mp
      (List.find?_isSome (p := fun a : Binding => a.1 == b.1).mpr ⟨b, hmem, by simp⟩)
    have hname : b'.1 = b.1 := by simpa using List.find?_some hfind
    have hmem' := hp.mem_iff.mp (List.mem_of_find?_eq_some hfind)
    rw [hfind, List.inj_on_of_nodup_map hd hmem' (List.mem_of_find?_eq_some first) hname]
  | char free _ ih => exact .char (fun b hb => free b (hp.mem_iff.mp hb)) ih

end Template

open Template

/-- With names that hold no brace and no slash, and values like paths: each argument is what one
reading of its template writes and nothing else, no placeholder of a variable is left in it, and
the order in which different names are bound does not matter. -/
theorem ToolCommand.expandArgs_filled (tool : ToolCommand) (bindings : List Binding)
    (hn : ∀ b ∈ bindings, IsVariable b.1) (hv : ∀ b ∈ bindings, IsInert b.2) :
    (tool.expandArgs bindings).length = tool.args.length ∧
    List.Forall₂ (fun template arg : String =>
        ∀ text : List Char, Filled bindings template.toList text ↔ text = arg.toList)
      tool.args (tool.expandArgs bindings) ∧
    (∀ arg ∈ tool.expandArgs bindings, ∀ b ∈ bindings, ¬ placeholder b.1 <:+: arg.toList) ∧
    ((bindings.map Prod.fst).Nodup → ∀ bindings', bindings'.Perm bindings →
      tool.expandArgs bindings' = tool.expandArgs bindings) := by
  have hfill {bindings : List Binding} (hn : ∀ b ∈ bindings, IsVariable b.1)
      (hv : ∀ b ∈ bindings, IsInert b.2) :
      tool.expandArgs bindings = tool.args.map (fill bindings) :=
    List.map_congr_left fun template _ => expand_eq_fill (fun b hb => (hn b hb).1)
      (fun b hb => hv b (List.mem_of_mem_dropLast hb)) template
  have hiff {template : String} {text : List Char} :
      Filled bindings template.toList text ↔ text = (fill bindings template).toList :=
    filled_iff (fun b hb => (hn b hb).2) template
  refine ⟨by rw [expandArgs, List.length_map], ?_, fun arg harg b hb => ?_,
    fun hd bindings' hp => ?_⟩
  · rw [hfill hn hv, List.forall₂_map_right_iff]
    exact List.forall₂_same.mpr fun template _ text => hiff
  · rw [hfill hn hv] at harg
    obtain ⟨template, -, rfl⟩ := List.mem_map.mp harg
    exact (hiff.mpr rfl).not_isInfix hv (hn b hb).1.2 (List.mem_map_of_mem hb)
  · have hn' : ∀ b ∈ bindings', IsVariable b.1 := fun b hb => hn b (hp.mem_iff.mp hb)
    rw [hfill hn hv, hfill hn' fun b hb => hv b (hp.mem_iff.mp hb)]
    refine List.map_congr_left fun template _ => String.toList_injective ?_
    exact (hiff.mp (((filled_iff (fun b hb => (hn' b hb).2) template).mpr rfl).perm
      ((hp.map Prod.fst).nodup_iff.mpr hd) hp.symm))

/-- Braces around a placeholder, an unknown one, and one that is not closed. -/
theorem expandArgs_filled_braces :
    let tool : ToolCommand := ⟨"sh", ["\x7b\x7ba\x7d\x7d", "\x7bb\x7d\x7bc\x7d\x7ba"]⟩
    tool.expandArgs [("a", "/x"), ("b", "u/v")] = ["\x7b/x\x7d", "u/v\x7bc\x7d\x7ba"] ∧
    tool.expandArgs [("b", "u/v"), ("a", "/x")] = ["\x7b/x\x7d", "u/v\x7bc\x7d\x7ba"] ∧
    ∀ arg ∈ tool.expandArgs [("a", "/x"), ("b", "u/v")],
      ¬ placeholder "a" <:+: arg.toList ∧ ¬ placeholder "b" <:+: arg.toList := by
  intro tool
  obtain ⟨-, -, hleft, horder⟩ := tool.expandArgs_filled [("a", "/x"), ("b", "u/v")]
    (by decide +kernel) (by decide +kernel)
  have hargs : tool.expandArgs [("a", "/x"), ("b", "u/v")] =
      ["\x7b/x\x7d", "u/v\x7bc\x7d\x7ba"] := by decide +kernel
  refine ⟨hargs, ?_, fun arg harg => ?_⟩
  · rw [horder (by decide) _ (List.Perm.swap _ _ _), hargs]
  · exact ⟨hleft arg harg ("a", "/x") (by simp), hleft arg harg ("b", "u/v") (by simp)⟩

end BenchCheckout
