import BenchCheckout.CommandLine.Reader

/-!
# Words of a command line

What `Reading.word` makes of a word that it accepts, where the escape has not been read: one of the
steps of `Reading.Step`. An argument is checked when the word after it is read, so each step starts
from what `Reading.settle` makes of the reading.

* `Reading.settle_positional_iff`, `Reading.settle_config_iff`: a pending argument taken in.
* `Reading.word_eq_ok_iff`: the words that are accepted, and what becomes of the reading.
-/

namespace BenchCheckout.CommandLine

/-- A word that is no option: it does not start with a dash, or is the dash alone. -/
def IsFreeWord (w : String) : Prop := w = "-" ∨ w.toList.head? ≠ some '-'

/-- One word that is a config option with its value, if there is one. -/
inductive Attached : String → String → Prop where
  | short {value : String} (ne_empty : value ≠ "") (ne_equals : value.toList.head? ≠ some '=') :
      Attached ("-c" ++ value) value
  | shortEquals (value : String) : Attached ("-c=" ++ value) value
  | longEquals (value : String) : Attached ("--config=" ++ value) value

namespace Reading

variable {r s s' : Reading} {level : Level} {w value : String} {p : Positional}

/-! ## Settling -/

theorem settle_of_pending (h : s.pending = none) : s.settle level = .ok s := by
  rw [settle, h]

theorem eq_of_settle (hs : s.settle level = .ok s') (h : s.pending = none) : s' = s :=
  Except.ok.inj (hs.symm.trans (settle_of_pending h))

/-- A reading that is settled has nothing pending, and the positions that are filled are those of
its values. -/
theorem settled (h : r.settle level = .ok s) :
    s.pending = none ∧ s.escaped = r.escaped ∧ r.filled = s.values.length := by
  obtain ⟨config, noCache, values, pending, given, escaped⟩ := r
  match pending with
  | none =>
    cases h
    exact ⟨rfl, rfl, rfl⟩
  | some ⟨.config, none⟩ => cases h
  | some ⟨.config, some value⟩ =>
    simp only [settle, setConfig] at h
    split at h
    · cases h
    split at h
    · cases h
    · cases h
      exact ⟨rfl, rfl, rfl⟩
  | some ⟨.noCache, value⟩ =>
    simp only [settle, setNoCache] at h
    split at h
    · cases h
    · cases h
      exact ⟨rfl, rfl, rfl⟩
  | some ⟨.help, value⟩ | some ⟨.version, value⟩ =>
    cases h
    exact ⟨rfl, rfl, rfl⟩
  | some ⟨.positional p, value⟩ =>
    simp only [settle] at h
    split at h
    · cases h
    · cases h
      exact ⟨rfl, rfl, by simp [filled]⟩

theorem setConfig_eq_ok_iff :
    s.setConfig level value = .ok s' ↔
      s.config = none ∧ value ≠ "" ∧
        s' = { s with config := some value, given := s.given ++ [.config] } := by
  unfold setConfig
  cases hc : s.config with
  | some c => simp
  | none =>
    by_cases hv : value = ""
    · simp [hv]
    · simp [hv, eq_comm]

theorem setNoCache_eq_ok_iff :
    s.setNoCache level = .ok s' ↔
      s.noCache = false ∧ s' = { s with noCache := true, given := s.given ++ [.noCache] } := by
  unfold setNoCache
  cases hc : s.noCache <;> simp [eq_comm]

theorem settle_config_iff (h : s.pending = none) :
    { s with pending := some ⟨.config, some value⟩ }.settle level = .ok s' ↔
      s.config = none ∧ value ≠ "" ∧
        s' = { s with config := some value, given := s.given ++ [.config] } := by
  obtain ⟨config, noCache, values, pending, given, escaped⟩ := s
  obtain rfl : pending = none := h
  exact setConfig_eq_ok_iff

theorem settle_positional_iff (h : s.pending = none) :
    { s with pending := some ⟨.positional p, some w⟩ }.settle level = .ok s' ↔
      checkPositional p w = .ok () ∧
        s' = { s with values := s.values ++ [w], given := s.given ++ [.positional p] } := by
  obtain ⟨config, noCache, values, pending, given, escaped⟩ := s
  obtain rfl : pending = none := h
  simp only [settle, Option.getD_some]
  cases checkPositional p w with
  | error e => simp
  | ok => simp [eq_comm]

/-- A config option without its value is not settled. -/
theorem settle_await : { s with pending := some ⟨.config, none⟩ }.settle level ≠ .ok s' := nofun

/-! ## The parts of a word -/

theorem splitValue_of_not_mem {s : List Char} (h : '=' ∉ s) : splitValue s = (s, none) := by
  have hs : ∀ c ∈ s, decide (c ≠ '=') = true := fun c hc =>
    decide_eq_true fun he => h (he ▸ hc)
  have hd : (s ++ []).dropWhile (· ≠ '=') = [].dropWhile (· ≠ '=') :=
    List.dropWhile_append_of_pos hs
  rw [List.append_nil, List.dropWhile_nil] at hd
  rw [splitValue, hd]

theorem splitValue_append {s v : List Char} (h : '=' ∉ s) :
    splitValue (s ++ '=' :: v) = (s, some v) := by
  have hs : ∀ c ∈ s, decide (c ≠ '=') = true := fun c hc =>
    decide_eq_true fun he => h (he ▸ hc)
  rw [splitValue, List.dropWhile_append_of_pos hs, List.takeWhile_append_of_pos hs]
  simp

theorem eq_of_splitValue_none {s n : List Char} (h : splitValue s = (n, none)) : s = n := by
  unfold splitValue at h
  split at h
  · exact (Prod.mk.inj h).1
  · cases h

theorem eq_of_splitValue_some {s n v : List Char} (h : splitValue s = (n, some v)) :
    s = n ++ '=' :: v := by
  unfold splitValue at h
  split at h
  · cases h
  · rename_i c value hd
    obtain ⟨rfl, hv⟩ := Prod.mk.inj h
    obtain rfl := Option.some.inj hv
    have hc : c = '=' := by
      have hhead := List.head?_dropWhile_not (fun c : Char => decide (c ≠ '=')) s
      rw [hd] at hhead
      simpa using hhead
    subst hc
    rw [← hd, List.takeWhile_append_dropWhile]

/-! ## One word -/

/-- What a word makes of a reading that has not read the escape, if the word is accepted. -/
inductive Step (level : Level) (r : Reading) : String → Reading → Prop where
  | escape : Step level r "--" { r with escaped := true }
  | noCache {s : Reading} (checkout : level = .inner .checkout) (settles : r.settle level = .ok s)
      (first : s.noCache = false) :
      Step level r "--no-cache" { s with noCache := true, given := s.given ++ [.noCache] }
  | await {s : Reading} {w : String} (word : w = "-c" ∨ w = "--config")
      (settles : r.settle level = .ok s) :
      Step level r w { s with pending := some ⟨.config, none⟩ }
  | attach {s : Reading} {w value : String} (word : Attached w value)
      (settles : r.settle level = .ok s) (first : s.config = none) (ne_empty : value ≠ "") :
      Step level r w { s with config := some value, given := s.given ++ [.config] }
  | value {w : String} (word : IsFreeWord w) (awaits : r.awaitsValue = true) :
      Step level r w { r with pending := some ⟨.config, some w⟩ }
  | position {s : Reading} {w : String} {p : Positional} (word : IsFreeWord w)
      (awaits : r.awaitsValue = false) (settles : r.settle level = .ok s)
      (free : level.positionals[s.values.length]? = some p) :
      Step level r w { s with pending := some ⟨.positional p, some w⟩ }

theorem attach_eq_ok_iff :
    r.attach level value = .ok s' ↔
      ∃ s, r.settle level = .ok s ∧ s.config = none ∧ value ≠ "" ∧
        s' = { s with config := some value, given := s.given ++ [.config] } := by
  unfold attach
  cases r.settle level with
  | error e => simp
  | ok s => simp [setConfig_eq_ok_iff]

theorem expectValue_eq_ok_iff :
    r.expectValue level = .ok s' ↔
      ∃ s, r.settle level = .ok s ∧ s' = { s with pending := some ⟨.config, none⟩ } := by
  unfold expectValue
  cases r.settle level with
  | error e => simp [Except.map]
  | ok s => simp [Except.map, eq_comm]

theorem answer_ne_ok {refusal : Refusal} : r.answer level refusal ≠ .ok s' := by
  unfold answer
  split <;> nofun

theorem position_eq_ok_iff :
    r.position level w = .ok s' ↔
      ∃ s p, r.settle level = .ok s ∧ level.positionals[s.values.length]? = some p ∧
        s' = { s with pending := some ⟨.positional p, some w⟩ } := by
  unfold position
  constructor
  · intro h
    split at h
    · rename_i p hp
      cases hs : r.settle level with
      | error e =>
        rw [hs] at h
        cases h
      | ok s =>
        rw [hs] at h
        rw [(settled hs).2.2] at hp
        exact ⟨s, p, rfl, hp, (Except.ok.inj h).symm⟩
    · split at h
      · split at h <;> cases h
      · cases h
  · rintro ⟨s, p, hs, hp, rfl⟩
    rw [(settled hs).2.2, hp, hs]
    rfl

theorem step_of_long {rest : List Char} (hw : w.toList = '-' :: '-' :: rest)
    (h : r.long level rest = .ok s') : Step level r w s' := by
  unfold long at h
  rcases hsplit : splitValue rest with ⟨name, _ | v⟩
  · obtain rfl := eq_of_splitValue_none hsplit
    simp only [hsplit] at h
    split at h
    · rename_i hn
      obtain ⟨s, hs, rfl⟩ := expectValue_eq_ok_iff.mp h
      refine .await (.inr (String.toList_injective ?_)) hs
      rw [hw, ← String.toList_ofList (l := rest), hn]
      rfl
    split at h
    · exact absurd h answer_ne_ok
    split at h
    · exact absurd h answer_ne_ok
    split at h
    · rename_i hn
      split at h
      · cases h
      · rename_i s hs
        obtain ⟨hfirst, rfl⟩ := setNoCache_eq_ok_iff.mp h
        obtain rfl : w = "--no-cache" := by
          apply String.toList_injective
          rw [hw, ← String.toList_ofList (l := rest), hn.1]
          rfl
        exact .noCache hn.2 hs hfirst
    · cases h
  · obtain rfl := eq_of_splitValue_some hsplit
    simp only [hsplit] at h
    split at h
    · rename_i hn
      obtain ⟨s, hs, hfirst, hne, rfl⟩ := attach_eq_ok_iff.mp h
      obtain rfl : w = "--config=" ++ String.ofList v := by
        apply String.toList_injective
        rw [hw, ← String.toList_ofList (l := name), hn]
        simp
      exact .attach (.longEquals _) hs hfirst hne
    split at h
    · cases h
    split at h
    · cases h
    split at h <;> cases h

theorem step_of_short {letter : Char} {rest : List Char} (hw : w.toList = '-' :: letter :: rest)
    (h : r.short level letter rest = .ok s') : Step level r w s' := by
  unfold short at h
  split at h
  · rename_i hc
    subst hc
    split at h
    · obtain ⟨s, hs, rfl⟩ := expectValue_eq_ok_iff.mp h
      exact .await (.inl (String.toList_injective hw)) hs
    · rename_i v
      obtain ⟨s, hs, hfirst, hne, rfl⟩ := attach_eq_ok_iff.mp h
      obtain rfl : w = "-c=" ++ String.ofList v := by
        apply String.toList_injective
        rw [hw]
        simp
      exact .attach (.shortEquals _) hs hfirst hne
    · rename_i hnil hequals
      obtain ⟨s, hs, hfirst, hne, rfl⟩ := attach_eq_ok_iff.mp h
      obtain rfl : w = "-c" ++ String.ofList rest := by
        apply String.toList_injective
        rw [hw]
        simp
      refine .attach (.short hne ?_) hs hfirst hne
      rw [String.toList_ofList]
      intro hhead
      obtain ⟨v, rfl⟩ := List.head?_eq_some_iff.mp hhead
      exact hequals v rfl
  split at h
  · exact absurd h answer_ne_ok
  split at h
  · exact absurd h answer_ne_ok
  · cases h

section Kinds

variable (he : r.escaped = false)

include he

theorem word_of_long {c : Char} {rest : List Char} (hw : w.toList = '-' :: '-' :: c :: rest) :
    r.word level w = r.long level (c :: rest) := by
  rw [word, if_neg (by simp [he]), hw]
  rfl

theorem word_of_short {letter : Char} {rest : List Char} (hl : letter ≠ '-')
    (hw : w.toList = '-' :: letter :: rest) : r.word level w = r.short level letter rest := by
  rw [word, if_neg (by simp [he]), hw]
  split
  · exact absurd (by simp_all) hl
  · exact absurd (by simp_all) hl
  · simp_all
  · simp_all

theorem word_of_free (hw : IsFreeWord w) :
    r.word level w =
      if r.awaitsValue then .ok { r with pending := some ⟨.config, some w⟩ }
      else r.position level w := by
  rw [word, if_neg (by simp [he])]
  rcases hw with rfl | hw
  · rfl
  · split <;> simp_all

/-- A word that is accepted is one of the steps. -/
theorem step_of_word (h : r.word level w = .ok s') : Step level r w s' := by
  unfold word at h
  rw [if_neg (by simp [he])] at h
  split at h
  · rename_i hw
    obtain rfl : w = "--" := String.toList_injective hw
    obtain rfl := Except.ok.inj h
    exact .escape
  · exact step_of_long ‹_› h
  · exact step_of_short ‹_› h
  · rename_i hnot hlong hshort
    have hfree : IsFreeWord w := by
      refine Classical.byContradiction fun hne => ?_
      obtain ⟨hdash, hhead⟩ := not_or.mp hne
      obtain ⟨rest, hrest⟩ := List.head?_eq_some_iff.mp (Classical.not_not.mp hhead)
      cases rest with
      | nil => exact hdash (String.toList_injective hrest)
      | cons c rest => exact hshort c rest hrest
    split at h
    · obtain rfl := Except.ok.inj h
      exact .value hfree ‹_›
    · obtain ⟨s, p, hs, hp, rfl⟩ := position_eq_ok_iff.mp h
      exact .position hfree (eq_false_of_ne_true ‹_›) hs hp

/-- A step's word is accepted. -/
theorem word_of_step (h : Step level r w s') : r.word level w = .ok s' := by
  cases h with
  | escape =>
    rw [word, if_neg (by simp [he])]
    rfl
  | noCache checkout settles first =>
    have hw : "--no-cache".toList = '-' :: '-' :: 'n' :: "o-cache".toList := rfl
    rw [word_of_long he hw, long, splitValue_of_not_mem (by decide)]
    simp only
    rw [if_neg (by decide), if_neg (by decide), if_neg (by simp [checkout]),
      if_pos ⟨by decide, checkout⟩, settles]
    exact setNoCache_eq_ok_iff.mpr ⟨first, rfl⟩
  | await word settles =>
    have hexpect := expectValue_eq_ok_iff.mpr ⟨_, settles, rfl⟩
    rcases word with rfl | rfl
    · have hw : "-c".toList = '-' :: 'c' :: [] := rfl
      rw [word_of_short he (by decide) hw]
      exact hexpect
    · have hw : "--config".toList = '-' :: '-' :: 'c' :: "onfig".toList := rfl
      rw [word_of_long he hw, long, splitValue_of_not_mem (by decide)]
      exact hexpect
  | @attach s w value word settles first ne_empty =>
    have hattach := attach_eq_ok_iff.mpr ⟨_, settles, first, ne_empty, rfl⟩
    cases word with
    | short _ ne_equals =>
      have hw : ("-c" ++ value).toList = '-' :: 'c' :: value.toList := by simp
      rw [word_of_short he (by decide) hw]
      unfold short
      rw [if_pos rfl]
      split
      · exact absurd (String.toList_eq_nil_iff.mp ‹_›) ne_empty
      · simp_all
      · rwa [String.ofList_toList]
    | shortEquals =>
      have hw : ("-c=" ++ value).toList = '-' :: 'c' :: '=' :: value.toList := by simp
      rw [word_of_short he (by decide) hw, short, if_pos rfl, String.ofList_toList]
      exact hattach
    | longEquals =>
      have hw : ("--config=" ++ value).toList =
          '-' :: '-' :: 'c' :: ("onfig".toList ++ '=' :: value.toList) := by simp
      rw [word_of_long he hw, long, ← List.cons_append, splitValue_append (by decide)]
      simp only [String.ofList_toList]
      exact hattach
  | value word awaits => rw [word_of_free he word, if_pos awaits]
  | position word awaits settles free =>
    rw [word_of_free he word, if_neg (by simp [awaits])]
    exact position_eq_ok_iff.mpr ⟨_, _, settles, free, rfl⟩

/-- The words that are accepted where the escape has not been read. -/
theorem word_eq_ok_iff : r.word level w = .ok s' ↔ Step level r w s' :=
  ⟨step_of_word he, word_of_step he⟩

end Kinds

end Reading

end BenchCheckout.CommandLine
