import BenchCheckout.Proofs.Json.Grammar

/-!
# Cutting a text into its tokens

* `readNumber_spells`, `readString_spells`: a number and a string are read off as they are spelled.
* `tokens_of_spells`: a text of tokens is cut into these tokens.
-/

namespace BenchCheckout.Json

namespace Token

/-! ## Numbers -/

theorem isDigit_digitChar {d : Nat} (h : d < 10) : d.digitChar.isDigit = true := by
  have all : ∀ d < 10, d.digitChar.isDigit = true := by decide
  exact all d h

theorem digitChar_toNat_sub {d : Nat} (h : d < 10) : d.digitChar.toNat - '0'.toNat = d := by
  have all : ∀ d < 10, d.digitChar.toNat - '0'.toNat = d := by decide
  exact all d h

variable {ds : List Nat} {r s : List Char}

theorem isDigit_of_mem_digitText (h : ∀ d ∈ ds, d < 10) {c : Char}
    (hc : c ∈ Value.digitText ds) : c.isDigit = true := by
  obtain ⟨d, hd, rfl⟩ := List.mem_map.mp hc
  exact isDigit_digitChar (h d hd)

theorem takeWhile_isDigit (hr : ∀ c, r.head? = some c → c.isDigit = false) :
    r.takeWhile Char.isDigit = [] := by
  cases r with
  | nil => rfl
  | cons c r => rw [List.takeWhile_cons, hr c rfl]; rfl

theorem dropWhile_isDigit (hr : ∀ c, r.head? = some c → c.isDigit = false) :
    r.dropWhile Char.isDigit = r := by
  cases r with
  | nil => rfl
  | cons c r => rw [List.dropWhile_cons, hr c rfl]; rfl

theorem digits_append (h : ∀ d ∈ ds, d < 10) (hr : ∀ c, r.head? = some c → c.isDigit = false) :
    digits (Value.digitText ds ++ r) = ds := by
  rw [digits, List.takeWhile_append_of_pos fun c hc => isDigit_of_mem_digitText h hc,
    takeWhile_isDigit hr, List.append_nil, Value.digitText, List.map_map]
  exact (List.map_congr_left fun d hd => digitChar_toNat_sub (h d hd)).trans (List.map_id ds)

theorem afterDigits_append (h : ∀ d ∈ ds, d < 10)
    (hr : ∀ c, r.head? = some c → c.isDigit = false) :
    afterDigits (Value.digitText ds ++ r) = r := by
  rw [afterDigits, List.dropWhile_append_of_pos fun c hc => isDigit_of_mem_digitText h hc,
    dropWhile_isDigit hr]

/-- The first character of digits. -/
theorem exists_digitText_eq (h : IsDigits ds) :
    ∃ c s, Value.digitText ds = c :: s ∧ c.isDigit = true := by
  obtain ⟨d, ds, rfl⟩ := List.exists_cons_of_ne_nil h.1
  exact ⟨d.digitChar, ds.map Nat.digitChar, rfl, isDigit_digitChar (h.2 d List.mem_cons_self)⟩

theorem readExponent_spells {n : Numeral} {sign : List Char} {unit : Int}
    (hs : (sign, unit) ∈ exponentSigns) (h : IsDigits ds)
    (hr : ∀ c, r.head? = some c → c.isDigit = false) :
    readExponent n (sign ++ Value.digitText ds ++ r) =
      (.number { n with exponent := some (unit * (ds.foldl (· * 10 + ·) 0 : Nat)) }, r) := by
  have hne : ds.isEmpty = false := by simpa using h.1
  obtain ⟨c, s, hc, hd⟩ := exists_digitText_eq h
  have hplus : c ≠ '+' := by rintro rfl; exact absurd hd (by decide)
  have hminus : c ≠ '-' := by rintro rfl; exact absurd hd (by decide)
  have hcut : readExponent n (sign ++ Value.digitText ds ++ r) =
      if (digits (Value.digitText ds ++ r)).isEmpty then
        (missingDigit (Value.digitText ds ++ r), [])
      else (.number { n with exponent := some (unit *
        ((digits (Value.digitText ds ++ r)).foldl (· * 10 + ·) 0 : Nat)) },
        afterDigits (Value.digitText ds ++ r)) := by
    simp only [exponentSigns, List.mem_cons, Prod.mk.injEq, List.not_mem_nil, or_false] at hs
    rcases hs with ⟨rfl, rfl⟩ | ⟨rfl, rfl⟩ | ⟨rfl, rfl⟩
    · rw [hc, readExponent]
      · rfl
      · exact fun _ h' => hplus (List.cons.inj h').1
      · exact fun _ h' => hminus (List.cons.inj h').1
    · rfl
    · rfl
  rw [hcut, digits_append h.2 hr, afterDigits_append h.2 hr, hne]
  rfl

/-- What follows a number's digits is no further digit. -/
theorem head?_exponent {e : List Char} {exponent : Option Int} (he : SpellsExponent exponent e)
    (hr : EndsNumber r) {c : Char} (hc : (e ++ r).head? = some c) :
    c.isDigit = false ∧ c ≠ '.' := by
  cases he with
  | none => exact ⟨(hr c hc).1, (hr c hc).2.1⟩
  | digits hm =>
    obtain rfl := Option.some.inj hc
    rcases hm with rfl | rfl <;> decide

theorem readExponent?_spells {n : Numeral} {e : List Char} {exponent : Option Int}
    (he : SpellsExponent exponent e) (hn : n.exponent = none) (hr : EndsNumber r) :
    readExponent? n (e ++ r) = (.number { n with exponent := exponent }, r) := by
  cases he with
  | none =>
    rw [List.nil_append, readExponent?, ← hn]
    · rintro s rfl
      exact (hr 'e' rfl).2.2.1 rfl
    · rintro s rfl
      exact (hr 'E' rfl).2.2.2 rfl
  | @digits mark sign unit ds hm hs h =>
    have hd := readExponent_spells (n := n) hs h fun c hc => (hr c hc).1
    rcases hm with rfl | rfl <;> exact hd

theorem readNumber_spells {n : Numeral} (h : n.Spells s) (hr : EndsNumber r) :
    ∃ u, s = (if n.negative then ['-'] else []) ++ u ∧
      (∃ c v, u = c :: v ∧ c.isDigit = true) ∧ readNumber n.negative (u ++ r) = (.number n, r) := by
  obtain ⟨hw, hz, hf, he⟩ := h
  rename_i negative whole fraction exponent f e
  refine ⟨Value.digitText whole ++ f ++ e, by simp, ?_, ?_⟩
  · obtain ⟨c, v, hc, hd⟩ := exists_digitText_eq hw
    exact ⟨c, v ++ f ++ e, by simp [hc], hd⟩
  have htail {c : Char} : (e ++ r).head? = some c → c.isDigit = false ∧ c ≠ '.' :=
    head?_exponent he hr
  -- The digits in front end at a point or at the rest.
  have hfront : ∀ c, (f ++ (e ++ r)).head? = some c → c.isDigit = false := by
    intro c hc
    cases hf with
    | none => exact (htail hc).1
    | digits => obtain rfl := Option.some.inj hc; decide
  rw [List.append_assoc, List.append_assoc, readNumber, digits_append hw.2 hfront,
    afterDigits_append hw.2 hfront]
  split
  · exact absurd rfl hw.1
  · exact absurd (hz rfl) (by simp)
  · cases hf with
    | none =>
      rw [List.nil_append]
      split
      · rename_i h'
        exact absurd rfl (htail (congrArg List.head? h')).2
      · exact readExponent?_spells he rfl hr
    | digits hd =>
      have hends : ∀ c, (e ++ r).head? = some c → c.isDigit = false := fun c hc => (htail hc).1
      have hne : fraction.isEmpty = false := by simpa using hd.1
      rw [List.cons_append]
      simp only [digits_append hd.2 hends, afterDigits_append hd.2 hends]
      rw [hne]
      exact readExponent?_spells (n := ⟨negative, whole, fraction, none⟩) he rfl hr

/-! ## Strings -/

/-- No character is one half of a pair of codes. -/
theorem not_surrogate (c : Char) : ¬ (0xDC00 ≤ c.toNat ∧ c.toNat ≤ 0xDFFF) ∧
    ¬ (0xD800 ≤ c.toNat ∧ c.toNat ≤ 0xDBFF) := by
  have h : c.toNat < 0xD800 ∨ 0xDFFF < c.toNat ∧ c.toNat < 0x110000 := c.valid
  omega

theorem readText_spellsChar {c : Char} (h : SpellsChar c s) (r : List Char) :
    readText (s ++ r) = (readText r).map (c :: ·) := by
  cases h with
  | plain h hq hb =>
    rw [List.singleton_append, readText.eq_def]
    split
    case h_7 heq =>
      obtain ⟨rfl, rfl⟩ := List.cons.inj heq
      exact if_neg (by omega)
    all_goals simp_all
  | letter h =>
    unfold plainEscape? at h
    split at h <;> cases h <;> rfl
  | code h =>
    obtain ⟨hlow, hhigh⟩ := not_surrogate c
    simp only [List.cons_append, List.nil_append]
    rw [readText]
    simp only [h]
    rw [if_neg hlow, if_neg hhigh, Char.ofNat_toNat]
  | pair h hx hy =>
    have hc : c.toNat < 0xD800 ∨ 0xDFFF < c.toNat ∧ c.toNat < 0x110000 := c.valid
    simp only [List.cons_append, List.nil_append]
    rw [readText]
    simp only [hx, hy]
    rw [if_neg (by omega), if_pos (by omega), if_pos (by omega)]
    have hcode : 0x10000 + (0xD800 + (c.toNat - 0x10000) / 0x400 - 0xD800) * 0x400 +
        (0xDC00 + (c.toNat - 0x10000) % 0x400 - 0xDC00) = c.toNat := by omega
    rw [hcode, Char.ofNat_toNat]

theorem skipText_spellsChar {c : Char} (h : SpellsChar c s) (r : List Char) :
    skipText (s ++ r) = skipText r := by
  cases h with
  | plain h hq hb =>
    rw [List.singleton_append, skipText.eq_def]
    split
    case h_7 heq =>
      obtain ⟨rfl, rfl⟩ := List.cons.inj heq
      exact if_neg (by omega)
    all_goals simp_all
  | letter h =>
    unfold plainEscape? at h
    split at h <;> cases h <;> rfl
  | code h =>
    simp only [List.cons_append, List.nil_append]
    rw [skipText]
    simp only [h]
  | pair h hx hy =>
    simp only [List.cons_append, List.nil_append]
    rw [skipText]
    simp only [hx]
    rw [skipText]
    simp only [hy]

theorem readText_spells {cs : List Char} (h : SpellsText cs s) (r : List Char) :
    readText (s ++ '"' :: r) = .ok cs := by
  induction h with
  | nil => rw [List.nil_append, readText]
  | cons h _ ih => rw [List.append_assoc, readText_spellsChar h, ih]; rfl

theorem skipText_spells {cs : List Char} (h : SpellsText cs s) (r : List Char) :
    skipText (s ++ '"' :: r) = .ok r := by
  induction h with
  | nil => rw [List.nil_append, skipText]
  | cons h _ ih => rw [List.append_assoc, skipText_spellsChar h, ih]

theorem readString_spells {cs : List Char} (h : SpellsText cs s) (r : List Char) :
    readString (s ++ '"' :: r) = (.text (.ok (String.ofList cs)) none, r) := by
  rw [readString, readText_spells h, skipText_spells h]
  rfl

/-! ## The cut -/

/-- Every token starts with a character that is no blank, and is read off from there. -/
theorem next_spells {t : Token} (h : t.Spells s) (hr : ∀ n, t = .number n → EndsNumber r) :
    ∃ c v, s = c :: v ∧ isSpace c = false ∧ next c (v ++ r) = (t, r) := by
  cases h with
  | number h =>
    obtain ⟨u, rfl, ⟨c, v, rfl, hc⟩, hread⟩ := readNumber_spells h (hr _ rfl)
    rename_i n
    cases hn : n.negative with
    | true =>
      rw [hn] at hread
      exact ⟨'-', c :: v, rfl, by decide, hread⟩
    | false =>
      rw [hn] at hread
      refine ⟨c, v, rfl, ?_, ?_⟩
      · rw [Bool.eq_false_iff]
        intro hs
        simp only [isSpace, Bool.or_eq_true, beq_iff_eq] at hs
        rcases hs with ((rfl | rfl) | rfl) | rfl <;> exact absurd hc (by decide)
      · rw [next.eq_def]
        split
        all_goals first | exact absurd hc (by decide) | skip
        rw [if_pos hc]
        exact hread
  | text h =>
    refine ⟨'"', _, rfl, by decide, ?_⟩
    rw [List.append_assoc, List.singleton_append, next]
    exact readString_spells h r
  | _ => exact ⟨_, _, rfl, by decide, rfl⟩

theorem cut_blank {b : List Char} (hb : IsBlank b) (r : List Char) (fuel : Nat) :
    cut (b.length + fuel) (b ++ r) = cut fuel r := by
  induction b with
  | nil => simp
  | cons c b ih =>
    have hc : isSpace c = true := hb c List.mem_cons_self
    rw [List.length_cons, Nat.succ_add, List.cons_append, cut, if_pos hc]
    exact ih fun d hd => hb d (List.mem_cons_of_mem c hd)

theorem cut_nil (fuel : Nat) : cut fuel [] = [] := by
  cases fuel <;> rfl

theorem cut_spells {ts : List Token} (h : Json.Spells ts s) {fuel : Nat} (hf : s.length ≤ fuel) :
    cut fuel s = ts := by
  induction h generalizing fuel with
  | done hb =>
    obtain ⟨k, rfl⟩ := Nat.exists_eq_add_of_le hf
    simpa [cut_nil] using cut_blank hb [] k
  | token hb ht hr hn ih =>
    rename_i b s r t ts
    obtain ⟨c, v, rfl, hc, hnext⟩ := next_spells ht hn
    obtain ⟨k, rfl⟩ : ∃ k, fuel = b.length + (k + 1) := by
      simp only [List.length_append, List.length_cons] at hf
      exact ⟨fuel - b.length - 1, by omega⟩
    simp only [List.length_append, List.length_cons] at hf
    rw [List.append_assoc, cut_blank hb, List.cons_append, cut, hc, if_neg (by simp), hnext]
    exact congrArg (t :: ·) (ih (by omega))

end Token

/-- A text of tokens is cut into these tokens. -/
theorem tokens_of_spells {ts : List Token} {s : List Char} (h : Spells ts s) : tokens s = ts :=
  Token.cut_spells h (Nat.le_refl _)

end BenchCheckout.Json
