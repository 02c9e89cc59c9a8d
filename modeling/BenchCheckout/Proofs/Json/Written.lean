import BenchCheckout.Proofs.Json.Grammar

/-!
# The written forms of a value

* `Value.isText_pretty`, `Value.isText_compact`: both layouts of a value are texts of it, if its
  numbers can be written.
-/

namespace BenchCheckout.Json

/-! ## Decimal digits -/

/-- The decimal digits of a number, the most significant first. -/
def decimal (n : Nat) : List Nat := (Nat.toDigits 10 n).map fun c => c.toNat - '0'.toNat

theorem digitChar_toNat {c : Char} (h : c.isDigit = true) :
    Nat.digitChar (c.toNat - '0'.toNat) = c := by
  have hc : 48 ≤ c.toNat ∧ c.toNat ≤ 57 := by simpa [Char.isDigit, UInt32.le_iff_toNat_le] using h
  apply Char.toNat_inj.mp
  have h0 : '0'.toNat = 48 := rfl
  rw [Nat.toNat_digitChar_of_lt_ten (by omega)]
  omega

theorem digitText_decimal (n : Nat) : Value.digitText (decimal n) = Nat.toDigits 10 n := by
  rw [Value.digitText, decimal, List.map_map]
  refine (List.map_congr_left fun c hc => ?_).trans (List.map_id _)
  exact digitChar_toNat (Nat.isDigit_of_mem_toDigits (by decide) (by decide) hc)

theorem lt_ten_of_mem_decimal {n d : Nat} (h : d ∈ decimal n) : d < 10 := by
  obtain ⟨c, hc, rfl⟩ := List.mem_map.mp h
  have hd := Nat.isDigit_of_mem_toDigits (by decide) (by decide) hc
  have hc : 48 ≤ c.toNat ∧ c.toNat ≤ 57 := by simpa [Char.isDigit, UInt32.le_iff_toNat_le] using hd
  have h0 : '0'.toNat = 48 := rfl
  omega

theorem isDigits_decimal (n : Nat) : IsDigits (decimal n) :=
  ⟨fun h => Nat.toDigits_ne_nil (List.map_eq_nil_iff.mp h), fun _ => lt_ten_of_mem_decimal⟩

theorem foldl_decimal (n : Nat) : (decimal n).foldl (· * 10 + ·) 0 = n := by
  have h : Nat.ofDigitChars 10 (Nat.toDigits 10 n) 0 = n :=
    Nat.ofDigitChars_toDigits (by decide) (by decide)
  rw [decimal, List.foldl_map]
  simpa only [Nat.ofDigitChars, Nat.mul_comm] using h

/-- Only the number zero starts with the digit zero. -/
theorem decimal_eq_zero {n : Nat} (h : (decimal n).head? = some 0) : decimal n = [0] := by
  have small : ∀ n < 10, (decimal n).head? = some 0 → decimal n = [0] := by decide
  induction n using Nat.strongRecOn with
  | ind n ih =>
    by_cases hn : n < 10
    · exact small n hn h
    · have hcut : decimal n = decimal (n / 10) ++ [(n % 10).digitChar.toNat - '0'.toNat] := by
        rw [decimal, Nat.toDigits_of_base_le (by decide) (by omega), List.map_append]
        rfl
      have hhead : (decimal (n / 10)).head? = some 0 := by
        rwa [hcut, List.head?_append, Option.or_of_isSome] at h
        simpa using (isDigits_decimal _).1
      -- The digits in front would be a zero alone, which only those of zero are.
      have hzero : n / 10 = 0 := by
        rw [← foldl_decimal (n / 10), ih (n / 10) (by omega) hhead]
        rfl
      omega

/-! ## Layouts -/

/-- What a layout puts between tokens is blank. -/
structure Value.Layout.IsBlank (layout : Value.Layout) : Prop where
  lineStart : ∀ n, Json.IsBlank (layout.lineStart n)
  lineEnd : ∀ n, Json.IsBlank (layout.lineEnd n)
  afterColon : Json.IsBlank layout.afterColon

theorem isBlank_compact : Value.Layout.compact.IsBlank := ⟨nofun, nofun, nofun⟩

theorem isBlank_replicate (k : Nat) : IsBlank (List.replicate k ' ') := by
  intro c hc
  rw [(List.mem_replicate.mp hc).2]
  rfl

theorem isBlank_indented : Value.Layout.indented.IsBlank := by
  have h (k : Nat) : IsBlank ('\n' :: List.replicate k ' ') :=
    List.forall_mem_cons.mpr ⟨rfl, isBlank_replicate k⟩
  exact ⟨fun n => h _, fun n => h _, isBlank_replicate 1⟩

theorem isBlank_append {a b : List Char} (ha : IsBlank a) (hb : IsBlank b) : IsBlank (a ++ b) :=
  fun c hc => (List.mem_append.mp hc).elim (ha c) (hb c)

theorem IsBlank.endsNumber {b r : List Char} (hb : IsBlank b) (hr : EndsNumber r) :
    EndsNumber (b ++ r) := by
  cases b with
  | nil => exact hr
  | cons c b =>
    intro d hd
    obtain rfl := Option.some.inj hd
    have hc := hb c List.mem_cons_self
    simp only [Token.isSpace, Bool.or_eq_true, beq_iff_eq] at hc
    rcases hc with ((rfl | rfl) | rfl) | rfl <;> decide

/-! ## Leaves -/

/-- A number that can be written: it has digits in front of the point, no needless zeros there, and
digits are below ten. -/
def Numeral.IsWritable (n : Numeral) : Prop :=
  IsDigits n.whole ∧ (n.whole.head? = some 0 → n.whole = [0]) ∧ ∀ d ∈ n.fraction, d < 10

theorem spells_encodeExponent (e : Int) : SpellsExponent (some e) (Value.encodeExponent e) := by
  have h (sign : List Char) (unit : Int) (hs : (sign, unit) ∈ exponentSigns) :
      SpellsExponent (some (unit * (e.natAbs : Nat)))
        ('e' :: (sign ++ Nat.toDigits 10 e.natAbs)) := by
    have := SpellsExponent.digits (.inl rfl) hs (isDigits_decimal e.natAbs)
    rwa [foldl_decimal, digitText_decimal] at this
  rw [Value.encodeExponent]
  by_cases he : e < 0
  · have hspells := h ['-'] (-1) (by decide)
    rw [show (-1 : Int) * (e.natAbs : Nat) = e by omega] at hspells
    rw [if_pos he]
    exact hspells
  · have hspells := h [] 1 (by decide)
    rw [show (1 : Int) * (e.natAbs : Nat) = e by omega] at hspells
    rw [if_neg he]
    exact hspells

theorem spells_encodeNumeral {n : Numeral} (h : n.IsWritable) :
    n.Spells (Value.encodeNumeral n) := by
  obtain ⟨negative, whole, fraction, exponent⟩ := n
  obtain ⟨hw, hz, hf⟩ := h
  have hfraction : SpellsFraction fraction
      (if fraction.isEmpty then [] else '.' :: Value.digitText fraction) := by
    cases fraction with
    | nil => exact .none
    | cons d ds => exact .digits ⟨by simp, hf⟩
  have hexponent : SpellsExponent exponent ((exponent.map Value.encodeExponent).getD []) := by
    cases exponent with
    | none => exact .none
    | some e => exact spells_encodeExponent e
  exact .mk hw hz hfraction hexponent

theorem hex4?_control {n : Nat} (h : n < 0x20) :
    Token.hex4? '0' '0' (Nat.digitChar (n / 16)) (Nat.digitChar (n % 16)) = some n := by
  have all : ∀ n < 0x20,
      Token.hex4? '0' '0' (Nat.digitChar (n / 16)) (Nat.digitChar (n % 16)) = some n := by decide
  exact all n h

theorem spellsChar_escapeChar (c : Char) : SpellsChar c (Value.escapeChar c) := by
  unfold Value.escapeChar
  split
  · exact .letter rfl
  · exact .letter rfl
  · exact .letter rfl
  · exact .letter rfl
  · exact .letter rfl
  · exact .letter rfl
  · exact .letter rfl
  · rename_i hq hb _ _ _ _ _
    split
    · rename_i h
      exact .code (hex4?_control h)
    · rename_i h
      exact .plain (by omega) hq hb

theorem spellsText_escape (cs : List Char) : SpellsText cs (cs.flatMap Value.escapeChar) := by
  induction cs with
  | nil => exact .nil
  | cons c cs ih => exact .cons (spellsChar_escapeChar c) ih

theorem spells_encodeText (k : String) :
    Token.Spells (.text (.ok k) none) (Value.encodeText k) := by
  have h := Token.Spells.text (spellsText_escape k.toList)
  rwa [String.ofList_toList] at h

/-! ## Values -/

section Spelling

variable {ts : List Token} {b s r : List Char}

theorem Spells.blank (hb : IsBlank b) (h : Spells ts r) : Spells ts (b ++ r) := by
  cases h with
  | done hb' => exact .done (isBlank_append hb hb')
  | token hb' ht hr hn =>
    rw [← List.append_assoc, ← List.append_assoc]
    exact .token (isBlank_append hb hb') ht hr hn

/-- A token that is no number, in front of any tokens. -/
theorem Spells.cons {t : Token} (ht : t.Spells s) (hn : ∀ n, t ≠ .number n) (h : Spells ts r) :
    Spells (t :: ts) (s ++ r) :=
  .token (b := []) nofun ht h fun n hc => absurd hc (hn n)

end Spelling

namespace Value

mutual

/-- Every number of the value can be written. -/
def IsWritable : Value → Prop
  | .null | .boolean _ | .text _ => True
  | .number n => n.IsWritable
  | .list vs => AreWritable vs
  | .object ms => MembersAreWritable ms

def AreWritable : List Value → Prop
  | [] => True
  | v :: vs => v.IsWritable ∧ AreWritable vs

def MembersAreWritable : List (String × Value) → Prop
  | [] => True
  | (_, v) :: ms => v.IsWritable ∧ MembersAreWritable ms

end

variable {layout : Layout}

theorem endsNumber_encodeItems {vs : List Value} {depth : Nat} {r : List Char}
    (hr : EndsNumber r) : EndsNumber (encodeItems layout depth vs ++ r) := by
  cases vs with
  | nil => exact hr
  | cons v vs => rw [encodeItems]; rintro c ⟨⟩; decide

theorem endsNumber_encodeMembers {ms : List (String × Value)} {depth : Nat} {r : List Char}
    (hr : EndsNumber r) : EndsNumber (encodeMembers layout depth ms ++ r) := by
  cases ms with
  | nil => exact hr
  | cons m ms => rw [encodeMembers]; rintro c ⟨⟩; decide

/-- A key with its colon. -/
theorem spells_key (hl : layout.IsBlank) (k : String) {ts : List Token} {r : List Char}
    (h : Spells ts r) :
    Spells (.text (.ok k) none :: .colon :: ts)
      (encodeText k ++ ':' :: (layout.afterColon ++ r)) :=
  .cons (spells_encodeText k) nofun (.cons .colon nofun (.blank hl.afterColon h))

/-- A closing bracket at the start of its line. -/
theorem spells_close (hl : layout.IsBlank) (depth : Nat) {t : Token} {c : Char}
    (ht : t.Spells [c]) (hn : ∀ n, t ≠ .number n) {ts : List Token} {r : List Char}
    (h : Spells ts r) : Spells (t :: ts) (layout.lineEnd depth ++ c :: r) :=
  .blank (hl.lineEnd depth) (.cons ht hn h)

mutual

/-- A text of a value in front of a text of other tokens. -/
theorem spells_encode_append (hl : layout.IsBlank) :
    ∀ (v : Value) (depth : Nat) {ts : List Token} {r : List Char}, v.IsWritable → Spells ts r →
      EndsNumber r → Spells (v.tokens ++ ts) (encode layout depth v ++ r)
  | .null, _, _, _, _, h, _ => .cons .null nofun h
  | .boolean true, _, _, _, _, h, _ => .cons .true nofun h
  | .boolean false, _, _, _, _, h, _ => .cons .false nofun h
  | .number n, _, _, _, hv, h, hr =>
    .token (b := []) nofun (.number (spells_encodeNumeral hv)) h fun _ _ => hr
  | .text s, _, _, _, _, h, _ => .cons (spells_encodeText s) nofun h
  | .list [], _, _, _, _, h, _ => by
    rw [tokens, encode]
    exact Spells.cons (s := ['[']) .openList nofun (.cons .closeList nofun h)
  | .list (v :: vs), depth, ts, r, hv, h, _ => by
    have hclose := spells_close hl depth .closeList nofun h
    have hend := (hl.lineEnd depth).endsNumber (r := ']' :: r) (by rintro c ⟨⟩; decide)
    have hitems := spells_encodeItems hl vs depth hv.2 hclose hend
    have hfirst := spells_encode_append hl v (depth + 1) hv.1 hitems (endsNumber_encodeItems hend)
    have hall := Spells.cons .openList nofun (.blank (hl.lineStart depth) hfirst)
    simpa [tokens, encode] using hall
  | .object [], _, _, _, _, h, _ => by
    rw [tokens, encode]
    exact Spells.cons (s := ['{']) .openObject nofun (.cons .closeObject nofun h)
  | .object ((k, v) :: ms), depth, ts, r, hv, h, _ => by
    have hclose := spells_close hl depth .closeObject nofun h
    have hend := (hl.lineEnd depth).endsNumber (r := '}' :: r) (by rintro c ⟨⟩; decide)
    have hmembers := spells_encodeMembers hl ms depth hv.2 hclose hend
    have hfirst :=
      spells_encode_append hl v (depth + 1) hv.1 hmembers (endsNumber_encodeMembers hend)
    have hkey := spells_key hl k hfirst
    have hall := Spells.cons .openObject nofun (.blank (hl.lineStart depth) hkey)
    simpa [tokens, encode] using hall

theorem spells_encodeItems (hl : layout.IsBlank) :
    ∀ (vs : List Value) (depth : Nat) {ts : List Token} {r : List Char}, AreWritable vs →
      Spells ts r → EndsNumber r → Spells (itemTokens vs ++ ts) (encodeItems layout depth vs ++ r)
  | [], _, _, _, _, h, _ => h
  | v :: vs, depth, ts, r, hv, h, hr => by
    have hitems := spells_encodeItems hl vs depth hv.2 h hr
    have hfirst := spells_encode_append hl v (depth + 1) hv.1 hitems (endsNumber_encodeItems hr)
    have hall := Spells.cons .comma nofun (.blank (hl.lineStart depth) hfirst)
    simpa [itemTokens, encodeItems] using hall

theorem spells_encodeMembers (hl : layout.IsBlank) :
    ∀ (ms : List (String × Value)) (depth : Nat) {ts : List Token} {r : List Char},
      MembersAreWritable ms → Spells ts r → EndsNumber r →
        Spells (memberTokens ms ++ ts) (encodeMembers layout depth ms ++ r)
  | [], _, _, _, _, h, _ => h
  | (k, v) :: ms, depth, ts, r, hv, h, hr => by
    have hmembers := spells_encodeMembers hl ms depth hv.2 h hr
    have hfirst :=
      spells_encode_append hl v (depth + 1) hv.1 hmembers (endsNumber_encodeMembers hr)
    have hall := Spells.cons .comma nofun (.blank (hl.lineStart depth) (spells_key hl k hfirst))
    simpa [memberTokens, encodeMembers] using hall

end

variable {v : Value}

/-- A written value with blanks behind it. -/
theorem isText_encode (hl : layout.IsBlank) (hv : v.IsWritable) {b : List Char} (hb : IsBlank b) :
    v.IsText (String.ofList (encode layout 0 v ++ b)) := by
  have hend : EndsNumber (b ++ []) := hb.endsNumber nofun
  have h := spells_encode_append hl v 0 hv (.done hb) (by simpa using hend)
  simpa [IsText] using h

theorem isText_compact (hv : v.IsWritable) : v.IsText v.compact := by
  simpa [compact] using isText_encode isBlank_compact hv (b := []) nofun

theorem isText_pretty (hv : v.IsWritable) : v.IsText v.pretty := by
  simpa [pretty] using isText_encode isBlank_indented hv (b := []) nofun

/-- The form of a file, which ends in a line feed. -/
theorem isText_pretty_newline (hv : v.IsWritable) : v.IsText (v.pretty ++ "\n") := by
  have h := isText_encode isBlank_indented hv (b := ['\n']) (by simp [IsBlank, Token.isSpace])
  simpa [pretty, String.ofList_append] using h

end Value

end BenchCheckout.Json
