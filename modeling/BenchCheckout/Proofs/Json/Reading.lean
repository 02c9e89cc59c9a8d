import BenchCheckout.Json.Reader
import BenchCheckout.Proofs.Json.Written
import Mathlib.Data.List.Forall2

/-!
# Reading the tokens of a value

`read.Takes ts x` says that a reader takes the tokens `ts` off the front and yields `x`, whatever
follows them.

* `takes_string`, `takes_path`, `takes_word32`: single values.
* `takes_list`: a list of values that the reader of an element takes.
* `skip_tokens`: a value of any kind is skipped as a whole.
* `Record.read_object`: the members of an object fill a draft one after the other.
-/

namespace BenchCheckout.Json

/-- The reader takes these tokens off the front, whatever follows, and yields `x`. -/
def Reader.Takes {α : Type} (read : Reader α) (ts : List Token) (x : α) : Prop :=
  ∀ rest, read (ts ++ rest) = .ok (x, rest)

/-- A value starts with a token that closes nothing. -/
theorem Value.exists_tokens_eq (v : Value) :
    ∃ t ts, v.tokens = t :: ts ∧ t ≠ .closeList ∧ t ≠ .closeObject := by
  rcases v with _ | _ | _ | _ | (_ | ⟨_, _⟩) | (_ | ⟨⟨_, _⟩, _⟩) <;>
    exact ⟨_, _, rfl, nofun, nofun⟩

/-! ## Tokens in front of others -/

section Append

variable {v : Value} {vs : List Value} {k : String} {ms : List (String × Value)} {r : List Token}

theorem Value.list_append : (Value.list (v :: vs)).tokens ++ r =
    .openList :: (v.tokens ++ (itemTokens vs ++ .closeList :: r)) := by
  simp [tokens]

theorem Value.object_append : (Value.object ((k, v) :: ms)).tokens ++ r =
    .openObject :: .text (.ok k) none :: .colon ::
      (v.tokens ++ (memberTokens ms ++ .closeObject :: r)) := by
  simp [tokens]

theorem Value.itemTokens_append :
    itemTokens (v :: vs) ++ r = .comma :: (v.tokens ++ (itemTokens vs ++ r)) := by
  simp [itemTokens]

theorem Value.memberTokens_append : memberTokens ((k, v) :: ms) ++ r =
    .comma :: .text (.ok k) none :: .colon :: (v.tokens ++ (memberTokens ms ++ r)) := by
  simp [memberTokens]

end Append

namespace Reader

/-! ## Single values -/

theorem takes_string (s : String) : string.Takes (Value.text s).tokens s := fun _ => rfl

theorem takes_path (s : String) : path.Takes (Value.text s).tokens s := fun _ => rfl

theorem le_foldl_digits (ds : List Nat) (n : Nat) : n ≤ ds.foldl (· * 10 + ·) n := by
  induction ds generalizing n with
  | nil => exact Nat.le_refl n
  | cons d ds ih =>
    have := ih (n * 10 + d)
    rw [List.foldl_cons]
    omega

/-- Digits of a number that fits 64 bits are all gathered. -/
theorem gather_eq {ds : List Nat} {n : Nat}
    (h : ds.foldl (· * 10 + ·) n < Numeral.wordLimit) :
    Numeral.gather n ds = (ds.foldl (· * 10 + ·) n, []) := by
  induction ds generalizing n with
  | nil => rfl
  | cons d ds ih =>
    rw [List.foldl_cons] at h ⊢
    have hlt : n * 10 + d < Numeral.wordLimit := Nat.lt_of_le_of_lt (le_foldl_digits ds _) h
    rw [Numeral.gather, if_pos hlt, ih h]

theorem value_decimal {n : Nat} (h : n < Numeral.wordLimit) :
    Numeral.value ⟨false, decimal n, [], none⟩ = .ok (.natural n) := by
  have hg : Numeral.gather 0 (decimal n) = (n, []) := by
    rw [gather_eq (by rwa [foldl_decimal]), foldl_decimal]
  simp [Numeral.value, hg, Numeral.isPlain]

theorem takes_word32 (w : UInt32) : word32.Takes (Value.ofNat w.toNat).tokens w := by
  intro rest
  have hw : w.toNat < UInt32.size := w.toNat_lt_size
  have hv := value_decimal (n := w.toNat) (Nat.lt_trans hw (by decide))
  have hstep : word32 (.number ⟨false, decimal w.toNat, [], none⟩ :: rest) = .ok (w, rest) := by
    rw [word32.eq_def]
    simp only [hv]
    rw [if_pos hw, UInt32.ofNat_toNat]
  exact hstep

/-! ## Lists -/

section Elements

variable {α : Type} {element : Reader α} {xs : List α} {vs : List Value}

theorem nextElement_first (v : Value) (r : List Token) :
    nextElement true (v.tokens ++ r) = .ok (some (v.tokens ++ r)) := by
  obtain ⟨t, ts, hv, ht, -⟩ := v.exists_tokens_eq
  rw [hv]
  cases t <;> first | rfl | exact absurd rfl ht

theorem nextElement_comma (v : Value) (r : List Token) :
    nextElement false (.comma :: (v.tokens ++ r)) = .ok (some (v.tokens ++ r)) := by
  obtain ⟨t, ts, hv, ht, -⟩ := v.exists_tokens_eq
  rw [hv]
  cases t <;> first | rfl | exact absurd rfl ht

/-- One element, with its comma if it is not the first one. -/
theorem elements_step {x : α} {v : Value} {isFirst : Bool} {ts r : List Token}
    (hn : nextElement isFirst ts = .ok (some (v.tokens ++ r))) (hx : element.Takes v.tokens x)
    (fuel : Nat) :
    elements element (fuel + 1) isFirst ts =
      (elements element fuel false r).map fun (xs, r) => (x :: xs, r) := by
  rw [elements.eq_def]
  simp only [hn, hx r]

theorem elements_end (element : Reader α) (isFirst : Bool) (fuel : Nat) (rest : List Token) :
    elements element (fuel + 1) isFirst (.closeList :: rest) = .ok ([], rest) := by
  rw [elements.eq_def]
  rfl

theorem elements_items (h : List.Forall₂ (fun x v => element.Takes (Value.tokens v) x) xs vs)
    {fuel : Nat} (hf : vs.length < fuel) (rest : List Token) :
    elements element fuel false (Value.itemTokens vs ++ .closeList :: rest) = .ok (xs, rest) := by
  obtain ⟨fuel, rfl⟩ : ∃ k, fuel = k + 1 := ⟨fuel - 1, by omega⟩
  induction h generalizing fuel with
  | nil => exact elements_end element false fuel rest
  | @cons x v xs vs hx _ ih =>
    rw [List.length_cons] at hf
    obtain ⟨k, rfl⟩ : ∃ k, fuel = k + 1 := ⟨fuel - 1, by omega⟩
    rw [Value.itemTokens_append, elements_step (nextElement_comma v _) hx, ih k (by omega)]
    rfl

/-- Each element has a token of its own, so the tokens of a list are enough fuel for it. -/
theorem length_le_itemTokens (vs : List Value) : vs.length ≤ (Value.itemTokens vs).length := by
  induction vs with
  | nil => exact Nat.zero_le _
  | cons v vs ih => simp only [Value.itemTokens, List.length_cons, List.length_append]; omega

theorem takes_list (h : List.Forall₂ (fun x v => element.Takes (Value.tokens v) x) xs vs) :
    (list element).Takes (Value.list vs).tokens xs := by
  intro rest
  cases h with
  | nil => exact elements_end element true 1 rest
  | @cons x v xs vs hx hxs =>
    have hlen := length_le_itemTokens vs
    rw [Value.list_append]
    refine (elements_step (nextElement_first v _) hx _).trans ?_
    rw [elements_items hxs]
    · rfl
    · simp only [List.length_append, List.length_cons]
      omega

end Elements

/-! ## Any value -/

section Skip

variable {opened : List Bracket} {k : String} {r : List Token}

/-- The first element of a list is skipped as any value is. -/
theorem skipFrom_openList (v : Value) :
    skipFrom .value opened (.openList :: (v.tokens ++ r)) =
      skipFrom .value (.list :: opened) (v.tokens ++ r) := by
  obtain ⟨t, ts, hv, ht, -⟩ := v.exists_tokens_eq
  have hstart :
      skipToken .elementOrEnd (.list :: opened) t = skipToken .value (.list :: opened) t := by
    cases t <;> first | exact absurd rfl ht | rfl
  have hopen : skipFrom .value opened (.openList :: (v.tokens ++ r)) =
      skipFrom .elementOrEnd (.list :: opened) (v.tokens ++ r) := rfl
  rw [hopen, hv, List.cons_append, skipFrom.eq_def, skipFrom.eq_def .value]
  simp only [hstart]

theorem skipFrom_openObject :
    skipFrom .value opened (.openObject :: .text (.ok k) none :: .colon :: r) =
      skipFrom .value (.object :: opened) r := rfl

theorem skipFrom_item :
    skipFrom .separator (.list :: opened) (.comma :: r) = skipFrom .value (.list :: opened) r := rfl

theorem skipFrom_member :
    skipFrom .separator (.object :: opened) (.comma :: .text (.ok k) none :: .colon :: r) =
      skipFrom .value (.object :: opened) r := rfl

end Skip

mutual

/-- Skipping a value goes on behind it. -/
theorem skipFrom_tokens :
    ∀ (v : Value) (opened : List Bracket) (r : List Token),
      skipFrom .value opened (v.tokens ++ r) = skipFrom .separator opened r
  | .null, _, _ | .boolean _, _, _ | .number _, _, _ | .text _, _, _ => rfl
  | .list [], _, _ | .object [], _, _ => rfl
  | .list (v :: vs), opened, r => by
    rw [Value.list_append, skipFrom_openList, skipFrom_tokens v, skipFrom_itemTokens vs]
  | .object ((k, v) :: ms), opened, r => by
    rw [Value.object_append, skipFrom_openObject, skipFrom_tokens v, skipFrom_memberTokens ms]

theorem skipFrom_itemTokens :
    ∀ (vs : List Value) (opened : List Bracket) (r : List Token),
      skipFrom .separator (.list :: opened) (Value.itemTokens vs ++ .closeList :: r) =
        skipFrom .separator opened r
  | [], _, _ => rfl
  | v :: vs, opened, r => by
    rw [Value.itemTokens_append, skipFrom_item, skipFrom_tokens v, skipFrom_itemTokens vs]

theorem skipFrom_memberTokens :
    ∀ (ms : List (String × Value)) (opened : List Bracket) (r : List Token),
      skipFrom .separator (.object :: opened) (Value.memberTokens ms ++ .closeObject :: r) =
        skipFrom .separator opened r
  | [], _, _ => rfl
  | (k, v) :: ms, opened, r => by
    rw [Value.memberTokens_append, skipFrom_member, skipFrom_tokens v, skipFrom_memberTokens ms]

end

theorem skip_tokens (v : Value) (r : List Token) : skip (v.tokens ++ r) = .ok r := by
  rw [skip, skipFrom_tokens]
  cases r <;> rfl

end Reader

/-! ## Objects -/

namespace Record

variable {σ α : Type} {r : Record σ α}

/-- What a member does to a draft: it gives a field that is not set yet, or has the name of no
field. -/
inductive Sets (r : Record σ α) : σ → String × Value → σ → Prop where
  | field {d : σ} {k : String} {v : Value} {f : Field σ} {set : σ → σ}
      (hf : r.fields.find? (·.name == k) = some f) (hs : f.isSet d = false)
      (hr : f.read.Takes v.tokens set) : Sets r d (k, v) (set d)
  | other {d : σ} {k : String} {v : Value} (hn : r.fields.find? (·.name == k) = none) :
      Sets r d (k, v) d

/-- Members one after the other. -/
inductive Fills (r : Record σ α) : σ → List (String × Value) → σ → Prop where
  | done {d : σ} : Fills r d [] d
  | member {d e f : σ} {m : String × Value} {ms : List (String × Value)} (hm : r.Sets d m e)
      (h : Fills r e ms f) : Fills r d (m :: ms) f

section Member

variable {d e : σ} {k : String} {v : Value} {rest : List Token}

theorem Sets.member (h : r.Sets d (k, v) e) :
    r.member d k (.colon :: (v.tokens ++ rest)) = .ok (e, rest) := by
  cases h with
  | field hf hs hr =>
    simp only [Record.member, hf, hs, colon, hr rest]
    rfl
  | other hn =>
    simp only [Record.member, hn, colon, Reader.skip_tokens]
    rfl

/-- One member, with its comma if it is not the first one. -/
theorem members_step {isFirst : Bool} {ts : List Token}
    (hk : nextKey isFirst ts = .ok (some (.text (.ok k) none :: .colon :: (v.tokens ++ rest))))
    (h : r.Sets d (k, v) e) (fuel : Nat) :
    r.members (fuel + 1) isFirst d ts = r.members fuel false e rest := by
  rw [members.eq_def]
  simp only [hk, h.member]

theorem members_end (isFirst : Bool) (fuel : Nat) :
    r.members (fuel + 1) isFirst d (.closeObject :: rest) = (r.finish d).map (·, rest) := by
  rw [members.eq_def]
  rfl

end Member

section Members

variable {d e : σ} {ms : List (String × Value)}

/-- Each member has a token of its own, so the tokens of an object are enough fuel for it. -/
theorem length_le_memberTokens (ms : List (String × Value)) :
    ms.length ≤ (Value.memberTokens ms).length := by
  induction ms with
  | nil => exact Nat.zero_le _
  | cons m ms ih =>
    simp only [Value.memberTokens, List.length_cons, List.length_append]
    omega

theorem members_fills (h : r.Fills d ms e) {fuel : Nat} (hf : ms.length < fuel)
    (rest : List Token) :
    r.members fuel false d (Value.memberTokens ms ++ .closeObject :: rest) =
      (r.finish e).map (·, rest) := by
  obtain ⟨fuel, rfl⟩ : ∃ k, fuel = k + 1 := ⟨fuel - 1, by omega⟩
  induction h generalizing fuel with
  | done => exact members_end false fuel
  | @member _ _ _ m _ hm _ ih =>
    rw [List.length_cons] at hf
    obtain ⟨k, rfl⟩ : ∃ k, fuel = k + 1 := ⟨fuel - 1, by omega⟩
    rw [Value.memberTokens_append, members_step rfl hm]
    exact ih k (by omega)

/-- An object is read into the draft that its members fill. -/
theorem read_object {x : α} (h : r.Fills r.blank ms d) (hx : r.finish d = .ok x) :
    r.read.Takes (Value.object ms).tokens x := by
  intro rest
  cases h with
  | done =>
    refine (members_end true 1).trans ?_
    rw [hx]
    rfl
  | @member _ _ _ m ms hm h =>
    have hlen := length_le_memberTokens ms
    have hkey : nextKey true (.text (.ok m.1) none :: .colon :: (m.2.tokens ++
        (Value.memberTokens ms ++ .closeObject :: rest))) = .ok (some _) := rfl
    rw [Value.object_append]
    refine (members_step hkey hm _).trans ?_
    rw [members_fills h, hx]
    · rfl
    · simp only [List.length_append, List.length_cons]
      omega

end Members

end Record

end BenchCheckout.Json
