import BenchCheckout.Proofs.Json.Reading
import Mathlib.Data.List.Perm.Basic

/-!
# Reading an object with some of its fields

`v.IsObject fields` says that a value is an object with the given fields, in any order, among any
members with other names.

* `Record.takes_isObject`: from such an object the structure is read that the draft with the written
  fields stands for.
-/

namespace BenchCheckout.Json

/-- The fields of an object: each with its name and with what its value has to be, unless it is left
out. -/
abbrev Fields := List (String × Option (Value → Prop))

/-- The names of all fields, written or not. -/
def Fields.names (fields : Fields) : List String := fields.map (·.1)

/-- Whether a field is written. -/
def Fields.has (fields : Fields) (name : String) : Bool :=
  fields.any fun f => f.1 == name && f.2.isSome

/-- The members of the fields that are written, in their order. -/
inductive Fields.Gives : Fields → List (String × Value) → Prop where
  | done : Gives [] []
  | leftOut {n : String} {fields : Fields} {ms : List (String × Value)} (h : Gives fields ms) :
      Gives ((n, none) :: fields) ms
  | written {n : String} {fields : Fields} {ms : List (String × Value)} {p : Value → Prop}
      {v : Value} (hv : p v) (h : Gives fields ms) : Gives ((n, some p) :: fields) ((n, v) :: ms)

/-- An object with the written fields, in any order, and with any members of other names. -/
def Value.IsObject (fields : Fields) (v : Value) : Prop :=
  ∃ given extra ms, v = .object ms ∧ fields.Gives given ∧
    (∀ m ∈ extra, m.1 ∉ fields.names) ∧ ms.Perm (given ++ extra)

/-! ## The members of an object -/

namespace Fields

variable {fields : Fields} {given : List (String × Value)}

theorem Gives.exists_field (h : fields.Gives given) {m : String × Value} (hm : m ∈ given) :
    ∃ p, (m.1, some p) ∈ fields ∧ p m.2 := by
  induction h with
  | done => cases hm
  | leftOut _ ih =>
    obtain ⟨p, hp, hv⟩ := ih hm
    exact ⟨p, List.mem_cons_of_mem _ hp, hv⟩
  | written hv _ ih =>
    rcases List.mem_cons.mp hm with rfl | hm
    · exact ⟨_, List.mem_cons_self, hv⟩
    · obtain ⟨p, hp, hv⟩ := ih hm
      exact ⟨p, List.mem_cons_of_mem _ hp, hv⟩

theorem Gives.sublist (h : fields.Gives given) : (given.map (·.1)).Sublist fields.names := by
  induction h with
  | done => exact .slnil
  | leftOut _ ih => exact ih.cons _
  | written _ _ ih => exact ih.cons_cons _

theorem Gives.any_eq (h : fields.Gives given) (n : String) :
    given.any (·.1 == n) = fields.has n := by
  induction h with
  | done => rfl
  | leftOut _ ih => simpa [has] using ih
  | written _ _ ih => simp [ih, has]

theorem has_eq_true {n : String} {p : Value → Prop} (h : (n, some p) ∈ fields) :
    fields.has n = true :=
  List.any_eq_true.mpr ⟨_, h, by simp⟩

theorem mem_names_of_has {n : String} (h : fields.has n = true) : n ∈ fields.names := by
  obtain ⟨f, hf, hn⟩ := List.any_eq_true.mp h
  rw [Bool.and_eq_true, beq_iff_eq] at hn
  exact List.mem_map.mpr ⟨f, hf, hn.1⟩

variable {extra ms : List (String × Value)}

/-- The fields among the members of an object are the written ones. -/
theorem Gives.any_eq_has (h : fields.Gives given) (he : ∀ m ∈ extra, m.1 ∉ fields.names)
    (hp : ms.Perm (given ++ extra)) (n : String) :
    (decide (n ∈ fields.names) && ms.any (·.1 == n)) = fields.has n := by
  have hany : ms.any (·.1 == n) = (fields.has n || extra.any (·.1 == n)) := by
    rw [hp.any_eq, List.any_append, h.any_eq]
  rw [hany]
  by_cases hn : n ∈ fields.names
  · have hextra : extra.any (·.1 == n) = false := by
      rw [List.any_eq_false]
      intro m hm hc
      exact he m hm (beq_iff_eq.mp hc ▸ hn)
    rw [hextra, decide_eq_true hn, Bool.true_and, Bool.or_false]
  · have hhas : fields.has n = false := Bool.eq_false_iff.mpr fun hc => hn (mem_names_of_has hc)
    rw [decide_eq_false hn, hhas, Bool.false_and]

/-- No two members of an object have the name of one field. -/
theorem Gives.pairwise (h : fields.Gives given) (hn : fields.names.Nodup)
    (he : ∀ m ∈ extra, m.1 ∉ fields.names) (hp : ms.Perm (given ++ extra)) :
    ms.Pairwise fun a b => a.1 ∈ fields.names → a.1 ≠ b.1 := by
  have hsymm : ∀ {a b : String × Value}, (a.1 ∈ fields.names → a.1 ≠ b.1) →
      b.1 ∈ fields.names → b.1 ≠ a.1 := fun hab hb hc => hab (hc ▸ hb) hc.symm
  rw [hp.pairwise_iff hsymm, List.pairwise_append]
  refine ⟨?_, ?_, ?_⟩
  · refine (List.pairwise_map.mp (h.sublist.nodup hn)).imp ?_
    exact fun hab _ => hab
  · refine List.pairwise_of_forall_mem_list ?_
    intro a ha b _ hc
    exact absurd hc (he a ha)
  · intro a ha b hb hc heq
    exact he b hb (heq ▸ hc)

end Fields

/-! ## Drafts -/

variable {σ α : Type}

/-- A field of a structure as an object gives it. The draft with the fields `has` is `draft has`. -/
structure Field.Matches (draft : (String → Bool) → σ) (f : Field σ)
    (entry : String × Option (Value → Prop)) : Prop where
  name : f.name = entry.1
  required : f.required = true → entry.2.isSome = true
  isSet : ∀ has, f.isSet (draft has) = has f.name
  read : ∀ p v, entry.2 = some p → p v → ∃ set, f.read.Takes v.tokens set ∧
    ∀ has, set (draft has) = draft fun n => n == f.name || has n

namespace Record

variable {r : Record σ α} {draft : (String → Bool) → σ} {fields : Fields}

theorem find?_of_matches {fs : List (Field σ)} (h : List.Forall₂ (Field.Matches draft) fs fields)
    (hn : fields.names.Nodup) {entry : String × Option (Value → Prop)} (he : entry ∈ fields) :
    ∃ f, fs.find? (·.name == entry.1) = some f ∧ f.Matches draft entry := by
  induction h with
  | nil => cases he
  | @cons f e fs fields hf _ ih =>
    rw [Fields.names, List.map_cons, List.nodup_cons] at hn
    rcases List.mem_cons.mp he with rfl | he
    · exact ⟨f, by simp [hf.name], hf⟩
    · obtain ⟨g, hg, hm⟩ := ih hn.2 he
      have hne : e.1 ≠ entry.1 := fun hc => hn.1 (hc ▸ List.mem_map_of_mem he)
      exact ⟨g, by rw [List.find?_cons_of_neg (by simpa [hf.name] using hne), hg], hm⟩

theorem find?_eq_none_of_matches {fs : List (Field σ)}
    (h : List.Forall₂ (Field.Matches draft) fs fields) {k : String}
    (hk : k ∉ fields.names) : fs.find? (·.name == k) = none := by
  induction h with
  | nil => rfl
  | cons hf _ ih =>
    rw [Fields.names, List.map_cons, List.mem_cons, not_or] at hk
    rw [List.find?_cons_of_neg (by simpa [hf.name] using Ne.symm hk.1), ih hk.2]

theorem exists_entry {fs : List (Field σ)} (h : List.Forall₂ (Field.Matches draft) fs fields)
    {f : Field σ} (hf : f ∈ fs) : ∃ entry ∈ fields, f.Matches draft entry := by
  induction h with
  | nil => cases hf
  | @cons g e _ _ hg _ ih =>
    rcases List.mem_cons.mp hf with rfl | hf
    · exact ⟨e, List.mem_cons_self, hg⟩
    · obtain ⟨e, he, hm⟩ := ih hf
      exact ⟨e, List.mem_cons_of_mem _ he, hm⟩

/-- What a member has to be where the fields `has` are set: of another name, or a field's value. -/
def Fits (fields : Fields) (has : String → Bool) (m : String × Value) : Prop :=
  m.1 ∉ fields.names ∨ has m.1 = false ∧ ∃ p, (m.1, some p) ∈ fields ∧ p m.2

/-- One member adds its name to the fields that are set, if it is a field's name. -/
theorem sets_draft (h : List.Forall₂ (Field.Matches draft) r.fields fields)
    (hn : fields.names.Nodup) {m : String × Value} {has : String → Bool} (hm : Fits fields has m) :
    r.Sets (draft has) m (draft fun n => (decide (n ∈ fields.names) && m.1 == n) || has n) := by
  rcases hm with hk | ⟨hhas, p, hp, hv⟩
  · have hsame : (fun n => (decide (n ∈ fields.names) && m.1 == n) || has n) = has := by
      funext n
      by_cases hc : m.1 = n
      · simp [← hc, hk]
      · simp [hc]
    rw [hsame]
    exact .other (find?_eq_none_of_matches h hk)
  · obtain ⟨f, hf, hm⟩ := find?_of_matches h hn hp
    obtain ⟨set, hread, hset⟩ := hm.read p m.2 rfl hv
    have hk : m.1 ∈ fields.names := List.mem_map_of_mem hp
    have hadds : set (draft has) =
        draft fun n => (decide (n ∈ fields.names) && m.1 == n) || has n := by
      rw [hset, hm.name]
      congr 1
      funext n
      by_cases hc : m.1 = n
      · simp [← hc, hk]
      · rw [beq_eq_false_iff_ne.mpr hc, beq_eq_false_iff_ne.mpr (Ne.symm hc), Bool.and_false]
    rw [← hadds]
    exact .field hf (by rw [hm.isSet, hm.name]; exact hhas) hread

/-- Members that fit, of which no two have the name of one field. -/
theorem fills_draft (h : List.Forall₂ (Field.Matches draft) r.fields fields)
    (hn : fields.names.Nodup) {ms : List (String × Value)} {has : String → Bool}
    (hm : ∀ m ∈ ms, Fits fields has m)
    (hp : ms.Pairwise fun a b => a.1 ∈ fields.names → a.1 ≠ b.1) :
    r.Fills (draft has) ms
      (draft fun n => (decide (n ∈ fields.names) && ms.any (·.1 == n)) || has n) := by
  induction ms generalizing has with
  | nil => simpa using Fills.done
  | cons m ms ih =>
    rw [List.forall_mem_cons] at hm
    rw [List.pairwise_cons] at hp
    have hrest : ∀ a ∈ ms,
        Fits fields (fun n => (decide (n ∈ fields.names) && m.1 == n) || has n) a := by
      intro a ha
      refine (hm.2 a ha).imp_right fun ⟨hhas, p, hp', hv⟩ => ⟨?_, p, hp', hv⟩
      have hne : m.1 ≠ a.1 := fun hc => hp.1 a ha (hc ▸ List.mem_map_of_mem hp') hc
      simp [hne, hhas]
    have hfills := Fills.member (sets_draft h hn hm.1) (ih hrest hp.2)
    have hadds : (fun n => (decide (n ∈ fields.names) && (m :: ms).any (·.1 == n)) || has n) =
        fun n => (decide (n ∈ fields.names) && ms.any (·.1 == n)) ||
          ((decide (n ∈ fields.names) && m.1 == n) || has n) := by
      funext n
      rw [List.any_cons, Bool.and_or_distrib_left, Bool.or_comm (_ && _), Bool.or_assoc]
    rw [hadds]
    exact hfills

theorem finish_draft (h : List.Forall₂ (Field.Matches draft) r.fields fields) :
    r.finish (draft fields.has) = .ok (r.build (draft fields.has)) := by
  have hall : ∀ f ∈ r.fields, f.required = true → f.isSet (draft fields.has) = true := by
    intro f hf hreq
    obtain ⟨⟨n, p⟩, he, hm⟩ := exists_entry h hf
    obtain ⟨p, rfl⟩ := Option.isSome_iff_exists.mp (hm.required hreq)
    rw [hm.isSet, hm.name]
    exact Fields.has_eq_true he
  have hnone : (r.fields.find? fun f => f.required && !f.isSet (draft fields.has)) = none := by
    rw [List.find?_eq_none]
    intro f hf
    simpa using hall f hf
  rw [finish, hnone]

theorem names_of_matches {fs : List (Field σ)}
    (h : List.Forall₂ (Field.Matches draft) fs fields) : fs.map (·.name) = fields.names := by
  induction h with
  | nil => rfl
  | cons hf _ ih => rw [List.map_cons, hf.name, ih, Fields.names, Fields.names, List.map_cons]

/-- From an object the draft with the written fields is read, whatever their order and whatever
other members there are. -/
theorem takes_isObject (h : List.Forall₂ (Field.Matches draft) r.fields fields)
    (hd : (r.fields.map (·.name)).Nodup) (hb : r.blank = draft fun _ => false) {v : Value}
    (hv : v.IsObject fields) : r.read.Takes v.tokens (r.build (draft fields.has)) := by
  have hn : fields.names.Nodup := names_of_matches h ▸ hd
  obtain ⟨given, extra, ms, rfl, hg, he, hp⟩ := hv
  have hfits : ∀ m ∈ ms, Fits fields (fun _ => false) m := by
    intro m hm
    rcases List.mem_append.mp (hp.mem_iff.mp hm) with hm | hm
    · exact .inr ⟨rfl, hg.exists_field hm⟩
    · exact .inl (he m hm)
  have hfills := fills_draft h hn hfits (hg.pairwise hn he hp)
  have hhas : (fun n => (decide (n ∈ fields.names) && ms.any (·.1 == n)) || false) = fields.has :=
    funext fun n => by rw [Bool.or_false, hg.any_eq_has he hp]
  rw [hhas, ← hb] at hfills
  exact read_object hfills (finish_draft h)

end Record

end BenchCheckout.Json
