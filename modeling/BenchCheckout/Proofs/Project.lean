import BenchCheckout.Checkout
import BenchCheckout.Proofs.Path

/-!
# Texts that name a project

`ProjectId.Spells raw subject bugId`: `raw` is `subject`, an underscore and `bugId`, both of them
not empty, and with the characters of ASCII that each may have.

* `ProjectId.spells_iff`: what a text spells is what it is the text of.
* `readProject_grammar`: a text is read exactly if it spells an id, and every other one is refused.
-/

namespace BenchCheckout

namespace ProjectId

variable {raw subject bugId : String} {p : ProjectId} {c : Char}

/-- A letter or a digit of ASCII. -/
def IsLetterOrDigit (c : Char) : Prop :=
  ('A' ≤ c ∧ c ≤ 'Z') ∨ ('a' ≤ c ∧ c ≤ 'z') ∨ ('0' ≤ c ∧ c ≤ '9')

/-- `raw` is written as an id with these two parts is. -/
structure Spells (raw subject bugId : String) : Prop where
  raw_eq : raw = subject ++ "_" ++ bugId
  subject_ne : subject ≠ ""
  subject_chars : ∀ c ∈ subject.toList, IsLetterOrDigit c
  bugId_ne : bugId ≠ ""
  bugId_chars : ∀ c ∈ bugId.toList, '0' ≤ c ∧ c ≤ '9'

theorem isDigit_iff : c.isDigit ↔ '0' ≤ c ∧ c ≤ '9' := by
  simp only [Char.isDigit, Bool.and_eq_true, decide_eq_true_eq, Char.le_def]

theorem isAlphanum_iff : c.isAlphanum ↔ IsLetterOrDigit c := by
  have hupper : c.isUpper = decide ('A' ≤ c ∧ c ≤ 'Z') := rfl
  have hlower : c.isLower = (decide ('a' ≤ c) && decide (c ≤ 'z')) := rfl
  have halpha : c.isAlpha = (c.isUpper || c.isLower) := rfl
  simp only [IsLetterOrDigit, Char.isAlphanum, halpha, hupper, hlower, Bool.or_eq_true,
    Bool.and_eq_true, decide_eq_true_eq, isDigit_iff, or_assoc]

theorem spells_iff :
    Spells raw subject bugId ↔
      ∃ p : ProjectId, raw = p.text ∧ p.subject = subject ∧ p.bugId = bugId := by
  constructor
  · rintro ⟨rfl, hs, hsubject, hb, hbugId⟩
    exact ⟨⟨subject, bugId, ⟨hs, fun c hc => isAlphanum_iff.mpr (hsubject c hc)⟩,
      ⟨hb, fun c hc => isDigit_iff.mpr (hbugId c hc)⟩⟩, rfl, rfl, rfl⟩
  · rintro ⟨p, rfl, rfl, rfl⟩
    exact ⟨rfl, p.isSubject.1, fun c hc => isAlphanum_iff.mp (p.isSubject.2 c hc),
      p.isBugId.1, fun c hc => isDigit_iff.mp (p.isBugId.2 c hc)⟩

/-- Zeros before the digits of a bug make another bug. -/
theorem Spells.zeros (h : Spells raw subject bugId) (k : Nat) :
    Spells (subject ++ "_" ++ (String.ofList (List.replicate k '0') ++ bugId)) subject
      (String.ofList (List.replicate k '0') ++ bugId) := by
  refine ⟨rfl, h.subject_ne, h.subject_chars, by simp [h.bugId_ne], fun c hc => ?_⟩
  rw [String.toList_append, String.toList_ofList, List.mem_append] at hc
  rcases hc with hc | hc
  · rw [List.eq_of_mem_replicate hc]
    decide
  · exact h.bugId_chars c hc

end ProjectId

open ProjectId

/-- What reading a text comes to, on every host and at every moment. -/
theorem runOn_readProject (raw : String) (host : Host) (w : World) :
    (∃ p : ProjectId, raw = p.text ∧ (readProject raw).runOn host w = (.ok p, w)) ∨
    ((∀ p : ProjectId, raw ≠ p.text) ∧
      (readProject raw).runOn host w = (.error (.ofCause (.invalidProject raw)), w)) := by
  unfold readProject
  cases h : parse? raw with
  | some p => exact .inl ⟨p, parse?_eq_some_iff.mp h, rfl⟩
  | none =>
    refine .inr ⟨?_, rfl⟩
    rintro p rfl
    rw [parse?_text] at h
    cases h

theorem runOn_readProject_eq_ok {raw : String} {host : Host} {w : World} {p : ProjectId} :
    (readProject raw).runOn host w = (.ok p, w) ↔ raw = p.text := by
  rcases runOn_readProject raw host w with ⟨q, rfl, hq⟩ | ⟨hne, herror⟩
  · rw [hq]
    simp only [Prod.mk.injEq, Except.ok.injEq, and_true]
    exact ⟨fun h => h ▸ rfl, text_injective⟩
  · simp [herror, hne p]

/-- A text is read exactly if it spells an id, and what is read are the parts that it spells. Every
other text is refused, and the refusal names it. So an id's text is read as that id, what is read
has the text that was given, and no zero is lost. Nothing is touched in any case. -/
theorem readProject_grammar (raw : String) (host : Host) (w : World) :
    (∀ subject bugId,
      (∃ p : ProjectId, (readProject raw).runOn host w = (.ok p, w) ∧
        p.subject = subject ∧ p.bugId = bugId) ↔ Spells raw subject bugId) ∧
    ((readProject raw).runOn host w = (.error (.ofCause (.invalidProject raw)), w) ↔
      ¬ ∃ subject bugId, Spells raw subject bugId) ∧
    (∀ p : ProjectId, (readProject raw).runOn host w = (.ok p, w) ↔ raw = p.text) ∧
    ∀ (p : ProjectId) (k : Nat), ∃ q : ProjectId,
      (readProject (p.subject ++ "_" ++ (String.ofList (List.replicate k '0') ++ p.bugId))).runOn
        host w = (.ok q, w) ∧
      q.subject = p.subject ∧ q.bugId = String.ofList (List.replicate k '0') ++ p.bugId := by
  refine ⟨fun subject bugId => ?_, ?_, fun p => runOn_readProject_eq_ok, fun p k => ?_⟩
  · simp only [runOn_readProject_eq_ok, spells_iff]
  · simp only [spells_iff]
    rcases runOn_readProject raw host w with ⟨q, rfl, hq⟩ | ⟨hne, herror⟩
    · rw [hq]
      refine iff_of_false (by simp) fun h => h ⟨_, _, q, rfl, rfl, rfl⟩
    · exact iff_of_true herror fun ⟨_, _, p, hp, _⟩ => hne p hp
  · have hp : Spells p.text p.subject p.bugId := spells_iff.mpr ⟨p, rfl, rfl, rfl⟩
    simp only [runOn_readProject_eq_ok]
    exact spells_iff.mp (hp.zeros k)

end BenchCheckout
