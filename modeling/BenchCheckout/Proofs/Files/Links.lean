import BenchCheckout.Files.Calls
import BenchCheckout.Proofs.Path

/-!
# Walks through links

What holds of every walk, also in trees with symbolic links.

* `follow_cons_iff`: what the next piece of a walk can be; all that follows goes by it.
* `walk_stop`: a walk that gets somewhere can stop at each directory on its way.
* `walk_grows`: a walk gets to the same place in a larger tree, too.
* `walk_append`: a walk that gets somewhere goes on from there, with the links that are left.
* `locate_eq_ok`, `find_eq_ok`, `read_eq_ok`: what is found at a path is where it leads.
* `find_iff_walk`: an entry is found at a path where the walk along its pieces ends.
* `get?_dir_of_spot`: the entry that a path names is looked up in a directory.
-/

namespace BenchCheckout

/-- What two computations in a row come to, where both succeed. -/
theorem bind_eq_ok {ε α β : Type} {x : Except ε α} {f : α → Except ε β} {b : β} :
    x >>= f = .ok b ↔ ∃ a, x = .ok a ∧ f a = .ok b := by
  cases x with
  | error e => exact iff_of_false nofun (by simp)
  | ok a => exact ⟨fun h => ⟨a, rfl, h⟩, fun ⟨_, ha, h⟩ => Except.ok.inj ha ▸ h⟩

theorem IsName.isStep {n : String} (h : IsName n) : Path.IsStep n :=
  ⟨h.2.2.2.1, by simp [Path.isIdle, h.1, h.2.1]⟩

/-- A piece that leads down, to the entry of that name. -/
def LeadsDown (piece : String) : Prop :=
  Path.isIdle piece = false ∧ piece ≠ ".." ∧ piece.utf8ByteSize ≤ nameLimit

theorem IsName.leadsDown {n : String} (hn : IsName n) (hfit : n.utf8ByteSize ≤ nameLimit) :
    LeadsDown n :=
  ⟨hn.isStep.2, hn.2.2.1, hfit⟩

/-- The place of an entry, there or not. -/
def Place.location : Place → Location
  | found l => l
  | vacant dir n => dir ++ [n]

/-- Two entries between which no path tells a difference: files may differ in all that is in them. -/
inductive Entry.SameKind : Entry → Entry → Prop where
  | file {b c : ByteArray} {x y : Bool} {m n : Option Nat} : SameKind (.file b x m) (.file c y n)
  | directory : SameKind .directory .directory
  | link (target : String) : SameKind (.link target) (.link target)

theorem Entry.SameKind.refl (e : Entry) : e.SameKind e := by
  cases e with
  | file => exact .file
  | directory => exact .directory
  | link target => exact .link target

theorem Entry.SameKind.trans {d e f : Entry} (h : d.SameKind e) (h' : e.SameKind f) :
    d.SameKind f := by
  cases h with
  | file =>
    cases h'
    exact .file
  | directory => exact h'
  | link target => exact h'

namespace FileTree

/-- All that is in `t` is in `u`, with other contents of files at most. -/
def Grows (t u : FileTree) : Prop :=
  ∀ k e, t.get? k = some e → ∃ e', u.get? k = some e' ∧ e.SameKind e'

theorem Grows.of_get? {t u : FileTree} (h : ∀ k e, t.get? k = some e → u.get? k = some e) :
    t.Grows u := fun k e he => ⟨e, h k e he, .refl e⟩

theorem Grows.refl (t : FileTree) : t.Grows t := .of_get? fun _ _ he => he

theorem Grows.trans {t u v : FileTree} (h : t.Grows u) (h' : u.Grows v) : t.Grows v := by
  intro k e he
  obtain ⟨e', he', hkind⟩ := h k e he
  obtain ⟨e'', he'', hkind'⟩ := h' k e' he'
  exact ⟨e'', he'', hkind.trans hkind'⟩

theorem Grows.directory {t u : FileTree} (h : t.Grows u) {k : Location}
    (hk : t.get? k = some .directory) : u.get? k = some .directory := by
  obtain ⟨e, he, hkind⟩ := h k _ hk
  cases hkind
  exact he

variable {t u : FileTree} {cwd here l : Location} {p q : String} {a b ps : List String}
  {onLink onLink' : Location → String → List String → Except Fault Place} {links : Nat}
  {bytes : ByteArray}

/-- A prefix of the place of a directory is the place of a directory. -/
theorem get?_of_prefix {k : Location} (h : t.get? l = some .directory) (hk : k <+: l) :
    t.get? k = some .directory := by
  obtain ⟨j, rfl⟩ := hk
  by_cases hj : j = []
  · simpa [hj] using h
  · exact get?_of_append h hj

/-! ## One piece of a walk -/

theorem follow_idle (hd : t.get? here = some .directory) (hi : Path.isIdle p = true)
    (ps : List String) : t.follow onLink here (p :: ps) = t.follow onLink here ps := by
  rw [follow, if_neg (by simp [hd])]
  exact if_pos hi

theorem follow_up (hd : t.get? here = some .directory) (ps : List String) :
    t.follow onLink here (".." :: ps) = t.follow onLink here.dropLast ps := by
  rw [follow, if_neg (by simp [hd]), if_neg (by decide)]
  exact if_pos rfl

theorem follow_down (hd : t.get? here = some .directory) (hp : LeadsDown p) (ps : List String) :
    t.follow onLink here (p :: ps) = match t.get? (here ++ [p]) with
      | none => if ps.isEmpty then .ok (.vacant here p) else .error .noEntry
      | some (.link target) => onLink here target ps
      | some _ => t.follow onLink (here ++ [p]) ps := by
  rw [follow, if_neg (by simp [hd]), if_neg (by simp [hp.1]), if_neg hp.2.1]
  exact if_neg (Nat.not_lt.mpr hp.2.2)

/-- What the next piece can be, and how the walk goes on behind it, where it gets to `place`. -/
inductive NextPiece (t : FileTree)
    (onLink : Location → String → List String → Except Fault Place) (here : Location) (piece : String)
    (rest : List String) (place : Place) : Prop where
  | idle (idle : Path.isIdle piece = true) (goes : t.follow onLink here rest = .ok place)
  | up (up : piece = "..") (goes : t.follow onLink here.dropLast rest = .ok place)
  | free (down : LeadsDown piece) (none : t.get? (here ++ [piece]) = none) (last : rest = [])
    (place_eq : place = .vacant here piece)
  | link {target : String} (down : LeadsDown piece)
    (link : t.get? (here ++ [piece]) = some (.link target))
    (goes : onLink here target rest = .ok place)
  | entry {e : Entry} (down : LeadsDown piece) (entry : t.get? (here ++ [piece]) = some e)
    (not_link : ∀ target, e ≠ .link target)
    (goes : t.follow onLink (here ++ [piece]) rest = .ok place)

/-- A walk that gets somewhere takes its next piece in a directory. -/
theorem follow_cons_iff {place : Place} :
    t.follow onLink here (p :: ps) = .ok place ↔
      t.get? here = some .directory ∧ t.NextPiece onLink here p ps place := by
  constructor
  · intro h
    rw [follow] at h
    split at h
    · cases h
    rename_i hd
    refine ⟨Classical.not_not.mp hd, ?_⟩
    split at h
    · rename_i hi
      exact .idle hi h
    rename_i hi
    split at h
    · rename_i hup
      exact .up hup h
    rename_i hup
    split at h
    · cases h
    rename_i hfit
    have hp : LeadsDown p := ⟨by simpa using hi, hup, Nat.le_of_not_lt hfit⟩
    split at h
    · rename_i he
      split at h
      · rename_i hps
        exact .free hp he (List.isEmpty_iff.mp hps) (Except.ok.inj h).symm
      · cases h
    · rename_i he
      exact .link hp he h
    · rename_i e hne he
      exact .entry hp he hne h
  · rintro ⟨hd, h⟩
    cases h with
    | idle hi h => rw [follow_idle hd hi, h]
    | up hup h => rw [hup, follow_up hd, h]
    | free hp he hps hplace => rw [follow_down hd hp, he, hps, hplace]; rfl
    | link hp he h => rw [follow_down hd hp, he, ← h]
    | @entry e hp he hne h =>
      rw [follow_down hd hp, he]
      cases e with
      | link target => exact absurd rfl (hne target)
      | directory => exact h
      | file bytes executable number => exact h

/-! ## Walks -/

/-- A walk with an idle piece at its end goes on behind the end only at a directory. -/
theorem follow_idle_iff {place : Place} (hp : Path.isIdle p = true) :
    t.follow onLink here [p] = .ok place ↔
      t.get? here = some .directory ∧ place = .found here := by
  rw [follow_cons_iff]
  refine and_congr_right fun _ => ⟨fun h => ?_, fun h => .idle hp (h ▸ rfl)⟩
  have hdown : ¬ LeadsDown p := fun h => by rw [h.1] at hp; cases hp
  cases h with
  | idle _ h => exact (Except.ok.inj h).symm
  | up hup => exact absurd hp (by rw [hup]; decide)
  | free hp => exact absurd hp hdown
  | link hp => exact absurd hp hdown
  | entry hp => exact absurd hp hdown

theorem follow_empty_iff {place : Place} :
    t.follow onLink here [""] = .ok place ↔
      t.get? here = some .directory ∧ place = .found here :=
  follow_idle_iff (by decide)

theorem get?_of_follow_last (hp : Path.isIdle p = true ∨ p = "..")
    (hlink : ∀ x y z, onLink x y (z ++ [p]) = .ok (.found l) → t.get? l = some .directory)
    (h : t.follow onLink here (ps ++ [p]) = .ok (.found l)) : t.get? l = some .directory := by
  induction ps generalizing here with
  | nil =>
    obtain ⟨hd, hnext⟩ := follow_cons_iff.mp h
    have hdown : ¬ LeadsDown p := fun h => hp.elim (by simp [h.1]) h.2.1
    cases hnext with
    | idle _ h =>
      cases h
      exact hd
    | up _ h =>
      cases h
      exact get?_of_prefix hd (List.dropLast_prefix here)
    | free hp => exact absurd hp hdown
    | link hp => exact absurd hp hdown
    | entry hp => exact absurd hp hdown
  | cons q ps ih =>
    cases (follow_cons_iff.mp h).2 with
    | idle hi h => exact ih h
    | up hup h => exact ih h
    | free _ _ _ hplace => cases hplace
    | link _ _ h => exact hlink _ _ _ h
    | entry _ _ _ h => exact ih h

/-- A walk with an idle piece at its end, or with one that goes up, gets to a directory. -/
theorem get?_of_walk_last (hp : Path.isIdle p = true ∨ p = "..")
    (h : t.walk links here (ps ++ [p]) = .ok (.found l)) : t.get? l = some .directory := by
  induction links generalizing here ps with
  | zero => exact get?_of_follow_last hp (by simp) h
  | succ n ih =>
    refine get?_of_follow_last hp (fun x y z hz => ?_) h
    rw [← List.append_assoc] at hz
    exact ih hz

theorem get?_of_walk_concat (h : t.walk links here (ps ++ [""]) = .ok (.found l)) :
    t.get? l = some .directory :=
  get?_of_walk_last (.inl (by decide)) h

theorem follow_of_concat
    (hlink : ∀ x y z, onLink x y (z ++ [""]) = .ok (.found l) → onLink x y z = .ok (.found l))
    (h : t.follow onLink here (ps ++ [""]) = .ok (.found l)) :
    t.follow onLink here ps = .ok (.found l) := by
  induction ps generalizing here with
  | nil => rw [(follow_empty_iff.mp h).2, follow]
  | cons q ps ih =>
    obtain ⟨hd, hnext⟩ := follow_cons_iff.mp h
    refine follow_cons_iff.mpr ⟨hd, ?_⟩
    cases hnext with
    | idle hi h => exact .idle hi (ih h)
    | up hup h => exact .up hup (ih h)
    | free _ _ _ hplace => cases hplace
    | link hp he h => exact .link hp he (hlink _ _ _ h)
    | entry hp he hne h => exact .entry hp he hne (ih h)

theorem follow_stop
    (hlink : ∀ x y z, onLink x y (z ++ q :: b) = .ok (.found l) →
      ∃ d, onLink' x y (z ++ [""]) = .ok (.found d) ∧ (IsName q → ∃ e, t.get? (d ++ [q]) = some e))
    (h : t.follow onLink here (a ++ q :: b) = .ok (.found l)) :
    ∃ d, t.follow onLink' here (a ++ [""]) = .ok (.found d) ∧
      (IsName q → ∃ e, t.get? (d ++ [q]) = some e) := by
  induction a generalizing here with
  | nil =>
    obtain ⟨hd, hnext⟩ := follow_cons_iff.mp h
    refine ⟨here, follow_empty_iff.mpr ⟨hd, rfl⟩, fun hq => ?_⟩
    cases hnext with
    | idle hi => exact absurd hi (by simp [hq.isStep.2])
    | up hup => exact absurd hup hq.2.2.1
    | free _ _ _ hplace => cases hplace
    | link _ he => exact ⟨_, he⟩
    | entry _ he => exact ⟨_, he⟩
  | cons c a ih =>
    obtain ⟨hd, hnext⟩ := follow_cons_iff.mp h
    have hgoes {d : Location} (h : t.NextPiece onLink' here c (a ++ [""]) (.found d)) :
        t.follow onLink' here (c :: a ++ [""]) = .ok (.found d) := follow_cons_iff.mpr ⟨hd, h⟩
    cases hnext with
    | idle hi h => exact (ih h).imp fun d hd => ⟨hgoes (.idle hi hd.1), hd.2⟩
    | up hup h => exact (ih h).imp fun d hd => ⟨hgoes (.up hup hd.1), hd.2⟩
    | free _ _ _ hplace => cases hplace
    | link hp he h => exact (hlink _ _ _ h).imp fun d hd => ⟨hgoes (.link hp he hd.1), hd.2⟩
    | entry hp he hne h => exact (ih h).imp fun d hd => ⟨hgoes (.entry hp he hne hd.1), hd.2⟩

/-- A walk that gets past a piece can stop before it, at a directory. If the piece is a name, the
directory has it. -/
theorem walk_stop (h : t.walk links here (a ++ q :: b) = .ok (.found l)) :
    ∃ d, t.walk links here (a ++ [""]) = .ok (.found d) ∧
      (IsName q → ∃ e, t.get? (d ++ [q]) = some e) := by
  induction links generalizing here a with
  | zero => exact follow_stop (by simp) h
  | succ n ih =>
    refine follow_stop (fun x y z hz => ?_) h
    rw [← List.append_assoc] at hz
    obtain ⟨d, hd, hq⟩ := ih hz
    exact ⟨d, by rw [← List.append_assoc]; exact hd, hq⟩

theorem follow_grows {place : Place} (htu : t.Grows u)
    (hplace : ∀ dir n, place = .vacant dir n → ∃ e, u.get? (dir ++ [n]) = some e ∧
      ∀ target, e ≠ .link target)
    (hlink : ∀ x y z, onLink x y z = .ok place → onLink' x y z = .ok (.found place.location))
    (h : t.follow onLink here ps = .ok place) :
    u.follow onLink' here ps = .ok (.found place.location) := by
  induction ps generalizing here with
  | nil =>
    rw [follow, Except.ok.injEq] at h
    rw [follow, ← h]
    rfl
  | cons c ps ih =>
    obtain ⟨hd, hnext⟩ := follow_cons_iff.mp h
    refine follow_cons_iff.mpr ⟨htu.directory hd, ?_⟩
    cases hnext with
    | idle hi h => exact .idle hi (ih h)
    | up hup h => exact .up hup (ih h)
    | free hp he hps hfree =>
      -- The place was free, and something is there now.
      obtain ⟨e, he', hne⟩ := hplace _ _ hfree
      subst hps hfree
      exact .entry hp he' hne rfl
    | link hp he h =>
      obtain ⟨e', he', hkind⟩ := htu _ _ he
      cases hkind
      exact .link hp he' (hlink _ _ _ h)
    | entry hp he hne h =>
      obtain ⟨e', he', hkind⟩ := htu _ _ he
      refine .entry hp he' (fun target hlink => ?_) (ih h)
      subst hlink
      cases hkind
      exact hne _ rfl

/-- A walk gets to the same place in a tree that has more, or other contents of files. -/
theorem walk_grows {place : Place} (htu : t.Grows u)
    (hplace : ∀ dir n, place = .vacant dir n → ∃ e, u.get? (dir ++ [n]) = some e ∧
      ∀ target, e ≠ .link target)
    (h : t.walk links here ps = .ok place) :
    u.walk links here ps = .ok (.found place.location) := by
  induction links generalizing here ps with
  | zero => exact follow_grows htu hplace (by simp) h
  | succ n ih => exact follow_grows htu hplace (fun x y z hz => ih hz) h

theorem walk_mono (htu : ∀ k e, t.get? k = some e → u.get? k = some e)
    (h : t.walk links here ps = .ok (.found l)) : u.walk links here ps = .ok (.found l) :=
  walk_grows (.of_get? htu) (fun _ _ hv => by cases hv) h

/-- A walk that may stop at an empty piece gets to the same place without it. -/
theorem walk_of_concat (h : t.walk links here (ps ++ [""]) = .ok (.found l)) :
    t.walk links here ps = .ok (.found l) := by
  induction links generalizing here ps with
  | zero => exact follow_of_concat (by simp) h
  | succ n ih =>
    refine follow_of_concat (fun x y z hz => ?_) h
    rw [← List.append_assoc] at hz
    exact ih hz

/-- What holds of the walks on from `l` holds of those that get to `l` first. -/
theorem follow_append {qs : List String} {P : Except Fault Place → Prop}
    (hend : P (t.follow onLink' l qs))
    (hlink : ∀ x y z, onLink x y z = .ok (.found l) → P (onLink' x y (z ++ qs)))
    (h : t.follow onLink here ps = .ok (.found l)) : P (t.follow onLink' here (ps ++ qs)) := by
  induction ps generalizing here with
  | nil =>
    cases h
    exact hend
  | cons c ps ih =>
    obtain ⟨hd, hnext⟩ := follow_cons_iff.mp h
    rw [List.cons_append]
    cases hnext with
    | idle hi h =>
      rw [follow_idle hd hi]
      exact ih h
    | up hup h =>
      rw [hup, follow_up hd]
      exact ih h
    | free _ _ _ hplace => cases hplace
    | link hp he h =>
      rw [follow_down hd hp, he]
      exact hlink _ _ _ h
    | @entry e hp he hne h =>
      rw [follow_down hd hp, he]
      cases e with
      | link target => exact absurd rfl (hne target)
      | directory => exact ih h
      | file bytes executable number => exact ih h

/-- A walk that gets somewhere goes on from there. With another number of links to follow it does as
well, unless they are too few for the way. -/
theorem walk_append (h : t.walk links here ps = .ok (.found l)) (more : Nat) (qs : List String) :
    (∃ left ≤ more, t.walk more here (ps ++ qs) = t.walk left l qs) ∨
      t.walk more here (ps ++ qs) = .error .tooManyLinks := by
  induction links generalizing here ps more with
  | zero =>
    cases more <;>
      exact follow_append (P := fun r => (∃ left ≤ _, r = t.walk left l qs) ∨ r = _)
        (.inl ⟨_, Nat.le_refl _, rfl⟩) (by simp) h
  | succ n ih =>
    cases more with
    | zero =>
      exact follow_append (P := fun r => (∃ left ≤ 0, r = t.walk left l qs) ∨ r = _)
        (.inl ⟨0, Nat.le_refl _, rfl⟩) (fun _ _ _ _ => .inr rfl) h
    | succ more =>
      refine follow_append (P := fun r => (∃ left ≤ more + 1, r = t.walk left l qs) ∨ r = _)
        (.inl ⟨more + 1, Nat.le_refl _, rfl⟩) (fun x y z hz => ?_) h
      rw [← List.append_assoc]
      exact (ih hz more).imp_left fun ⟨left, hle, hqs⟩ => ⟨left, Nat.le_succ_of_le hle, hqs⟩

/-- A walk goes on along pieces that need no links. -/
theorem walk_append_of_follow {qs : List String} {place : Place}
    (hgoes : ∀ onLink : Location → String → List String → Except Fault Place,
      t.follow onLink l qs = .ok place)
    (h : t.walk links here ps = .ok (.found l)) : t.walk links here (ps ++ qs) = .ok place := by
  induction links generalizing here ps with
  | zero => exact follow_append (P := fun r => r = _) (hgoes _) (by simp) h
  | succ m ih =>
    refine follow_append (P := fun r => r = _) (hgoes _) (fun x y z hz => ?_) h
    rw [← List.append_assoc]
    exact ih hz

/-- A walk to a directory can go on to a directory in it. -/
theorem walk_concat {n : String} (hn : IsName n) (hfit : n.utf8ByteSize ≤ nameLimit)
    (he : t.get? (l ++ [n]) = some .directory)
    (h : t.walk links here (ps ++ [""]) = .ok (.found l)) :
    t.walk links here (ps ++ [n]) = .ok (.found (l ++ [n])) := by
  refine walk_append_of_follow (fun onLink => ?_) (walk_of_concat h)
  rw [follow_down (get?_of_walk_concat h) (hn.leadsDown hfit), he]
  rfl

/-- A walk to a directory may stop there at an empty piece. -/
theorem walk_concat_empty (hd : t.get? l = some .directory)
    (h : t.walk links here ps = .ok (.found l)) :
    t.walk links here (ps ++ [""]) = .ok (.found l) :=
  walk_append_of_follow (fun _ => by rw [follow_idle hd (by decide), follow]) h

/-! ## What a path leads to -/

theorem locate_eq_ok : t.locate cwd p = .ok l ↔ t.resolve cwd p = .ok (.found l) := by
  unfold locate
  rw [bind_eq_ok]
  constructor
  · rintro ⟨place, hr, h⟩
    cases place with
    | found k => rw [hr, Except.ok.inj h]
    | vacant dir name => cases h
  · exact fun hr => ⟨_, hr, rfl⟩

theorem find_eq_ok {e : Entry} :
    t.find cwd p = .ok (l, e) ↔ t.resolve cwd p = .ok (.found l) ∧ t.get? l = some e := by
  unfold find
  rw [bind_eq_ok]
  constructor
  · rintro ⟨m, hm, h⟩
    split at h
    · rename_i d hd
      cases h
      exact ⟨locate_eq_ok.mp hm, hd⟩
    · cases h
  · rintro ⟨hl, he⟩
    exact ⟨l, locate_eq_ok.mpr hl, by rw [he]⟩

theorem find_iff_walk {e : Entry} :
    t.find cwd p = .ok (l, e) ↔
      t.checkPath cwd p = .ok () ∧
        t.walk linkLimit (cwd.start p) (Path.pieces p) = .ok (.found l) ∧ t.get? l = some e := by
  rw [find_eq_ok, resolve, bind_eq_ok]
  constructor
  · rintro ⟨⟨⟨⟩, hc, hw⟩, he⟩
    exact ⟨hc, hw, he⟩
  · rintro ⟨hc, hw, he⟩
    exact ⟨⟨(), hc, hw⟩, he⟩

theorem exists?_iff_find : t.exists? cwd p ↔ ∃ l e, t.find cwd p = .ok (l, e) := by
  unfold exists?
  rcases t.find cwd p with fault | ⟨l, e⟩ <;> simp [Except.toBool]

theorem isDirectory_iff_find :
    t.isDirectory cwd p ↔ ∃ l, t.find cwd p = .ok (l, .directory) := by
  unfold isDirectory
  rcases t.find cwd p with fault | ⟨l, _ | _ | _⟩ <;> simp [Entry.isDirectory]

theorem isFile_iff_find :
    t.isFile cwd p ↔ ∃ l bytes x n, t.find cwd p = .ok (l, .file bytes x n) := by
  unfold isFile
  rcases t.find cwd p with fault | ⟨l, _ | _ | _⟩ <;> simp [Entry.isFile]

/-- What is read at a path is the content of the file that it leads to. -/
theorem read_eq_ok :
    t.read cwd p = .ok bytes ↔ ∃ l executable number, t.locate cwd p = .ok l ∧
      t.get? l = some (.file bytes executable number) := by
  simp only [locate_eq_ok, ← find_eq_ok]
  unfold read
  rcases t.find cwd p with fault | ⟨l, b, x, n | _ | target⟩ <;>
    simp [bind, Except.bind]

theorem fromUTF8?_toUTF8 (s : String) : String.fromUTF8? s.toUTF8 = some s := by
  have h : s.toUTF8.IsValidUTF8 := s.isValidUTF8
  rw [String.fromUTF8?, dif_pos h]
  rfl

theorem readText_of_read {text : String} (h : t.read cwd p = .ok text.toUTF8) :
    t.readText cwd p = .ok text := by
  simp only [readText, h, bind, Except.bind, fromUTF8?_toUTF8]

/-! ## Entries that paths name -/

theorem hasStart_iff : t.hasStart cwd p ↔ t.get? (cwd.start p) = some .directory := beq_iff_eq

theorem checkPath_eq_ok_iff :
    t.checkPath cwd p = .ok () ↔
      p ≠ "" ∧ '\x00' ∉ p.toList ∧ p.utf8ByteSize ≤ pathLimit ∧
        t.get? (cwd.start p) = some .directory := by
  unfold checkPath
  by_cases h0 : '\x00' ∈ p.toList
  · simp [h0]
  by_cases h1 : p = ""
  · simp [h1]
  by_cases h2 : pathLimit < p.utf8ByteSize
  · simp [h0, h1, h2, Nat.not_le_of_lt h2]
  by_cases h3 : t.get? (cwd.start p) = some .directory
  · simp [h0, h1, h2, h3, Nat.le_of_not_lt h2]
  · simp [h0, h1, h2, h3]

/-- The directory of a path that can be looked up can be looked up. -/
theorem checkPath_of_join {n : String} (hq : q ≠ "") (hn : Path.IsStep n)
    (h : t.checkPath cwd (Path.join q n) = .ok ()) : t.checkPath cwd q = .ok () := by
  obtain ⟨-, h1, h2, h3⟩ := checkPath_eq_ok_iff.mp h
  obtain ⟨s, hs⟩ := Path.toList_join (a := q) hn
  rw [Location.start, Path.startsAtRoot_join hn.startsAtRoot_eq] at h3
  refine checkPath_eq_ok_iff.mpr ⟨hq, fun hz => h1 ?_, ?_, h3⟩
  · rw [hs]
    simp [hz]
  · exact Nat.le_trans (Path.utf8ByteSize_le_join hn) h2

theorem pieces_of_dropWhile {p last : String} {before : List String}
    (h : (Path.pieces p).reverse.dropWhile (· == "") = last :: before) :
    ∃ k, Path.pieces p = before.reverse ++ last :: List.replicate k "" := by
  have ht := List.takeWhile_append_dropWhile (p := (· == "")) (l := (Path.pieces p).reverse)
  have hr : (Path.pieces p).reverse.takeWhile (· == "") =
      List.replicate ((Path.pieces p).reverse.takeWhile (· == "")).length "" := by
    have hall := List.all_takeWhile (p := (· == "")) (l := (Path.pieces p).reverse)
    exact List.eq_replicate_of_mem fun x hx => by simpa using List.all_eq_true.mp hall x hx
  refine ⟨((Path.pieces p).reverse.takeWhile (· == "")).length, ?_⟩
  rw [h, hr] at ht
  have := congrArg List.reverse ht
  simpa using this.symm

/-- A path names the entry of its last name in a directory that its other pieces lead to. -/
theorem spot_eq_ok {s : Spot} (h : t.spot cwd p = .ok s) :
    t.checkPath cwd p = .ok () ∧
      (s = ⟨[], "", true⟩ ∨
        ∃ ps k, Path.pieces p = ps ++ s.last :: List.replicate k "" ∧
          t.walk linkLimit (cwd.start p) (ps ++ [""]) = .ok (.found s.dir)) := by
  unfold spot at h
  obtain ⟨_, hc, h⟩ := bind_eq_ok.mp h
  refine ⟨hc, ?_⟩
  split at h
  · cases h
    exact .inl rfl
  · rename_i last before hp
    obtain ⟨place, hw, h⟩ := bind_eq_ok.mp h
    cases place with
    | found dir =>
      cases h
      obtain ⟨k, hk⟩ := pieces_of_dropWhile hp
      exact .inr ⟨_, k, hk, hw⟩
    | vacant dir name => cases h

/-- A path that names an entry without a slash behind it has the entry's name as its last piece. -/
theorem spot_eq_ok_of_slash {s : Spot} (h : t.spot cwd p = .ok s) (hslash : s.slash = false) :
    ∃ ps, Path.pieces p = ps ++ [s.last] ∧
      t.walk linkLimit (cwd.start p) (ps ++ [""]) = .ok (.found s.dir) := by
  have hend : Path.endsWithSlash p = false := by
    unfold spot at h
    obtain ⟨-, -, h⟩ := bind_eq_ok.mp h
    split at h
    · cases h
      cases hslash
    · obtain ⟨place, -, h⟩ := bind_eq_ok.mp h
      cases place <;> cases h
      exact hslash
  rcases (spot_eq_ok h).2 with rfl | ⟨ps, k, hk, hw⟩
  · cases hslash
  · cases k with
    | zero => exact ⟨ps, hk, hw⟩
    | succ k =>
      -- An empty piece behind the name would be a slash at the end.
      obtain ⟨m, ms, hm⟩ := List.exists_cons_of_ne_nil (l := ps ++ s.last :: List.replicate k "")
        (by simp)
      rw [List.replicate_succ', ← List.cons_append, ← List.append_assoc, hm] at hk
      rw [Path.endsWithSlash_of_pieces hk] at hend
      cases hend

theorem dropWhile_of_ends {n : String} (h : Path.Ends p q n) :
    (Path.pieces p).reverse.dropWhile (· == "") = n :: (Path.openPieces q).reverse := by
  rw [h.pieces_eq, Path.dropWhile_reverse_of_last (by simp) (by simp [h.1.ne_empty])]

/-- A path that ends in a name names the entry of it in the directory before. -/
theorem spot_ends_iff {n : String} (h : Path.Ends p q n) {s : Spot} :
    t.spot cwd p = .ok s ↔
      t.checkPath cwd p = .ok () ∧
      t.walk linkLimit (cwd.start p) (Path.openPieces q ++ [""]) = .ok (.found s.dir) ∧
      s.last = n ∧ s.slash = Path.endsWithSlash p := by
  have hr := dropWhile_of_ends h
  unfold spot
  cases t.checkPath cwd p with
  | error fault => simp [bind, Except.bind]
  | ok =>
    simp only [hr, bind, Except.bind, List.reverse_reverse]
    cases t.walk linkLimit (cwd.start p) (Path.openPieces q ++ [""]) with
    | error fault => simp
    | ok place =>
      cases place with
      | vacant dir name => simp
      | found dir =>
        obtain ⟨d, last, slash⟩ := s
        simp [eq_comm]

/-- A path that leads somewhere names an entry, and if that entry has a name it exists. -/
theorem spot_of_resolve (h : t.resolve cwd p = .ok (.found l)) :
    ∃ s, t.spot cwd p = .ok s ∧ (IsName s.last → ∃ e, t.get? s.location = some e) := by
  unfold resolve at h
  obtain ⟨_, hc, hw⟩ := bind_eq_ok.mp h
  unfold spot
  rw [hc]
  simp only [bind, Except.bind]
  cases hp : (Path.pieces p).reverse.dropWhile (· == "") with
  | nil => exact ⟨_, rfl, fun hn => absurd rfl hn.1⟩
  | cons last before =>
    obtain ⟨k, hk⟩ := pieces_of_dropWhile hp
    rw [hk] at hw
    obtain ⟨d, hd, hq⟩ := walk_stop hw
    simp only [hd]
    exact ⟨_, rfl, hq⟩

/-- The entry that a path names is looked up in a directory. -/
theorem get?_dir_of_spot {s : Spot} (h : t.spot cwd p = .ok s) :
    t.get? s.dir = some .directory := by
  rcases (spot_eq_ok h).2 with rfl | ⟨ps, k, -, hw⟩
  · exact t.get?_root
  · exact get?_of_walk_concat hw

end FileTree

end BenchCheckout
