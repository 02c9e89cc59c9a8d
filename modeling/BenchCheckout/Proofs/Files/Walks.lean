import BenchCheckout.Proofs.Files.Links

/-!
# Where paths lead in trees without symbolic links

Without links, and for a path without `..`, the text alone says where it leads: `cwd.along path`.
The walk can only be refused on the way.

* `FileTree.find_eq_ok_iff`: what exists at a path is what is at its location, if the path is within
  the system's limits and does not go on behind a file.
* `FileTree.isDirectory_iff`, `FileTree.isFile_iff`, `FileTree.exists?_iff`: the three questions.
* `FileTree.spot_iff`: the directory entry that a path names.
-/

namespace BenchCheckout

/-- Where a path without `..` leads from a working directory if no link is on the way. -/
def Location.along (cwd : Location) (path : String) : Location := cwd.start path ++ Path.steps path

/-- The system takes the text as a path: it is not empty, has no zero character, and neither the
path nor one of its names is too long. -/
def Path.IsUsable (p : String) : Prop :=
  p ≠ "" ∧ '\x00' ∉ p.toList ∧ p.utf8ByteSize ≤ pathLimit ∧
    ∀ n ∈ Path.steps p, n.utf8ByteSize ≤ nameLimit

instance (p : String) : Decidable (Path.IsUsable p) := inferInstanceAs (Decidable (_ ∧ _))

/-- The last piece leads nowhere, so what it stands behind has to be a directory. -/
def Path.EndsIdle (ps : List String) : Prop := ∃ q, ps.getLast? = some q ∧ Path.isIdle q = true

namespace Path

theorem endsIdle_cons {p : String} {ps : List String} (h : ps ≠ []) :
    EndsIdle (p :: ps) ↔ EndsIdle ps := by
  rw [EndsIdle, EndsIdle, List.getLast?_cons, List.getLast?_eq_some_getLast h]
  simp

theorem endsIdle_singleton {p : String} : EndsIdle [p] ↔ isIdle p = true := by
  simp [EndsIdle]

theorem endsIdle_concat {ps : List String} {p : String} :
    EndsIdle (ps ++ [p]) ↔ isIdle p = true := by
  simp [EndsIdle]

end Path

namespace Location

theorem along_join {cwd : Location} {a b : String} (hb : Path.startsAtRoot b = false) :
    cwd.along (Path.join a b) = cwd.along a ++ Path.steps b := by
  rw [along, along, start, start, Path.startsAtRoot_join hb, Path.steps_join hb,
    List.append_assoc]

theorem along_join_step {cwd : Location} {a n : String} (hn : Path.IsStep n) :
    cwd.along (Path.join a n) = cwd.along a ++ [n] := by
  rw [along_join hn.startsAtRoot_eq, hn.steps_eq]

end Location

namespace FileTree

variable {t u : FileTree} {cwd here l : Location} {p : String}

/-- No entry is a symbolic link. -/
def SymlinkFree (t : FileTree) : Prop := ∀ l target, t.get? l ≠ some (.link target)

/-- What a walk along pieces ends with, if no link is on the way: the names of the pieces in a row,
and a directory if a piece follows that leads nowhere. -/
structure Leads (t : FileTree) (here : Location) (ps : List String) (l : Location) : Prop where
  location_eq : l = here ++ ps.filter (!Path.isIdle ·)
  names_fit : ∀ n ∈ ps.filter (!Path.isIdle ·), n.utf8ByteSize ≤ nameLimit
  start : ps ≠ [] → t.get? here = some .directory
  found : ps ≠ [] → ∃ e, t.get? l = some e ∧ (Path.EndsIdle ps → e = .directory)

theorem leads_nil : t.Leads here [] l ↔ l = here := by
  constructor
  · intro h
    simpa using h.location_eq
  · rintro rfl
    exact ⟨by simp, by simp, by simp, by simp⟩

theorem leads_cons_idle {q : String} {ps : List String} (hq : Path.isIdle q = true)
    (hd : t.get? here = some .directory) : t.Leads here (q :: ps) l ↔ t.Leads here ps l := by
  have hf : (q :: ps).filter (!Path.isIdle ·) = ps.filter (!Path.isIdle ·) := by simp [hq]
  by_cases hps : ps = []
  · subst hps
    rw [leads_nil]
    constructor
    · intro h
      simpa [hq] using h.location_eq
    · rintro rfl
      refine ⟨by simp [hq], by simp [hq], fun _ => hd, fun _ => ⟨_, hd, fun _ => rfl⟩⟩
  · constructor
    · rintro ⟨h1, h2, h3, h4⟩
      obtain ⟨e, he, hi⟩ := h4 (by simp)
      exact ⟨hf ▸ h1, hf ▸ h2, fun _ => hd,
        fun _ => ⟨e, he, fun h => hi ((Path.endsIdle_cons hps).mpr h)⟩⟩
    · rintro ⟨h1, h2, h3, h4⟩
      obtain ⟨e, he, hi⟩ := h4 hps
      exact ⟨hf ▸ h1, hf ▸ h2, fun _ => hd,
        fun _ => ⟨e, he, fun h => hi ((Path.endsIdle_cons hps).mp h)⟩⟩

theorem leads_cons_name {q : String} {ps : List String} (hq : Path.isIdle q = false)
    (hd : t.get? here = some .directory) (hfit : q.utf8ByteSize ≤ nameLimit)
    {e : Entry} (he : t.get? (here ++ [q]) = some e) :
    t.Leads here (q :: ps) l ↔ t.Leads (here ++ [q]) ps l := by
  have hf : (q :: ps).filter (!Path.isIdle ·) = q :: ps.filter (!Path.isIdle ·) := by simp [hq]
  by_cases hps : ps = []
  · subst hps
    rw [leads_nil]
    constructor
    · intro h
      simpa [hq] using h.location_eq
    · rintro rfl
      refine ⟨by simp [hq], by simpa [hq] using hfit, fun _ => hd, fun _ => ⟨e, he, ?_⟩⟩
      rw [Path.endsIdle_singleton, hq]
      simp
  · constructor
    · rintro ⟨h1, h2, h3, h4⟩
      obtain ⟨e', he', hi⟩ := h4 (by simp)
      rw [hf] at h1 h2
      refine ⟨by simpa using h1, fun n hn => h2 n (List.mem_cons_of_mem q hn), fun _ => ?_,
        fun _ => ⟨e', he', fun h => hi ((Path.endsIdle_cons hps).mpr h)⟩⟩
      cases hn : ps.filter (!Path.isIdle ·) with
      | nil =>
        -- Nothing but idle pieces follow, so the walk ends here, at a directory.
        have hl : l = here ++ [q] := by simpa [hn] using h1
        have hidle : Path.EndsIdle ps := by
          refine ⟨ps.getLast hps, List.getLast?_eq_some_getLast hps, ?_⟩
          have := List.filter_eq_nil_iff.mp hn _ (List.getLast_mem hps)
          simpa using this
        rw [← hl, he', hi ((Path.endsIdle_cons hps).mpr hidle)]
      | cons m ms =>
        rw [hn] at h1
        exact get?_of_append (k := m :: ms) (by simpa [h1] using he') (by simp)
    · rintro ⟨h1, h2, h3, h4⟩
      obtain ⟨e', he', hi⟩ := h4 hps
      refine ⟨by simpa [hf] using h1, ?_, fun _ => hd,
        fun _ => ⟨e', he', fun h => hi ((Path.endsIdle_cons hps).mp h)⟩⟩
      rw [hf]
      intro n hn
      rcases List.mem_cons.mp hn with rfl | hn
      · exact hfit
      · exact h2 n hn

theorem follow_eq_found_iff (ht : t.SymlinkFree)
    {onLink : Location → String → List String → Except Fault Place} {ps : List String}
    (hps : ".." ∉ ps) : t.follow onLink here ps = .ok (.found l) ↔ t.Leads here ps l := by
  induction ps generalizing here with
  | nil => simp [follow, leads_nil, eq_comm]
  | cons q ps ih =>
    have hup : q ≠ ".." := fun h => hps (h ▸ List.mem_cons_self)
    have ih' := fun here => @ih here (fun h => hps (List.mem_cons_of_mem q h))
    rw [follow]
    by_cases hd : t.get? here = some .directory
    · rw [if_neg (by simp [hd])]
      cases hq : Path.isIdle q with
      | true =>
        rw [if_pos rfl, ih', leads_cons_idle hq hd]
      | false =>
        rw [if_neg (by simp), if_neg hup]
        by_cases hfit : nameLimit < q.utf8ByteSize
        · rw [if_pos hfit]
          refine iff_of_false (by simp) fun h => ?_
          have := h.names_fit q (by simp [hq])
          omega
        · rw [if_neg hfit]
          cases he : t.get? (here ++ [q]) with
          | none =>
            refine iff_of_false (by simp only; split <;> simp) fun h => ?_
            obtain ⟨e, hl, -⟩ := h.found (by simp)
            rw [h.location_eq] at hl
            cases hn : ps.filter (!Path.isIdle ·) with
            | nil => simp [hq, hn, he] at hl
            | cons m ms =>
              have := get?_of_append (l := here ++ [q]) (k := m :: ms)
                (by simpa [hq, hn] using hl) (by simp)
              rw [he] at this
              cases this
          | some e =>
            have hl : t.Leads here (q :: ps) l ↔ t.Leads (here ++ [q]) ps l :=
              leads_cons_name hq hd (by omega) he
            cases e with
            | link target => exact absurd he (ht _ target)
            | directory => rw [hl]; exact ih' _
            | file bytes executable number => rw [hl]; exact ih' _
    · rw [if_pos hd]
      exact iff_of_false (by simp) fun h => hd (h.start (by simp))

theorem walk_eq_found_iff (ht : t.SymlinkFree) {links : Nat} {ps : List String}
    (hps : ".." ∉ ps) : t.walk links here ps = .ok (.found l) ↔ t.Leads here ps l := by
  cases links <;> exact follow_eq_found_iff ht hps

/-! ## Questions -/

theorem resolve_eq_found_iff (ht : t.SymlinkFree) (hp : ".." ∉ Path.steps p) :
    t.resolve cwd p = .ok (.found l) ↔
      Path.IsUsable p ∧ l = cwd.along p ∧
        ∃ e, t.get? l = some e ∧ (Path.EndsIdle (Path.pieces p) → e = .directory) := by
  have hup := Path.not_mem_pieces_of_not_mem_steps (n := "..") (by decide) hp
  have hne := Path.pieces_ne_nil p
  unfold resolve
  cases hc : t.checkPath cwd p with
  | error fault =>
    refine iff_of_false (by simp [bind, Except.bind]) fun ⟨⟨h1, h2, h3, h4⟩, hl, e, he, hi⟩ => ?_
    have : t.checkPath cwd p = .ok () := by
      refine checkPath_eq_ok_iff.mpr ⟨h1, h2, h3, ?_⟩
      rw [hl, Location.along] at he
      cases hs : Path.steps p with
      | nil =>
        have hidle : Path.EndsIdle (Path.pieces p) := by
          refine ⟨_, List.getLast?_eq_some_getLast hne, ?_⟩
          simpa using List.filter_eq_nil_iff.mp hs _ (List.getLast_mem hne)
        rw [hs, List.append_nil] at he
        rw [he, hi hidle]
      | cons n ns =>
        rw [hs] at he
        exact get?_of_append he (by simp)
    rw [this] at hc
    cases hc
  | ok =>
    show t.walk linkLimit (cwd.start p) (Path.pieces p) = _ ↔ _
    obtain ⟨h1, h2, h3, h4⟩ := checkPath_eq_ok_iff.mp hc
    rw [walk_eq_found_iff ht hup]
    constructor
    · intro h
      exact ⟨⟨h1, h2, h3, h.names_fit⟩, h.location_eq, h.found hne⟩
    · rintro ⟨h, hl, he⟩
      exact ⟨hl, h.2.2.2, fun _ => h4, fun _ => he⟩

/-- What exists at a path, and where: what is at the path's location. -/
theorem find_eq_ok_iff (ht : t.SymlinkFree) (hp : ".." ∉ Path.steps p) {e : Entry} :
    t.find cwd p = .ok (l, e) ↔
      Path.IsUsable p ∧ l = cwd.along p ∧ t.get? l = some e ∧
        (Path.EndsIdle (Path.pieces p) → e = .directory) := by
  rw [find_eq_ok, resolve_eq_found_iff ht hp]
  constructor
  · rintro ⟨⟨hp, hl, d, hd, hidle⟩, he⟩
    cases he.symm.trans hd
    exact ⟨hp, hl, he, hidle⟩
  · exact fun ⟨hp, hl, he, hidle⟩ => ⟨⟨hp, hl, e, he, hidle⟩, he⟩

theorem isDirectory_iff (ht : t.SymlinkFree) (hp : ".." ∉ Path.steps p) :
    t.isDirectory cwd p ↔ Path.IsUsable p ∧ t.get? (cwd.along p) = some .directory := by
  rw [isDirectory_iff_find]
  constructor
  · rintro ⟨l, hf⟩
    obtain ⟨husable, rfl, he, -⟩ := (find_eq_ok_iff ht hp).mp hf
    exact ⟨husable, he⟩
  · rintro ⟨husable, he⟩
    exact ⟨_, (find_eq_ok_iff ht hp).mpr ⟨husable, rfl, he, fun _ => rfl⟩⟩

theorem isFile_iff (ht : t.SymlinkFree) (hp : ".." ∉ Path.steps p) :
    t.isFile cwd p ↔
      Path.IsUsable p ∧ ¬ Path.EndsIdle (Path.pieces p) ∧
        ∃ bytes x n, t.get? (cwd.along p) = some (.file bytes x n) := by
  rw [isFile_iff_find]
  constructor
  · rintro ⟨l, bytes, x, n, hf⟩
    obtain ⟨husable, rfl, he, hidle⟩ := (find_eq_ok_iff ht hp).mp hf
    refine ⟨husable, fun h => ?_, bytes, x, n, he⟩
    cases hidle h
  · rintro ⟨husable, hidle, bytes, x, n, he⟩
    exact ⟨_, bytes, x, n,
      (find_eq_ok_iff ht hp).mpr ⟨husable, rfl, he, fun h => absurd h hidle⟩⟩

theorem exists?_iff (ht : t.SymlinkFree) (hp : ".." ∉ Path.steps p) :
    t.exists? cwd p ↔
      Path.IsUsable p ∧
        ∃ e, t.get? (cwd.along p) = some e ∧ (Path.EndsIdle (Path.pieces p) → e = .directory) := by
  rw [exists?_iff_find]
  constructor
  · rintro ⟨l, e, hf⟩
    obtain ⟨husable, rfl, he, hidle⟩ := (find_eq_ok_iff ht hp).mp hf
    exact ⟨husable, e, he, hidle⟩
  · rintro ⟨husable, e, he, hidle⟩
    exact ⟨_, e, (find_eq_ok_iff ht hp).mpr ⟨husable, rfl, he, hidle⟩⟩

/-- Without links, what is there and is no directory is a file. -/
theorem isFile_of_exists? (ht : t.SymlinkFree) (hp : ".." ∉ Path.steps p) (h : t.exists? cwd p)
    (hd : ¬ t.isDirectory cwd p) : t.isFile cwd p := by
  obtain ⟨husable, e, he, hidle⟩ := (exists?_iff ht hp).mp h
  have hned : e ≠ .directory := fun hed => hd ((isDirectory_iff ht hp).mpr ⟨husable, hed ▸ he⟩)
  refine (isFile_iff ht hp).mpr ⟨husable, fun hi => hned (hidle hi), ?_⟩
  cases e with
  | file bytes x number => exact ⟨_, _, _, he⟩
  | directory => exact absurd rfl hned
  | link target => exact absurd he (ht _ _)

theorem exists?_eq_false_of_get? (ht : t.SymlinkFree) (hp : ".." ∉ Path.steps p)
    (h : t.get? (cwd.along p) = none) : t.exists? cwd p = false := by
  rw [Bool.eq_false_iff, ne_eq, exists?_iff ht hp]
  rintro ⟨-, e, he, -⟩
  rw [h] at he
  cases he

/-- A path that the system takes and that leads nowhere: nothing is there, if no slash hides a
file. -/
theorem get?_eq_none_of_exists?_eq_false (ht : t.SymlinkFree) (hp : ".." ∉ Path.steps p)
    (husable : Path.IsUsable p)
    (hidle : ∀ e, t.get? (cwd.along p) = some e → Path.EndsIdle (Path.pieces p) → e = .directory)
    (h : t.exists? cwd p = false) : t.get? (cwd.along p) = none := by
  cases he : t.get? (cwd.along p) with
  | none => rfl
  | some e => cases h.symm.trans ((exists?_iff ht hp).mpr ⟨husable, e, he, hidle e he⟩)

end FileTree

/-! ## Directory entries -/

theorem Path.Ends.endsIdle_iff {p q n : String} (h : Path.Ends p q n) :
    Path.EndsIdle (Path.pieces p) ↔ Path.endsWithSlash p = true := by
  rw [h.pieces_eq]
  cases Path.endsWithSlash p with
  | true => simp [Path.EndsIdle, Path.isIdle]
  | false => simp [Path.EndsIdle, h.1.2]

theorem Location.along_ends {cwd : Location} {p q n : String} (h : Path.Ends p q n) :
    cwd.along p = cwd.along q ++ [n] := by
  rw [along, along, start, start, h.startsAtRoot_eq, h.steps_eq, List.append_assoc]

namespace FileTree

variable {t : FileTree} {cwd : Location} {p q n : String}

theorem get?_join_eq_none (ht : t.SymlinkFree) (hq : ".." ∉ Path.steps q) (hn : IsName n)
    (husable : Path.IsUsable (Path.join q n)) (h : t.exists? cwd (Path.join q n) = false) :
    t.get? (cwd.along (Path.join q n)) = none := by
  have hends := Path.ends_join (q := q) hn.isStep
  have hup := hends.up_not_mem_steps hq hn.2.2.1
  refine get?_eq_none_of_exists?_eq_false ht hup husable (fun _ _ hidle => ?_) h
  rw [hends.endsIdle_iff, Path.endsWithSlash_join hn.isStep] at hidle
  cases hidle

/-- The entry that a path names lies in the directory that the names before its last lead to. -/
theorem spot_iff (ht : t.SymlinkFree) (h : Path.Ends p q n) (hq : ".." ∉ Path.steps q)
    {s : Spot} :
    t.spot cwd p = .ok s ↔
      s = ⟨cwd.along q, n, Path.endsWithSlash p⟩ ∧
      '\x00' ∉ p.toList ∧ p.utf8ByteSize ≤ pathLimit ∧
      (∀ m ∈ Path.steps q, m.utf8ByteSize ≤ nameLimit) ∧
      t.get? (cwd.along q) = some .directory := by
  have hf : (Path.openPieces q ++ [""]).filter (!Path.isIdle ·) = Path.steps q := by
    rw [List.filter_append, Path.filter_openPieces]
    simp [Path.isIdle]
  have hstart : cwd.start p = cwd.start q := by rw [Location.start, h.startsAtRoot_eq]; rfl
  rw [spot_ends_iff h, checkPath_eq_ok_iff,
    walk_eq_found_iff ht (by simpa using Path.not_mem_openPieces hq), hstart]
  constructor
  · rintro ⟨⟨-, h1, h2, -⟩, ⟨hl, hfit, -, hfound⟩, hlast, hslash⟩
    obtain ⟨e, he, hi⟩ := hfound (by simp)
    rw [hf] at hl hfit
    obtain ⟨dir, last, slash⟩ := s
    simp only at hl hlast hslash
    refine ⟨by rw [hl, hlast, hslash, Location.along], h1, h2, hfit, ?_⟩
    rw [Location.along, ← hl, he, hi (Path.endsIdle_concat.mpr (by decide))]
  · rintro ⟨rfl, h1, h2, hfit, hd⟩
    have hstart : t.get? (cwd.start q) = some .directory := by
      cases hs : Path.steps q with
      | nil => rwa [Location.along, hs, List.append_nil] at hd
      | cons m ms =>
        rw [Location.along, hs] at hd
        exact get?_of_append hd (by simp)
    exact ⟨⟨h.ne_empty, h1, h2, hstart⟩, ⟨by rw [hf, Location.along], by rwa [hf],
      fun _ => hstart, fun _ => ⟨_, hd, fun _ => rfl⟩⟩, rfl, rfl⟩

end FileTree

end BenchCheckout
