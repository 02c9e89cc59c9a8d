import BenchCheckout.Proofs.Files.Landing

/-!
# Removing inside a directory

In a tree without links, a walk along pieces that never go up past their start stays below its
start. So what is removed at an inner path of a directory lies below the directory, and the
directory itself stays.

* `Path.IsInner`: the paths that stay inside, seen in the text alone.
* `FileTree.follow_stays`: where they lead.
* `FileTree.LosesBelow`: a tree that has lost entries below one location, and nothing else.
* `FileTree.removeFile_inner`, `FileTree.removeTree_inner`: what a removal at an inner path loses.
-/

namespace BenchCheckout

namespace Path

/-- So deep below their start, the pieces never go up past it. -/
def staysInside : Nat → List String → Bool
  | _, [] => true
  | depth, piece :: rest =>
    if isIdle piece then staysInside depth rest
    else if piece = ".." then decide (0 < depth) && staysInside (depth - 1) rest
    else staysInside (depth + 1) rest

/-- A path that leads nowhere else than to what it starts at, or inside. -/
def IsInner (p : String) : Prop :=
  p ≠ "" ∧ startsAtRoot p = false ∧ staysInside 0 (pieces p) = true

instance (p : String) : Decidable (IsInner p) := inferInstanceAs (Decidable (_ ∧ _ ∧ _))

theorem staysInside_of_append {depth : Nat} {ps qs : List String}
    (h : staysInside depth (ps ++ qs) = true) : staysInside depth (ps ++ [""]) = true := by
  induction ps generalizing depth with
  | nil => rfl
  | cons p ps ih =>
    rw [List.cons_append, staysInside] at h ⊢
    split at h
    · rename_i hi
      rw [if_pos hi]
      exact ih h
    rename_i hi
    rw [if_neg hi]
    split at h
    · rename_i hup
      rw [Bool.and_eq_true] at h
      rw [if_pos hup, Bool.and_eq_true]
      exact ⟨h.1, ih h.2⟩
    · rename_i hup
      rw [if_neg hup]
      exact ih h

/-- A path that is not empty and does not start at the root starts with a text. -/
theorem exists_pieces_eq_cons {p : String} (hp : p ≠ "") (hroot : startsAtRoot p = false) :
    ∃ n ns, pieces p = n :: ns ∧ n ≠ "" := by
  obtain ⟨n, ns, h⟩ := List.exists_cons_of_ne_nil (pieces_ne_nil p)
  refine ⟨n, ns, h, ?_⟩
  rintro rfl
  cases ns with
  | nil => exact hp (pieces_injective (h.trans pieces_empty.symm))
  | cons m ms =>
    rw [startsAtRoot_iff.mpr ⟨m, ms, h⟩] at hroot
    cases hroot

end Path

namespace FileTree

variable {t u v : FileTree} {cwd here k l m : Location} {p q r : String} {ps qs : List String}
  {onLink onLink' : Location → String → List String → Except Fault Place} {links : Nat}

/-! ## Walks below a directory -/

/-- A walk that never goes up past `l` stays below `l`. -/
theorem follow_stays (ht : t.SymlinkFree) (hps : Path.staysInside k.length ps = true)
    (h : t.follow onLink (l ++ k) ps = .ok (.found m)) : l <+: m := by
  induction ps generalizing k with
  | nil =>
    cases h
    exact List.prefix_append l k
  | cons p ps ih =>
    rw [Path.staysInside] at hps
    cases (follow_cons_iff.mp h).2 with
    | idle hi h =>
      rw [if_pos hi] at hps
      exact ih hps h
    | up hup h' =>
      subst hup
      rw [if_neg (by decide), if_pos rfl, Bool.and_eq_true, decide_eq_true_eq] at hps
      rw [List.dropLast_append_of_ne_nil (List.ne_nil_of_length_pos hps.1)] at h'
      exact ih (by rw [List.length_dropLast]; exact hps.2) h'
    | free _ _ _ hplace => cases hplace
    | link _ he => exact absurd he (ht _ _)
    | entry hp _ _ h =>
      rw [if_neg (by simp [hp.1]), if_neg hp.2.1] at hps
      rw [List.append_assoc] at h
      exact ih (by rwa [List.length_append, List.length_singleton]) h

section Inner

variable (ht : t.SymlinkFree) (hq : t.locate cwd q = .ok l) (hr : Path.IsInner r)

include ht hq hr

/-- A walk along a path under `q` comes past the place of `q`. -/
theorem walk_under (ps : List String) :
    t.walk linkLimit (cwd.start (Path.join q r)) (Path.openPieces q ++ ps) =
      t.walk linkLimit l ps := by
  have hres := locate_eq_ok.mp hq
  have hcheck := checkPath_of_resolve hres
  have hwalk : t.walk linkLimit (cwd.start q) (Path.pieces q) = .ok (.found l) := by
    unfold resolve at hres
    rwa [hcheck] at hres
  have hstart : cwd.start (Path.join q r) = cwd.start q := by
    rw [Location.start, Location.start, Path.startsAtRoot_join hr.2.1]
  rw [hstart]
  exact walk_append_of_symlinkFree ht
    (walk_of_openPieces (checkPath_eq_ok_iff.mp hcheck).1 hwalk) linkLimit ps

/-- In a tree that has nothing else, an inner path under `q` leads to the place of `q` or below. -/
theorem locate_inner (hut : ∀ k e, u.get? k = some e → t.get? k = some e)
    (h : u.locate cwd (Path.join q r) = .ok m) : l <+: m := by
  have hres := locate_eq_ok.mp h
  have hcheck := checkPath_of_resolve hres
  unfold resolve at hres
  rw [hcheck] at hres
  have hwalk : u.walk linkLimit (cwd.start (Path.join q r)) (Path.pieces (Path.join q r)) =
      .ok (.found m) := hres
  have hstays := walk_mono hut hwalk
  rw [Path.pieces_join hr.2.1, walk_under ht hq hr] at hstays
  exact follow_stays (k := []) ht hr.2.2 (by rwa [List.append_nil])

/-- An entry that an inner path names is below the place of `q`. -/
theorem spot_inner (hut : ∀ k e, u.get? k = some e → t.get? k = some e) {s : Spot}
    (h : u.spot cwd (Path.join q r) = .ok s) (hn : IsName s.last) : l <+: s.dir := by
  rcases (spot_eq_ok h).2 with rfl | ⟨ps, k, hpieces, hwalk⟩
  · exact absurd rfl hn.1
  -- The name that counts is one of the pieces of `r`, for not all of these are empty.
  obtain ⟨as, hps, hlast⟩ : ∃ as, ps = Path.openPieces q ++ as ∧
      Path.pieces r = as ++ s.last :: List.replicate k "" := by
    rw [Path.pieces_join hr.2.1] at hpieces
    rcases List.append_eq_append_iff.mp hpieces with ⟨as, hps, hlast⟩ | ⟨bs, hopen, hbs⟩
    · exact ⟨as, hps, hlast⟩
    cases bs with
    | nil => exact ⟨[], by rw [hopen, List.append_nil, List.append_nil], hbs.symm⟩
    | cons b bs =>
      obtain ⟨n, ns, hnil, hne⟩ := Path.exists_pieces_eq_cons hr.1 hr.2.1
      rw [hnil] at hbs
      have hmem : n ∈ List.replicate k "" := by
        rw [(List.cons.inj hbs).2]
        simp
      exact absurd (List.eq_of_mem_replicate hmem) hne
  have hstays := walk_mono hut hwalk
  rw [hps, List.append_assoc, walk_under ht hq hr] at hstays
  have hinside : Path.staysInside 0 (as ++ [""]) = true :=
    Path.staysInside_of_append (hlast ▸ hr.2.2)
  exact follow_stays (k := []) ht hinside (by rwa [List.append_nil])

end Inner

/-- Where a name in `q` leads somewhere, `q` leads to a directory above. -/
theorem locate_of_join {n : String} (ht : t.SymlinkFree) (hq : q ≠ "")
    (hslash : Path.endsWithSlash q = false) (hn : IsName n)
    (h : t.locate cwd (Path.join q n) = .ok l) : ∃ d, t.locate cwd q = .ok d ∧ d <+: l := by
  have hpieces : Path.pieces (Path.join q n) = Path.pieces q ++ [n] := by
    rw [Path.pieces_join hn.isStep.startsAtRoot_eq, hn.isStep.pieces_eq,
      Path.openPieces_of_not hq hslash]
  have hstart : cwd.start (Path.join q n) = cwd.start q := by
    rw [Location.start, Location.start, Path.startsAtRoot_join hn.isStep.startsAtRoot_eq]
  have hres := locate_eq_ok.mp h
  have hcheck := checkPath_of_resolve hres
  unfold resolve at hres
  rw [hcheck] at hres
  have hwalk : t.walk linkLimit (cwd.start q) (Path.pieces q ++ [n]) = .ok (.found l) := by
    rw [← hpieces, ← hstart]
    exact hres
  obtain ⟨d, hd, -⟩ := walk_stop hwalk
  have hlocate : t.locate cwd q = .ok d := by
    rw [locate_eq_ok, resolve, checkPath_of_join hq hn.isStep hcheck]
    exact walk_of_concat hd
  refine ⟨d, hlocate, locate_inner ht hlocate ⟨hn.1, hn.isStep.startsAtRoot_eq, ?_⟩
    (fun _ _ h => h) h⟩
  rw [hn.isStep.pieces_eq, Path.staysInside, if_neg (by simp [hn.isStep.2]), if_neg hn.2.2.1]
  rfl

/-! ## Removing -/

/-- `u` is `t` without some entries below `l`. -/
def LosesBelow (l : Location) (t u : FileTree) : Prop :=
  ∀ k, u.get? k = t.get? k ∨ (u.get? k = none ∧ l <+: k ∧ k ≠ l)

namespace LosesBelow

theorem refl (l : Location) (t : FileTree) : LosesBelow l t t := fun _ => .inl rfl

theorem trans (h : LosesBelow l t u) (h' : LosesBelow l u v) : LosesBelow l t v := by
  intro k
  rcases h' k with h' | h'
  · rw [h']
    exact h k
  · exact .inr h'

theorem get?_of_not (h : LosesBelow l t u) (hk : ¬ (l <+: k ∧ k ≠ l)) : u.get? k = t.get? k :=
  (h k).resolve_right fun hc => hk hc.2

theorem get?_of_some (h : LosesBelow l t u) {k : Location} {e : Entry} (he : u.get? k = some e) :
    t.get? k = some e := by
  rcases h k with h | ⟨hnone, -⟩
  · rw [← h, he]
  · cases hnone.symm.trans he

theorem ne_of_isPrefix {n : String} (hl : l <+: m) (hk : m ++ [n] <+: k) : k ≠ l := by
  rintro rfl
  have := hk.length_le
  have := hl.length_le
  rw [List.length_append, List.length_singleton] at *
  omega

theorem prune {n : String} (hl : l <+: m) : LosesBelow l t (t.prune (m ++ [n])) := by
  intro k
  rw [get?_prune (by simp)]
  split
  · rename_i hk
    exact .inr ⟨rfl, hl.trans ((List.prefix_append m [n]).trans hk), ne_of_isPrefix hl hk⟩
  · exact .inl rfl

theorem clear (hl : l <+: m) : LosesBelow l t (t.clear m) := by
  intro k
  rw [get?_clear]
  split
  · rename_i hk
    refine .inr ⟨rfl, hl.trans hk.1, ?_⟩
    rintro rfl
    exact hk.2 (hl.eq_of_length_le hk.1.length_le)
  · exact .inl rfl

end LosesBelow

section Inner

variable (ht : t.SymlinkFree) (hq : t.locate cwd q = .ok l) (hr : Path.IsInner r)
  (hu : LosesBelow l t u)

include ht hq hr hu

theorem removeFile_inner (h : u.removeFile cwd (Path.join q r) = .ok v) : LosesBelow l u v := by
  obtain ⟨s, e, hs, hn, -, -, -, hget⟩ := removeFile_eq_ok h
  have hbelow := spot_inner ht hq hr (fun _ _ => hu.get?_of_some) hs hn
  intro k
  rw [hget]
  split
  · rename_i hk
    subst hk
    exact .inr ⟨rfl, hbelow.trans (List.prefix_append s.dir [s.last]),
      LosesBelow.ne_of_isPrefix hbelow (List.prefix_refl _)⟩
  · exact .inl rfl

theorem removeDir_inner (h : u.removeDir cwd (Path.join q r) = .ok v) : LosesBelow l u v := by
  obtain ⟨s, hs, hn, rfl⟩ := removeDir_eq_ok h
  exact .prune (spot_inner ht hq hr (fun _ _ => hu.get?_of_some) hs hn)

theorem removeTree_inner : LosesBelow l u (u.removeTree cwd (Path.join q r)).2 := by
  unfold removeTree
  rcases u.findLink cwd (Path.join q r) with fault | (_ | _ | _)
  · exact .refl l u
  · exact .refl l u
  · cases hm : u.locate cwd (Path.join q r) with
    | error fault => exact .refl l u
    | ok m =>
      have hbelow := locate_inner ht hq hr (fun _ _ => hu.get?_of_some) hm
      have hclear : LosesBelow l u (u.clear m) := .clear hbelow
      cases hd : (u.clear m).removeDir cwd (Path.join q r) with
      | ok w => simpa only [hd] using hclear.trans (removeDir_inner ht hq hr (hu.trans hclear) hd)
      | error fault => cases fault <;> simpa only [hd] using hclear
  · cases hf : u.removeFile cwd (Path.join q r) with
    | ok w => simpa only [hf] using removeFile_inner ht hq hr hu hf
    | error fault => simpa only [hf] using LosesBelow.refl l u

end Inner

end FileTree

end BenchCheckout
