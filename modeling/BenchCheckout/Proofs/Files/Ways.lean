import BenchCheckout.Proofs.Files.Directories
import Mathlib.Data.List.Infix

/-!
# The way that a path takes

In a tree without links, the text of a path tells every place on its way, also where it goes up:
`cwd.reach path` is the last of them. What is found on the way can only stop the walk.

* `FileTree.follow_location`, `FileTree.resolve_reach`, `FileTree.spot_reach`: a walk that gets
  somewhere gets where the text says.
* `FileTree.follow_way`, `FileTree.find_way`, `FileTree.spot_way`: nothing but what is on the way
  matters.
* `FileTree.find_join_iff`: what is in a directory.
-/

namespace BenchCheckout

namespace Location

variable {cwd here : Location} {ns : List String} {p : String}

/-- Where the steps of a path lead from `here`, by their texts. -/
def after (here : Location) : List String → Location
  | [] => here
  | n :: ns => after (if n = ".." then here.dropLast else here ++ [n]) ns

/-- Where a path leads from a working directory, by its text. -/
def reach (cwd : Location) (path : String) : Location :=
  (cwd.start path).after (Path.steps path)

theorem after_append (here : Location) (ns ms : List String) :
    here.after (ns ++ ms) = (here.after ns).after ms := by
  induction ns generalizing here with
  | nil => rfl
  | cons n ns ih => exact ih _

theorem after_of_not_mem (h : ".." ∉ ns) : here.after ns = here ++ ns := by
  induction ns generalizing here with
  | nil => simp [after]
  | cons n ns ih =>
    rw [List.mem_cons, not_or] at h
    rw [after, if_neg (Ne.symm h.1), ih h.2, List.append_assoc, List.singleton_append]

theorem reach_of_not_mem (h : ".." ∉ Path.steps p) : cwd.reach p = cwd.along p :=
  after_of_not_mem h

/-- Without `..` the way to a path is the row of locations above it. -/
theorem after_isPrefix_along (h : ".." ∉ Path.steps p) (hns : ns <+: Path.steps p) :
    (cwd.start p).after ns <+: cwd.along p := by
  rw [after_of_not_mem fun hc => h (hns.subset hc)]
  exact (List.prefix_append_right_inj _).mpr hns

/-- No place on the way to a path lies below its end. -/
def IsDirect (cwd : Location) (path : String) : Prop :=
  ∀ ns ∈ (Path.steps path).inits, cwd.reach path <+: (cwd.start path).after ns →
    (cwd.start path).after ns = cwd.reach path

instance (cwd : Location) (path : String) : Decidable (cwd.IsDirect path) :=
  inferInstanceAs (Decidable (∀ ns ∈ (Path.steps path).inits, _ → _))

theorem isDirect_of_not_mem (h : ".." ∉ Path.steps p) : cwd.IsDirect p := by
  intro ns hns hle
  rw [reach_of_not_mem h] at hle ⊢
  exact (after_isPrefix_along h (List.mem_inits _ _ |>.mp hns)).eq_of_length_le hle.length_le

end Location

theorem Path.mem_toList_join {a n : String} {c : Char} (hn : Path.IsStep n)
    (h : c ∈ (Path.join a n).toList) : c ∈ a.toList ∨ c = '/' ∨ c ∈ n.toList := by
  rw [Path.join, if_neg (by simp [hn.startsAtRoot_eq])] at h
  split at h
  · rw [String.toList_append, List.mem_append] at h
    exact h.imp_right .inr
  · simpa [or_assoc] using h

/-- The last piece that is not empty is a name. -/
def Path.endsInName (p : String) : Bool :=
  match (Path.pieces p).reverse.dropWhile (· == "") with
  | [] => false
  | n :: _ => n != "." && n != ".."

theorem Path.ne_empty_of_endsInName {p : String} (h : Path.endsInName p) : p ≠ "" := by
  rintro rfl
  exact absurd h (by decide)

namespace FileTree

variable {t u : FileTree} {cwd here l : Location} {p q n : String} {ps ns : List String}
  {onLink onLink' : Location → String → List String → Except Fault Place} {links : Nat}
  {place : Place}

/-! ## Where walks end -/

/-- A walk that gets somewhere gets where its pieces say. -/
theorem follow_location (ht : t.SymlinkFree) (h : t.follow onLink here ps = .ok place) :
    place.location = here.after (ps.filter (!Path.isIdle ·)) := by
  induction ps generalizing here with
  | nil =>
    cases h
    rfl
  | cons p ps ih =>
    cases (follow_cons_iff.mp h).2 with
    | idle hi h =>
      rw [List.filter_cons_of_neg (by simp [hi])]
      exact ih h
    | up hup h' =>
      subst hup
      rw [List.filter_cons_of_pos (by decide), Location.after, if_pos rfl]
      exact ih h'
    | free hp _ hps hplace =>
      subst hps
      rw [List.filter_cons_of_pos (by simp [hp.1]), Location.after, if_neg hp.2.1, hplace]
      rfl
    | link _ he => exact absurd he (ht _ _)
    | entry hp _ _ h =>
      rw [List.filter_cons_of_pos (by simp [hp.1]), Location.after, if_neg hp.2.1]
      exact ih h

theorem walk_location (ht : t.SymlinkFree) (h : t.walk links here ps = .ok place) :
    place.location = here.after (ps.filter (!Path.isIdle ·)) := by
  cases links <;> exact follow_location ht h

theorem resolve_reach (ht : t.SymlinkFree) (h : t.resolve cwd p = .ok place) :
    place.location = cwd.reach p := by
  have hc := checkPath_of_resolve h
  rw [resolve, hc] at h
  exact walk_location ht h

theorem locate_reach (ht : t.SymlinkFree) (h : t.locate cwd p = .ok l) : l = cwd.reach p :=
  resolve_reach ht (locate_eq_ok.mp h)

theorem filter_pieces_of_last {last : String} {k : Nat} (hlast : Path.isIdle last = false)
    (h : Path.pieces p = ps ++ last :: List.replicate k "") :
    Path.steps p = ps.filter (!Path.isIdle ·) ++ [last] := by
  have hr : (List.replicate k "").filter (!Path.isIdle ·) = [] := by simp [Path.isIdle]
  rw [Path.steps, h, List.filter_append, List.filter_cons_of_pos (by simp [hlast]), hr]

/-- The entry that a path names lies where the text of the path says. -/
theorem spot_reach (ht : t.SymlinkFree) {s : Spot} (h : t.spot cwd p = .ok s)
    (hn : IsName s.last) : s.location = cwd.reach p := by
  obtain ⟨-, rfl | ⟨ps, k, hp, hw⟩⟩ := spot_eq_ok h
  · exact absurd rfl hn.1
  have hdir : s.dir = (cwd.start p).after (ps.filter (!Path.isIdle ·)) := by
    simpa [Place.location, Path.isIdle] using walk_location ht hw
  rw [Spot.location, Location.reach, filter_pieces_of_last hn.isStep.2 hp, Location.after_append,
    ← hdir, Location.after, if_neg hn.2.2.1, Location.after]

/-! ## What a walk depends on -/

/-- A walk depends on what is on its way. -/
theorem follow_way (ht : t.SymlinkFree)
    (h : ∀ ns, ns <+: ps.filter (!Path.isIdle ·) → t.get? (here.after ns) = u.get? (here.after ns)) :
    t.follow onLink here ps = u.follow onLink' here ps := by
  induction ps generalizing here with
  | nil => rfl
  | cons q ps ih =>
    have hhere : t.get? here = u.get? here := h [] (List.nil_prefix)
    rw [follow, follow, hhere]
    split
    · rfl
    by_cases hidle : Path.isIdle q = true
    · rw [if_pos hidle, if_pos hidle]
      refine ih fun ns hns => h ns ?_
      rwa [List.filter_cons_of_neg (by simp [hidle])]
    have hstep {here' : Location} (hq : (if q = ".." then here.dropLast else here ++ [q]) = here')
        {ns : List String} (hns : ns <+: ps.filter (!Path.isIdle ·)) :
        t.get? (here'.after ns) = u.get? (here'.after ns) := by
      have := h (q :: ns) (by
        rw [List.filter_cons_of_pos (by simp [hidle])]
        exact (List.prefix_cons_inj q).mpr hns)
      rwa [Location.after, hq] at this
    rw [if_neg hidle, if_neg hidle]
    by_cases hup : q = ".."
    · rw [if_pos hup, if_pos hup]
      exact ih fun ns => hstep (if_pos hup)
    rw [if_neg hup, if_neg hup]
    split
    · rfl
    have hnext : t.get? (here ++ [q]) = u.get? (here ++ [q]) :=
      hstep (if_neg hup) List.nil_prefix
    rw [← hnext]
    have hrest : t.follow onLink (here ++ [q]) ps = u.follow onLink' (here ++ [q]) ps :=
      ih fun ns => hstep (if_neg hup)
    rcases he : t.get? (here ++ [q]) with _ | (_ | _ | target)
    · rfl
    · exact hrest
    · exact hrest
    · exact absurd he (ht _ target)

theorem walk_way (ht : t.SymlinkFree)
    (h : ∀ ns, ns <+: ps.filter (!Path.isIdle ·) → t.get? (here.after ns) = u.get? (here.after ns)) :
    t.walk links here ps = u.walk links here ps := by
  cases links <;> exact follow_way ht h

section Way

variable (ht : t.SymlinkFree)
  (h : ∀ ns, ns <+: Path.steps p →
    t.get? ((cwd.start p).after ns) = u.get? ((cwd.start p).after ns))

include h in
theorem checkPath_way : t.checkPath cwd p = u.checkPath cwd p := by
  have hstart : t.get? (cwd.start p) = u.get? (cwd.start p) := h [] List.nil_prefix
  rw [checkPath, checkPath, hstart]

include ht h

theorem find_way : t.find cwd p = u.find cwd p := by
  have hl : t.locate cwd p = u.locate cwd p := by
    unfold locate resolve
    rw [checkPath_way h, walk_way ht h]
  unfold find
  rw [← hl]
  cases hlocate : t.locate cwd p with
  | error fault => rfl
  | ok l =>
    obtain rfl := locate_reach ht hlocate
    simp only [bind, Except.bind, Location.reach, h _ List.prefix_rfl]

theorem spot_way : t.spot cwd p = u.spot cwd p := by
  unfold spot
  rw [checkPath_way h]
  cases hrev : (Path.pieces p).reverse.dropWhile (· == "") with
  | nil => rfl
  | cons last before =>
    obtain ⟨k, hp⟩ := pieces_of_dropWhile hrev
    have hwalk : t.walk linkLimit (cwd.start p) (before.reverse ++ [""]) =
        u.walk linkLimit (cwd.start p) (before.reverse ++ [""]) := by
      refine walk_way ht fun ns hns => h ns (hns.trans ?_)
      rw [Path.steps, hp, List.filter_append, List.filter_append]
      simp [Path.isIdle]
    simp only [hwalk]

end Way

/-- A walk that gets somewhere goes on from there. -/
theorem walk_append_of_symlinkFree (ht : t.SymlinkFree)
    (h : t.walk links here ps = .ok (.found l)) (more : Nat) (ns : List String) :
    t.walk more here (ps ++ ns) = t.walk more l ns := by
  -- There is no link on the way, so it does not matter what is done at links.
  have hway : t.follow (fun _ _ _ => .error .tooManyLinks) here ps = .ok (.found l) := by
    rw [← h]
    cases links <;> exact follow_way ht fun _ _ => rfl
  cases more <;> exact follow_append (P := (· = t.walk _ l ns)) rfl (by simp) hway

/-! ## What is in a directory -/

/-- The pieces of a path that leads somewhere lead there without an empty one at the end. -/
theorem walk_of_openPieces (hq : q ≠ "")
    (h : t.walk links here (Path.pieces q) = .ok (.found l)) :
    t.walk links here (Path.openPieces q) = .ok (.found l) := by
  cases hslash : Path.endsWithSlash q with
  | false => rwa [Path.openPieces_of_not hq hslash]
  | true =>
    obtain ⟨b, rfl⟩ := Path.endsWithSlash_iff.mp hslash
    rw [Path.pieces_slash] at h
    rw [Path.openPieces_append_slash]
    exact walk_of_concat h

theorem walk_pieces_of_openPieces (hq : q ≠ "")
    (h : t.walk links here (Path.openPieces q ++ [""]) = .ok (.found l)) :
    t.walk links here (Path.pieces q) = .ok (.found l) ∧ t.get? l = some .directory := by
  refine ⟨?_, get?_of_walk_concat h⟩
  cases hslash : Path.endsWithSlash q with
  | false =>
    rw [← Path.openPieces_of_not hq hslash]
    exact walk_of_concat h
  | true =>
    obtain ⟨b, rfl⟩ := Path.endsWithSlash_iff.mp hslash
    rw [Path.openPieces_append_slash] at h
    rwa [Path.pieces_slash]

theorem walk_openPieces_iff (ht : t.SymlinkFree) (hq : q ≠ "") :
    t.walk links here (Path.openPieces q ++ [""]) = .ok (.found l) ↔
      t.walk links here (Path.pieces q) = .ok (.found l) ∧ t.get? l = some .directory := by
  constructor
  · exact walk_pieces_of_openPieces hq
  · rintro ⟨h, hd⟩
    rw [walk_append_of_symlinkFree ht (walk_of_openPieces hq h)]
    cases links <;> exact follow_empty_iff.mpr ⟨hd, rfl⟩

/-- A directory lies in a directory. -/
theorem isDirectory_of_join (hp : p ≠ "") (hn : Path.IsStep n)
    (h : t.isDirectory cwd (Path.join p n)) : t.isDirectory cwd p := by
  obtain ⟨hc, l, hw, -⟩ := isDirectory_iff_walk.mp h
  rw [Path.pieces_join hn.startsAtRoot_eq, hn.pieces_eq, Location.start,
    Path.startsAtRoot_join hn.startsAtRoot_eq] at hw
  obtain ⟨d, hd, -⟩ := walk_stop hw
  exact isDirectory_iff_walk.mpr
    ⟨checkPath_of_join hp hn hc, d, walk_pieces_of_openPieces hp hd⟩

/-- What is found in a directory are those of its entries that the system can look up. -/
theorem find_join_iff {e : Entry} (ht : t.SymlinkFree) (hp : p ≠ "") (hn : Path.IsStep n)
    (hup : n ≠ "..") :
    t.find cwd (Path.join p n) = .ok (l, e) ↔
      t.isDirectory cwd p ∧ l = cwd.reach p ++ [n] ∧ t.get? l = some e ∧
        n.utf8ByteSize ≤ nameLimit ∧ (Path.join p n).utf8ByteSize ≤ pathLimit := by
  have hpieces : Path.pieces (Path.join p n) = Path.openPieces p ++ [n] := by
    rw [Path.pieces_join hn.startsAtRoot_eq, hn.pieces_eq]
  have hstart : cwd.start (Path.join p n) = cwd.start p := by
    rw [Location.start, Location.start, Path.startsAtRoot_join hn.startsAtRoot_eq]
  have hlast {d : Location} (hd : t.get? d = some .directory) :
      t.walk linkLimit d [n] = .ok (.found l) ∧ t.get? l = some e ↔
        l = d ++ [n] ∧ t.get? l = some e ∧ n.utf8ByteSize ≤ nameLimit := by
    have hsteps : [n].filter (!Path.isIdle ·) = [n] := by simp [hn.2]
    have hidle : ¬ Path.EndsIdle [n] := by
      rw [Path.endsIdle_singleton, hn.2]
      exact Bool.false_ne_true
    rw [walk_eq_found_iff ht (show ".." ∉ [n] by simp [Ne.symm hup])]
    constructor
    · rintro ⟨⟨hl, hfit, -, -⟩, he⟩
      rw [hsteps] at hl hfit
      exact ⟨hl, he, hfit n List.mem_cons_self⟩
    · rintro ⟨hl, he, hfit⟩
      exact ⟨⟨by rw [hsteps, hl], by simpa [hsteps] using hfit, fun _ => hd,
        fun _ => ⟨e, he, fun h => absurd h hidle⟩⟩, he⟩
  rw [find_iff_walk, isDirectory_iff_walk, hpieces, hstart]
  constructor
  · rintro ⟨hc, hwalk, he⟩
    obtain ⟨d, hd, -⟩ := walk_stop hwalk
    obtain ⟨hwp, hdir⟩ := walk_pieces_of_openPieces hp hd
    obtain rfl : d = cwd.reach p := walk_location ht hwp
    rw [walk_append_of_symlinkFree ht (walk_of_concat hd)] at hwalk
    obtain ⟨hl, he, hfit⟩ := (hlast hdir).mp ⟨hwalk, he⟩
    exact ⟨⟨checkPath_of_join hp hn hc, _, hwp, hdir⟩, hl, he, hfit,
      (checkPath_eq_ok_iff.mp hc).2.2.1⟩
  · rintro ⟨⟨hc, d, hwp, hdir⟩, rfl, he, hfit, hsize⟩
    obtain rfl : d = cwd.reach p := walk_location ht hwp
    have hd := (walk_openPieces_iff ht hp).mpr ⟨hwp, hdir⟩
    have hname : IsName n := isName_of_get? he (by simp)
    rw [walk_append_of_symlinkFree ht (walk_of_concat hd), hlast hdir]
    refine ⟨?_, rfl, he, hfit⟩
    obtain ⟨-, hnul, -, hroot⟩ := checkPath_eq_ok_iff.mp hc
    refine checkPath_eq_ok_iff.mpr ⟨Path.join_ne_empty hn, fun hc => ?_, hsize, hstart ▸ hroot⟩
    rcases Path.mem_toList_join hn hc with hc | hc | hc
    · exact hnul hc
    · cases hc
    · exact hname.2.2.2.2 hc

theorem isDirectory_join_iff (ht : t.SymlinkFree) (hp : p ≠ "") (hn : Path.IsStep n)
    (hup : n ≠ "..") :
    t.isDirectory cwd (Path.join p n) ↔
      t.isDirectory cwd p ∧ t.get? (cwd.reach p ++ [n]) = some .directory ∧
        n.utf8ByteSize ≤ nameLimit ∧ (Path.join p n).utf8ByteSize ≤ pathLimit := by
  rw [isDirectory_iff_find]
  constructor
  · rintro ⟨l, hf⟩
    obtain ⟨hd, rfl, he, hfits⟩ := (find_join_iff ht hp hn hup).mp hf
    exact ⟨hd, he, hfits⟩
  · rintro ⟨hd, he, hfits⟩
    exact ⟨_, (find_join_iff ht hp hn hup).mpr ⟨hd, rfl, he, hfits⟩⟩

theorem isFile_join_iff (ht : t.SymlinkFree) (hp : p ≠ "") (hn : Path.IsStep n) (hup : n ≠ "..") :
    t.isFile cwd (Path.join p n) ↔
      t.isDirectory cwd p ∧ (∃ bytes x k, t.get? (cwd.reach p ++ [n]) = some (.file bytes x k)) ∧
        n.utf8ByteSize ≤ nameLimit ∧ (Path.join p n).utf8ByteSize ≤ pathLimit := by
  rw [isFile_iff_find]
  constructor
  · rintro ⟨l, bytes, x, k, hf⟩
    obtain ⟨hd, rfl, he, hfits⟩ := (find_join_iff ht hp hn hup).mp hf
    exact ⟨hd, ⟨bytes, x, k, he⟩, hfits⟩
  · rintro ⟨hd, ⟨bytes, x, k, he⟩, hfits⟩
    exact ⟨_, bytes, x, k, (find_join_iff ht hp hn hup).mpr ⟨hd, rfl, he, hfits⟩⟩

theorem endsInName_iff :
    Path.endsInName p ↔ ∃ n before, (Path.pieces p).reverse.dropWhile (· == "") = n :: before ∧
      Path.isIdle n = false ∧ n ≠ ".." := by
  unfold Path.endsInName
  cases h : (Path.pieces p).reverse.dropWhile (· == "") with
  | nil => simp
  | cons n before =>
    have hne : n ≠ "" := by
      have := List.head?_dropWhile_not (· == "") (Path.pieces p).reverse
      simpa [h] using this
    simp [Path.isIdle, hne]

theorem endsInName_of_ends (h : Path.Ends p q n) (hup : n ≠ "..") : Path.endsInName p :=
  endsInName_iff.mpr ⟨n, _, dropWhile_of_ends h, h.1.2, hup⟩

theorem reach_ne_nil (hp : Path.endsInName p) : cwd.reach p ≠ [] := by
  obtain ⟨n, before, hrev, hidle, hup⟩ := endsInName_iff.mp hp
  obtain ⟨k, hpieces⟩ := pieces_of_dropWhile hrev
  rw [Location.reach, filter_pieces_of_last hidle hpieces, Location.after_append, Location.after,
    if_neg hup, Location.after]
  simp

/-- A directory whose path ends in a name is an entry that the path names. -/
theorem spot_of_isDirectory (ht : t.SymlinkFree) (hp : Path.endsInName p)
    (hd : t.isDirectory cwd p) :
    ∃ s, t.spot cwd p = .ok s ∧ s.location = cwd.reach p ∧ IsName s.last ∧
      s.last.utf8ByteSize ≤ nameLimit ∧ t.get? (cwd.reach p) = some .directory := by
  obtain ⟨n, before, hrev, hidle, hup⟩ := endsInName_iff.mp hp
  obtain ⟨k, hpieces⟩ := pieces_of_dropWhile hrev
  obtain ⟨hc, l, hw, hl⟩ := isDirectory_iff_walk.mp hd
  obtain rfl : l = cwd.reach p := walk_location ht hw
  rw [hpieces] at hw
  obtain ⟨d, hstop, -⟩ := walk_stop hw
  rw [walk_append_of_symlinkFree ht (walk_of_concat hstop), walk_eq_found_iff ht] at hw
  · have hsteps : (n :: List.replicate k "").filter (!Path.isIdle ·) = [n] := by
      rw [List.filter_cons_of_pos (by simp [hidle])]
      simp [Path.isIdle]
    have hloc := hw.location_eq
    have hfit := hw.names_fit
    rw [hsteps] at hloc hfit
    refine ⟨⟨d, n, Path.endsWithSlash p⟩, ?_, hloc.symm, ?_, hfit n List.mem_cons_self, hl⟩
    · unfold spot
      rw [hc, hrev]
      simp only [bind, Except.bind, hstop]
    · rw [hloc] at hl
      exact isName_of_get? hl (by simp)
  · simp [Ne.symm hup]

end FileTree

end BenchCheckout
