import BenchCheckout.Proofs.Files.Plain

/-!
# Where directories can be made

In a tree without links, what is on the way to a path decides whether directories can be made there,
also where the way goes up.

* `FileTree.follow_of_clear`: a walk that meets nothing but directories is stopped by a gap alone.
* `FileTree.isDirectory_iff_way`: the way to a directory goes through directories.
* `Path.parent?_of_last`: the path above a path leads along the same way.
* `FileTree.HasWay`, `FileTree.createDirs_eq_ok_iff`: what is missing is made, and what is no
  directory stops it.
-/

namespace BenchCheckout

namespace Path

variable {p last : String} {before ps qs : List String} {k : Nat}

/-! ## The path above -/

theorem glue_append {ls ms : List (List Char)} (hls : ls ≠ []) (hms : ms ≠ []) :
    glue (ls ++ ms) = glue ls ++ '/' :: glue ms := by
  induction ls with
  | nil => exact absurd rfl hls
  | cons l ls ih =>
    obtain ⟨m, ms, rfl⟩ := List.exists_cons_of_ne_nil hms
    cases ls with
    | nil => simp [glue]
    | cons k ls =>
      have := ih (by simp)
      simp only [glue, List.cons_append, List.intersperse, List.flatten_cons] at this ⊢
      simp [this]

theorem toList_ofPieces_isPrefix (h : qs <+: ps) : (ofPieces qs).toList <+: (ofPieces ps).toList := by
  obtain ⟨rs, rfl⟩ := h
  simp only [ofPieces, String.toList_ofList, List.map_append]
  by_cases hq : qs = []
  · simp [hq, glue]
  by_cases hr : rs = []
  · simp [hr]
  · rw [glue_append (by simpa using hq) (by simpa using hr)]
    exact List.prefix_append _ _

theorem subset_of_mem_cut {sep : Char} {s l : List Char} (h : l ∈ cut sep s) : l ⊆ s := by
  induction s generalizing l with
  | nil =>
    simp only [cut, List.mem_singleton] at h
    simp [h]
  | cons c s ih =>
    rw [cut] at h
    split at h
    · rcases List.mem_cons.mp h with rfl | h
      · simp
      · exact List.subset_cons_of_subset c (ih h)
    · cases hs : cut sep s with
      | nil => exact absurd hs (cut_ne_nil _ _)
      | cons k ks =>
        rw [hs] at h ih
        rcases List.mem_cons.mp h with rfl | h
        · exact List.cons_subset_cons c (ih List.mem_cons_self)
        · exact List.subset_cons_of_subset c (ih (List.mem_cons_of_mem k h))

theorem isName_of_mem_pieces {n : String} (hn : n ∈ pieces p) (hidle : isIdle n = false)
    (hup : n ≠ "..") (hnul : '\x00' ∉ p.toList) : IsName n := by
  obtain ⟨h0, h1⟩ : n ≠ "" ∧ n ≠ "." := by simpa [isIdle] using hidle
  refine ⟨h0, h1, hup, not_mem_of_mem_pieces hn, fun hc => hnul ?_⟩
  obtain ⟨l, hl, rfl⟩ := List.mem_map.mp hn
  rw [String.toList_ofList] at hc
  exact subset_of_mem_cut hl hc

theorem trimIdle_of_last (hlast : isIdle last = false) :
    trimIdle (before ++ last :: List.replicate k "") = before ++ [last] := by
  cases before with
  | nil => simp [trimIdle, List.reverse_replicate, isIdle]
  | cons q qs =>
    rw [List.cons_append, trimIdle, dropWhile_reverse_of_last (by decide) hlast]
    simp

/-- A path that leads somewhere has a step as its last piece, apart from empty ones. -/
def EndsInStep (p : String) : Prop :=
  ∃ before last k, pieces p = before ++ last :: List.replicate k "" ∧ isIdle last = false

/-- The path above a path lacks the last step, and nothing else. -/
theorem parent?_of_last (hlast : isIdle last = false)
    (hp : pieces p = before ++ last :: List.replicate k "") :
    ∃ r, parent? p = some r ∧ startsAtRoot r = startsAtRoot p ∧
      steps r = before.filter (!isIdle ·) ∧ r.toList <+: p.toList ∧
      (steps r = [] ∨ EndsInStep r) := by
  have hparent := parent?_eq ((congrArg trimIdle hp).trans (trimIdle_of_last hlast)) hlast
  obtain ⟨r, hr⟩ : ∃ r, parent? p = some r := by
    rw [hparent]
    split <;> exact ⟨_, rfl⟩
  have hroot := (steps_parent? hr).2
  refine ⟨r, hr, hroot, ?_⟩
  rw [hr] at hparent
  rw [← filter_trimIdle before]
  split at hparent
  · rename_i h0
    obtain rfl := Option.some.inj hparent
    rw [h0]
    exact ⟨by decide, by simp, .inl (by decide)⟩
  · rename_i h0
    obtain rfl := Option.some.inj hparent
    rw [h0]
    refine ⟨by decide, ?_, .inl (by decide)⟩
    rw [show startsAtRoot "/" = true by decide, eq_comm, startsAtRoot, beq_iff_eq] at hroot
    obtain ⟨cs, hcs⟩ := List.head?_eq_some_iff.mp hroot
    exact ⟨cs, by simp [hcs]⟩
  · rename_i h0 _
    obtain rfl := Option.some.inj hparent
    have hsub : trimIdle before <+: pieces p :=
      (trimIdle_isPrefix before).trans (hp ▸ List.prefix_append _ _)
    have hpieces : pieces (ofPieces (trimIdle before)) = trimIdle before :=
      pieces_ofPieces h0 fun n hn => not_mem_of_mem_pieces (hsub.subset hn)
    have hsteps : steps (ofPieces (trimIdle before)) = (trimIdle before).filter (!isIdle ·) := by
      rw [steps, hpieces]
    refine ⟨hsteps, ?_, ?_⟩
    · have := toList_ofPieces_isPrefix hsub
      rwa [ofPieces_pieces] at this
    · rw [hsteps]
      rcases trimIdle_cases before with hq | ⟨q, hq⟩ | ⟨qs, n, hq, -, hn⟩
      · exact absurd hq h0
      · by_cases hi : isIdle q = true
        · exact .inl (by simp [hq, hi])
        · exact .inr ⟨[], q, 0, by rw [hpieces, hq]; rfl, by simpa using hi⟩
      · exact .inr ⟨qs, n, 0, by rw [hpieces, hq]; rfl, hn⟩

theorem endsInStep_of_endsInName (h : endsInName p) : EndsInStep p := by
  obtain ⟨n, before, hrev, hidle, -⟩ := FileTree.endsInName_iff.mp h
  obtain ⟨k, hp⟩ := FileTree.pieces_of_dropWhile hrev
  exact ⟨_, n, k, hp, hidle⟩

end Path

namespace FileTree

variable {t u : FileTree} {cwd here l : Location} {p last : String} {before ps : List String}
  {onLink : Location → String → List String → Except Fault Place} {links k : Nat}

/-! ## The way to a directory -/

/-- A walk that meets nothing but directories is stopped by a gap alone. -/
theorem follow_of_clear (hd : t.get? here = some .directory)
    (hfit : ∀ n ∈ ps.filter (!Path.isIdle ·), n.utf8ByteSize ≤ nameLimit)
    (hclear : ∀ ns, ns <+: ps.filter (!Path.isIdle ·) → ∀ e,
      t.get? (here.after ns) = some e → e = .directory) :
    (t.follow onLink here (ps ++ [""]) =
        .ok (.found (here.after (ps.filter (!Path.isIdle ·)))) ∧
      ∀ ns, ns <+: ps.filter (!Path.isIdle ·) → t.get? (here.after ns) = some .directory) ∨
    (t.follow onLink here (ps ++ [""]) = .error .noEntry ∧
      ∃ ns, ns <+: ps.filter (!Path.isIdle ·) ∧ t.get? (here.after ns) = none) := by
  induction ps generalizing here with
  | nil =>
    refine .inl ⟨?_, fun ns hns => ?_⟩
    · rw [List.nil_append, follow_idle hd (by decide)]
      rfl
    · rw [List.prefix_nil.mp hns]
      exact hd
  | cons p ps ih =>
    rw [List.cons_append]
    by_cases hi : Path.isIdle p = true
    · rw [List.filter_cons_of_neg (by simp [hi])] at *
      rw [follow_idle hd hi]
      exact ih hd hfit hclear
    rw [List.filter_cons_of_pos (by simp [hi])] at *
    -- Where a directory is next, the walk goes on from there.
    have hgo {next : Location} (hnext : (if p = ".." then here.dropLast else here ++ [p]) = next)
        (hdir : t.get? next = some .directory)
        (hgoes : t.follow onLink here (p :: (ps ++ [""])) = t.follow onLink next (ps ++ [""])) :
        (t.follow onLink here (p :: (ps ++ [""])) =
            .ok (.found (here.after (p :: ps.filter (!Path.isIdle ·)))) ∧
          ∀ ns, ns <+: p :: ps.filter (!Path.isIdle ·) →
            t.get? (here.after ns) = some .directory) ∨
        (t.follow onLink here (p :: (ps ++ [""])) = .error .noEntry ∧
          ∃ ns, ns <+: p :: ps.filter (!Path.isIdle ·) ∧ t.get? (here.after ns) = none) := by
      have hafter (ns : List String) : here.after (p :: ns) = next.after ns := by
        rw [Location.after, hnext]
      rw [hgoes, hafter]
      rcases ih hdir (fun n hn => hfit n (List.mem_cons_of_mem p hn)) fun ns hns e he =>
          hclear (p :: ns) ((List.prefix_cons_inj p).mpr hns) e (hafter ns ▸ he) with
        ⟨hfound, hdirs⟩ | ⟨hno, ns, hns, hnone⟩
      · refine .inl ⟨hfound, fun ns hns => ?_⟩
        cases ns with
        | nil => exact hd
        | cons n ns =>
          obtain ⟨rfl, hrest⟩ := List.cons_prefix_cons.mp hns
          rw [hafter]
          exact hdirs ns hrest
      · exact .inr ⟨hno, p :: ns, (List.prefix_cons_inj p).mpr hns, hafter ns ▸ hnone⟩
    by_cases hup : p = ".."
    · have habove := get?_of_prefix hd (List.dropLast_prefix here)
      exact hgo (if_pos hup) habove (hup ▸ follow_up hd _)
    · have hdown : LeadsDown p := ⟨by simpa using hi, hup, hfit p List.mem_cons_self⟩
      have hnext : here.after [p] = here ++ [p] := by rw [Location.after, if_neg hup, Location.after]
      have hpre : [p] <+: p :: ps.filter (!Path.isIdle ·) := ⟨_, rfl⟩
      cases he : t.get? (here ++ [p]) with
      | none =>
        refine .inr ⟨?_, [p], hpre, hnext ▸ he⟩
        rw [follow_down hd hdown, he]
        simp
      | some e =>
        obtain rfl := hclear [p] hpre e (hnext ▸ he)
        exact hgo (if_neg hup) he (by rw [follow_down hd hdown, he])

/-- A walk that gets to a directory meets nothing but directories. -/
theorem clear_of_follow (ht : t.SymlinkFree)
    (h : t.follow onLink here (ps ++ [""]) = .ok (.found l)) :
    (∀ n ∈ ps.filter (!Path.isIdle ·), n.utf8ByteSize ≤ nameLimit) ∧
      ∀ ns, ns <+: ps.filter (!Path.isIdle ·) → t.get? (here.after ns) = some .directory := by
  induction ps generalizing here with
  | nil =>
    refine ⟨by simp, fun ns hns => ?_⟩
    rw [List.prefix_nil.mp hns]
    exact (follow_empty_iff.mp h).1
  | cons p ps ih =>
    obtain ⟨hd, hnext⟩ := follow_cons_iff.mp h
    have hgo {next : Location} (hi : Path.isIdle p = false)
        (hnext : (if p = ".." then here.dropLast else here ++ [p]) = next)
        (hfit : p.utf8ByteSize ≤ nameLimit)
        (h : t.follow onLink next (ps ++ [""]) = .ok (.found l)) :
        (∀ n ∈ (p :: ps).filter (!Path.isIdle ·), n.utf8ByteSize ≤ nameLimit) ∧
          ∀ ns, ns <+: (p :: ps).filter (!Path.isIdle ·) →
            t.get? (here.after ns) = some .directory := by
      obtain ⟨hfits, hdirs⟩ := ih h
      rw [List.filter_cons_of_pos (by simp [hi])]
      refine ⟨fun n hn => ?_, fun ns hns => ?_⟩
      · rcases List.mem_cons.mp hn with rfl | hn
        · exact hfit
        · exact hfits n hn
      · cases ns with
        | nil => exact hd
        | cons n ns =>
          obtain ⟨rfl, hrest⟩ := List.cons_prefix_cons.mp hns
          rw [Location.after, hnext]
          exact hdirs ns hrest
    cases hnext with
    | idle hi h =>
      rw [List.filter_cons_of_neg (by simp [hi])]
      exact ih h
    | up hup h => exact hgo (hup ▸ by decide) (if_pos hup) (hup ▸ by decide) h
    | free _ _ hps _ => simp at hps
    | link _ he => exact absurd he (ht _ _)
    | entry hp _ _ h => exact hgo hp.1 (if_neg hp.2.1) hp.2.2 h

theorem walk_of_clear (links : Nat) (ps : List String) (hd : t.get? here = some .directory)
    (hfit : ∀ n ∈ ps.filter (!Path.isIdle ·), n.utf8ByteSize ≤ nameLimit)
    (hclear : ∀ ns, ns <+: ps.filter (!Path.isIdle ·) → ∀ e,
      t.get? (here.after ns) = some e → e = .directory) :
    (t.walk links here (ps ++ [""]) = .ok (.found (here.after (ps.filter (!Path.isIdle ·)))) ∧
      ∀ ns, ns <+: ps.filter (!Path.isIdle ·) → t.get? (here.after ns) = some .directory) ∨
    (t.walk links here (ps ++ [""]) = .error .noEntry ∧
      ∃ ns, ns <+: ps.filter (!Path.isIdle ·) ∧ t.get? (here.after ns) = none) := by
  cases links <;> exact follow_of_clear hd hfit hclear

theorem clear_of_walk (ht : t.SymlinkFree)
    (h : t.walk links here (ps ++ [""]) = .ok (.found l)) :
    (∀ n ∈ ps.filter (!Path.isIdle ·), n.utf8ByteSize ≤ nameLimit) ∧
      ∀ ns, ns <+: ps.filter (!Path.isIdle ·) → t.get? (here.after ns) = some .directory := by
  cases links <;> exact clear_of_follow ht h

/-- The way to a directory goes through directories alone. -/
theorem isDirectory_iff_way (ht : t.SymlinkFree) :
    t.isDirectory cwd p ↔ Path.IsUsable p ∧
      ∀ ns, ns <+: Path.steps p → t.get? ((cwd.start p).after ns) = some .directory := by
  rw [isDirectory_iff_walk, checkPath_eq_ok_iff]
  constructor
  · rintro ⟨⟨hne, hnul, hsize, -⟩, l, hw⟩
    have hclear := clear_of_walk ht ((walk_openPieces_iff ht hne).mpr hw)
    rw [Path.filter_openPieces] at hclear
    exact ⟨⟨hne, hnul, hsize, hclear.1⟩, hclear.2⟩
  · rintro ⟨⟨hne, hnul, hsize, hfit⟩, hway⟩
    have hstart : t.get? (cwd.start p) = some .directory := hway [] List.nil_prefix
    refine ⟨⟨hne, hnul, hsize, hstart⟩, cwd.reach p, (walk_openPieces_iff ht hne).mp ?_⟩
    rw [← Path.filter_openPieces] at hfit hway
    rcases walk_of_clear linkLimit _ hstart hfit
      (fun ns hns e he => Option.some.inj (he.symm.trans (hway ns hns))) with h | ⟨-, ns, hns, h⟩
    · rw [h.1, Location.reach, Path.filter_openPieces]
    · rw [hway ns hns] at h
      cases h

/-! ## Making what is missing -/

theorem exists_ancestors_go_eq_cons (fuel : Nat) (p : String) :
    ∃ above, ancestors.go fuel p = p :: above := by
  cases fuel <;> exact ⟨_, rfl⟩

/-- Once a directory and those above it are made, its way is a way through directories. -/
theorem way_of_createDirsAlong (ht : t.SymlinkFree) (hp : p ≠ "") {fuel : Nat}
    (h : createDirsAlong cwd (ancestors.go fuel p) t = (.ok (), u)) {ns : List String}
    (hns : ns <+: Path.steps p) : u.get? ((cwd.start p).after ns) = some .directory := by
  have hadds := createDirsAlong_adds_any t cwd (ancestors.go fuel p)
  rw [h] at hadds
  obtain ⟨above, hgo⟩ := exists_ancestors_go_eq_cons fuel p
  rw [hgo] at h
  have hd := isDirectory_of_createDirsAlong ht hp h
  exact ((isDirectory_iff_way (hadds.symlinkFree ht)).mp hd).2 ns hns

/-- The system takes the path, and what is there on its way are directories. -/
structure HasWay (t : FileTree) (cwd : Location) (p : String) : Prop where
  isUsable : Path.IsUsable p
  start : t.get? (cwd.start p) = some .directory
  directory : ∀ ns, ns <+: Path.steps p → ∀ e, t.get? ((cwd.start p).after ns) = some e →
    e = .directory

theorem hasWay_of_isDirectory (ht : t.SymlinkFree) (h : t.isDirectory cwd p) :
    t.HasWay cwd p := by
  obtain ⟨hu, hway⟩ := (isDirectory_iff_way ht).mp h
  exact ⟨hu, hway [] List.nil_prefix,
    fun ns hns e he => Option.some.inj (he.symm.trans (hway ns hns))⟩

namespace HasWay

/-- What fills a gap on the way with directories keeps the way. -/
theorem adds {allowed : Location → Prop} (h : t.HasWay cwd p)
    (hadds : AddsDirectories allowed t u) : u.HasWay cwd p := by
  refine ⟨h.isUsable, hadds.get?_of_some h.start, fun ns hns e he => ?_⟩
  rcases hadds ((cwd.start p).after ns) with hk | ⟨-, -, hk⟩
  · exact h.directory ns hns e (hk ▸ he)
  · exact (Option.some.inj (hk.symm.trans he)).symm

/-- What is at the end of the way is a directory. -/
theorem isDirectory_of_isSome (ht : t.SymlinkFree) (h : t.HasWay cwd p)
    (hsome : ∀ ns, ns <+: Path.steps p → (t.get? ((cwd.start p).after ns)).isSome) :
    t.isDirectory cwd p := by
  refine (isDirectory_iff_way ht).mpr ⟨h.isUsable, fun ns hns => ?_⟩
  obtain ⟨e, he⟩ := Option.isSome_iff_exists.mp (hsome ns hns)
  rw [he, h.directory ns hns e he]

/-- The path above has the beginning of the way. -/
theorem above (h : t.HasWay cwd p) {r : String} (hr : r ≠ "") (hpre : r.toList <+: p.toList)
    (hroot : Path.startsAtRoot r = Path.startsAtRoot p) (hsteps : Path.steps r <+: Path.steps p) :
    t.HasWay cwd r := by
  have hstart : cwd.start r = cwd.start p := by rw [Location.start, hroot, Location.start]
  obtain ⟨-, hnul, hsize, hfit⟩ := h.isUsable
  refine ⟨⟨hr, fun hc => hnul (hpre.subset hc), ?_, fun n hn => hfit n (hsteps.subset hn)⟩,
    hstart ▸ h.start, fun ns hns => hstart ▸ h.directory ns (hns.trans hsteps)⟩
  obtain ⟨cs, hcs⟩ := hpre
  have hp : p = r ++ String.ofList cs := by
    rw [← String.toList_inj, String.toList_append, String.toList_ofList, hcs]
  rw [hp, String.utf8ByteSize_append] at hsize
  omega

/-- The last directory on a way can be made, unless it is there or one before it is missing. -/
theorem createDir_cases (ht : t.SymlinkFree) (h : t.HasWay cwd p)
    (hlast : Path.isIdle last = false)
    (hp : Path.pieces p = before ++ last :: List.replicate k "") :
    (∃ u, t.createDir cwd p = .ok u) ∨
    (t.createDir cwd p = .error .alreadyExists ∧ t.isDirectory cwd p) ∨
    (t.createDir cwd p = .error .noEntry ∧
      ∃ ns, ns <+: before.filter (!Path.isIdle ·) ∧ t.get? ((cwd.start p).after ns) = none) := by
  have hsteps := filter_pieces_of_last hlast hp
  obtain ⟨hne, hnul, hsize, hfit⟩ := h.isUsable
  have hrev : (Path.pieces p).reverse.dropWhile (· == "") = last :: before.reverse := by
    have hne : last ≠ "" := by
      rintro rfl
      exact absurd hlast (by decide)
    rw [hp, Path.dropWhile_reverse_of_last (by simp) (by simpa using hne)]
  have hcheck := checkPath_eq_ok_iff.mpr ⟨hne, hnul, hsize, h.start⟩
  rcases walk_of_clear linkLimit before h.start
      (fun n hn => hfit n (hsteps ▸ List.mem_append_left _ hn))
      (fun ns hns => h.directory ns (hns.trans (hsteps ▸ List.prefix_append _ _))) with
    ⟨hwalk, hway⟩ | ⟨hwalk, hgap⟩
  · have hspot : t.spot cwd p = .ok ⟨(cwd.start p).after (before.filter (!Path.isIdle ·)), last,
        Path.endsWithSlash p⟩ := by
      unfold spot
      rw [hcheck, hrev]
      simp only [bind, Except.bind, List.reverse_reverse, hwalk]
    -- If something is at the end, then something is everywhere on the way.
    have hthere (hend : (t.get? (cwd.reach p)).isSome) : t.isDirectory cwd p := by
      refine h.isDirectory_of_isSome ht fun ns hns => ?_
      rw [hsteps, List.prefix_concat_iff] at hns
      rcases hns with rfl | hns
      · rwa [← hsteps]
      · rw [hway ns hns]
        rfl
    have hreach : cwd.reach p = if last = ".." then
        ((cwd.start p).after (before.filter (!Path.isIdle ·))).dropLast
        else (cwd.start p).after (before.filter (!Path.isIdle ·)) ++ [last] := by
      rw [Location.reach, hsteps, Location.after_append, Location.after, Location.after]
    unfold createDir
    rw [hspot]
    simp only [bind, Except.bind]
    by_cases hup : last = ".."
    · rw [if_pos hup] at hreach
      rw [if_pos fun hn => hn.2.2.1 hup]
      refine .inr (.inl ⟨rfl, hthere ?_⟩)
      rw [hreach, get?_of_prefix (hway _ List.prefix_rfl) (List.dropLast_prefix _)]
      rfl
    · rw [if_neg hup] at hreach
      have hname : IsName last := Path.isName_of_mem_pieces (by simp [hp]) hlast hup hnul
      have hlast : last.utf8ByteSize ≤ nameLimit := hfit last (by simp [hsteps])
      rw [if_neg (Classical.not_not.mpr hname), lookUp, if_neg (Nat.not_lt.mpr hlast), Spot.location,
        ← hreach]
      cases he : t.get? (cwd.reach p) with
      | none => exact .inl ⟨_, rfl⟩
      | some e => exact .inr (.inl ⟨rfl, hthere (by rw [he]; rfl)⟩)
  · refine .inr (.inr ⟨?_, hgap⟩)
    unfold createDir spot
    rw [hcheck, hrev]
    simp only [bind, Except.bind, List.reverse_reverse, hwalk]

theorem isDirectory_of_steps_eq_nil (ht : t.SymlinkFree) (h : t.HasWay cwd p)
    (hp : Path.steps p = []) : t.isDirectory cwd p :=
  h.isDirectory_of_isSome ht fun ns hns => by
    rw [hp, List.prefix_nil] at hns
    rw [hns, Location.after, h.start]
    rfl

/-- What is missing on a way is made. -/
theorem createDirsAlong_ancestors (ht : t.SymlinkFree) (h : t.HasWay cwd p)
    (hp : Path.steps p = [] ∨ Path.EndsInStep p) {fuel : Nat}
    (hfuel : (Path.steps p).length ≤ fuel) :
    ∃ u, createDirsAlong cwd (ancestors.go fuel p) t = (.ok (), u) := by
  induction fuel generalizing p with
  | zero =>
    have hsteps := List.eq_nil_of_length_eq_zero (Nat.le_zero.mp hfuel)
    exact ⟨t, createDirsAlong_of_isDirectory (h.isDirectory_of_steps_eq_nil ht hsteps) []⟩
  | succ fuel ih =>
    rw [ancestors.go]
    rcases hp with hsteps | ⟨before, last, k, hpieces, hlast⟩
    · exact ⟨t, createDirsAlong_of_isDirectory (h.isDirectory_of_steps_eq_nil ht hsteps) _⟩
    obtain ⟨r, hparent, hroot, hsteps, hpre, hr⟩ := Path.parent?_of_last hlast hpieces
    have hlonger := filter_pieces_of_last hlast hpieces
    have hstart : cwd.start r = cwd.start p := by rw [Location.start, hroot, Location.start]
    -- The directories above can be made, and then nothing but the last one is missing.
    obtain ⟨w, habove, hw⟩ : ∃ w, createDirsAlong cwd (ancestors.go fuel r) t = (.ok (), w) ∧
        ∀ ns, ns <+: before.filter (!Path.isIdle ·) →
          w.get? ((cwd.start p).after ns) = some .directory := by
      by_cases hne : r = ""
      · obtain ⟨above, hgo⟩ := exists_ancestors_go_eq_cons fuel r
        refine ⟨t, by rw [hgo, createDirsAlong, if_pos hne], fun ns hns => ?_⟩
        rw [← hsteps, hne, show Path.steps "" = [] by decide, List.prefix_nil] at hns
        rw [hns]
        exact h.start
      · have hway : t.HasWay cwd r := h.above hne hpre hroot (hsteps ▸ hlonger ▸ List.prefix_append _ _)
        obtain ⟨w, hw⟩ := ih hway hr (by
          rw [hlonger, List.length_append, List.length_singleton] at hfuel
          rw [hsteps]
          omega)
        exact ⟨w, hw, fun ns hns => hstart ▸ way_of_createDirsAlong ht hne hw (hsteps ▸ hns)⟩
    have hadds := createDirsAlong_adds_any t cwd (ancestors.go fuel r)
    rw [habove] at hadds
    simp only [hparent]
    rcases createDirsAlong_cons cwd p (ancestors.go fuel r) t h.isUsable.1 with ⟨u, -, hu⟩ |
      ⟨fault, hf, hne, hu⟩ | ⟨fault, u, -, hu, -⟩ | ⟨_, u, -, -, -, hu⟩ | ⟨v, fault, -, hv, hf, hu⟩
    · exact ⟨u, hu⟩
    · rcases h.createDir_cases ht hlast hpieces with ⟨u, hok⟩ | ⟨-, hd⟩ | ⟨hno, -⟩
      · rw [hok] at hf
        cases hf
      · exact ⟨t, by rw [hu, if_pos hd]⟩
      · rw [hno] at hf
        exact absurd (Except.error.inj hf).symm hne
    · rw [habove] at hu
      cases (Prod.mk.inj hu).1
    · exact ⟨u, hu⟩
    · obtain rfl : w = v := (Prod.mk.inj (habove.symm.trans hv)).2
      rcases (h.adds hadds).createDir_cases (hadds.symlinkFree ht) hlast hpieces with
        ⟨u, hok⟩ | ⟨-, hd⟩ | ⟨-, ns, hns, hnone⟩
      · rw [hok] at hf
        cases hf
      · exact ⟨w, by rw [hu, if_pos hd]⟩
      · rw [hw ns hns] at hnone
        cases hnone

end HasWay

/-- From a working directory that is not there nothing is made. -/
theorem start_of_createDirs
    (h : (t.createDirs cwd p).2.get? (cwd.start p) = some .directory) :
    t.get? (cwd.start p) = some .directory := by
  refine Classical.byContradiction fun hstart => ?_
  obtain ⟨above, ha, habove⟩ := ancestors_eq_cons p
  have hadds : AddsDirectories (fun _ => False) t (t.createDirs cwd p).2 := by
    refine createDirsAlong_adds (fun t => t.get? (cwd.start p) ≠ some .directory)
      (fun v w hv hadds => ?_) (fun v q s hv hq hs _ => hv ?_) hstart
    · rwa [hadds.get?_of_not not_false]
    · have hroot : cwd.start q = cwd.start p := by
        rw [ha] at hq
        rcases List.mem_cons.mp hq with rfl | hq
        · rfl
        · rw [Location.start, (habove q hq).2, Location.start]
      rw [← hroot]
      exact (checkPath_eq_ok_iff.mp (spot_eq_ok hs).1).2.2.2
  rw [hadds.get?_of_not not_false] at h
  exact hstart h

/-- A path that ends in a name can be made exactly where there is a way. -/
theorem createDirs_eq_ok_iff (ht : t.SymlinkFree) (hp : Path.endsInName p) :
    (∃ u, t.createDirs cwd p = (.ok (), u)) ↔ t.HasWay cwd p := by
  constructor
  · rintro ⟨u, h⟩
    have hadds := createDirs_adds t cwd p
    have hstart (hu : u.get? (cwd.start p) = some .directory) :
        t.get? (cwd.start p) = some .directory := start_of_createDirs (h ▸ hu)
    rw [h] at hadds
    obtain ⟨hu, hway⟩ := (isDirectory_iff_way (hadds.symlinkFree ht)).mp
      (isDirectory_of_createDirs ht (Path.ne_empty_of_endsInName hp) h)
    refine ⟨hu, hstart (hway [] List.nil_prefix), fun ns hns e he => ?_⟩
    exact Option.some.inj ((hadds.get?_of_some he).symm.trans (hway ns hns))
  · intro h
    exact h.createDirsAlong_ancestors ht (.inr (Path.endsInStep_of_endsInName hp))
      (List.length_filter_le _ _)

end FileTree

end BenchCheckout
