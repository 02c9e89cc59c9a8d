import BenchCheckout.Proofs.Archive.Places
import BenchCheckout.Proofs.Files.Links

/-!
# Absolute paths

`Path.IsResolved cwd p q` says that `q` is the absolute path of `p` from `cwd`: it starts at the
root, goes the same steps, and is its own absolute path wherever it is looked at.

* `Path.isResolved_of_absolute`: what is made absolute is resolved.
* `FileTree.find_eq_of_steps`: two paths that go the same steps lead to one place.
* `FileTree.find_absolute`: the absolute path of a name leads where the name leads.
-/

namespace BenchCheckout

namespace Path

variable {cwd p q a n : String}

/-! ## Fixed points -/

theorem absoluteDir_of_isNormal (h : IsNormal q) (cwd : String) : absoluteDir cwd q = q := by
  induction h with
  | root => rfl
  | doubleRoot => rfl
  | @join q n hq hn ih =>
    rw [absoluteDir, absoluteStart_join hn, steps_join hn.startsAtRoot_eq, hn.steps_eq,
      List.foldl_append, ← absoluteDir, ih, List.foldl_cons, List.foldl_nil]

theorem join_empty (q : String) : join q "" = if q = "" ∨ endsWithSlash q then q else q ++ "/" := by
  rw [join, if_neg (by decide)]
  split <;> simp

theorem rootMark_slash (hs : startsAtRoot q = true) (he : endsWithSlash q = false) :
    rootMark (q ++ "/") = rootMark q := by
  rw [rootMark, rootMark, String.toList_append]
  rw [startsAtRoot, beq_iff_eq] at hs
  rw [endsWithSlash, beq_eq_false_iff_ne] at he
  generalize q.toList = s at hs he ⊢
  rcases s with _ | ⟨c, _ | ⟨d, _ | ⟨e, r⟩⟩⟩
  · simp at hs
  · simp_all
  · simp_all
  · by_cases hd : d = '/' <;> by_cases h3 : e = '/' <;> simp_all

/-- A slash at the end changes nothing about the directory. -/
theorem absoluteDir_join_empty (h : IsNormal q) (cwd : String) :
    absoluteDir cwd (join q "") = q := by
  have hsteps : steps (join q "") = steps q := by
    rw [steps_join (by decide), show steps "" = [] by decide, List.append_nil]
  have hmark : rootMark (join q "") = rootMark q := by
    rw [join_empty]
    split
    · rfl
    · rename_i hc
      rw [not_or, Bool.not_eq_true] at hc
      exact rootMark_slash h.startsAtRoot_eq hc.2
  have hroot : startsAtRoot (join q "") = true := by
    rw [startsAtRoot_join (by decide), h.startsAtRoot_eq]
  have hstart : absoluteStart cwd (join q "") = absoluteStart cwd q := by
    rw [absoluteStart, absoluteStart, if_pos hroot, if_pos h.startsAtRoot_eq, hmark]
  rw [absoluteDir, hsteps, hstart, ← absoluteDir, absoluteDir_of_isNormal h]

theorem absolute_eq (hp : p ≠ "") (cwd : String) :
    absolute cwd p =
      .ok (if endsWithSlash p then join (absoluteDir cwd p) "" else absoluteDir cwd p) := by
  rw [absolute, if_neg hp]
  rfl

theorem endsWithSlash_join_empty (hq : q ≠ "") : endsWithSlash (join q "") = true := by
  rw [join_empty]
  split
  · rename_i h
    exact h.resolve_left hq
  · exact endsWithSlash_iff.mpr ⟨q, rfl⟩

theorem absolute_of_isNormal (h : IsNormal q) (cwd : String) : absolute cwd q = .ok q := by
  rw [absolute_eq h.ne_empty, absoluteDir_of_isNormal h]
  split
  · rename_i he
    rw [join_empty, if_pos (.inr he)]
  · rfl

theorem absolute_join_empty (h : IsNormal q) (cwd : String) :
    absolute cwd (join q "") = .ok (join q "") := by
  have he := endsWithSlash_join_empty h.ne_empty
  have hne : join q "" ≠ "" := by
    intro hc
    rw [hc] at he
    exact absurd he (by decide)
  rw [absolute_eq hne, absoluteDir_join_empty h, if_pos he]

/-! ## Paths that are resolved -/

/-- `q` is the absolute path of `p` from `cwd`: it starts at the root, goes where `p` goes from
`cwd`, step by step, and means the same wherever it is looked at. -/
structure IsResolved (cwd : Location) (p q : String) : Prop where
  startsAtRoot_eq : startsAtRoot q = true
  steps_eq : steps q = cwd.along p
  fixed : ∀ elsewhere, absolute elsewhere q = .ok q

theorem isResolved_of_absolute {cwd : Location} (hcwd : ∀ n ∈ cwd, IsName n)
    (h : absolute cwd.text p = .ok q) : IsResolved cwd p q := by
  have hp : p ≠ "" := by
    rintro rfl
    cases h
  have hnormal := isNormal_absoluteDir (Location.isNormal_text hcwd) p
  have hsteps : steps (absoluteDir cwd.text p) = cwd.along p := by
    rw [steps_absoluteDir, Location.steps_text hcwd, Location.along, Location.start]
  rw [absolute_eq hp, Except.ok.injEq] at h
  subst h
  split
  · refine ⟨?_, ?_, absolute_join_empty hnormal⟩
    · rw [startsAtRoot_join (by decide), hnormal.startsAtRoot_eq]
    · rw [steps_join (by decide), hsteps, show steps "" = [] by decide, List.append_nil]
  · exact ⟨hnormal.startsAtRoot_eq, hsteps, absolute_of_isNormal hnormal⟩

/-- Only the empty path has no absolute path. -/
theorem exists_absolute (hp : p ≠ "") (cwd : String) : ∃ q, absolute cwd p = .ok q :=
  ⟨_, absolute_eq hp cwd⟩

end Path

/-! ## Where an absolute path leads -/

namespace Path

variable {p : String} {ps qs : List String}

/-- The pieces that lead somewhere. -/
def busy (ps : List String) : List String := ps.filter (!isIdle ·)

theorem not_endsIdle_nil : ¬ EndsIdle [] := by
  rintro ⟨q, h, -⟩
  cases h

theorem not_endsIdle_of_cons (h : ¬ EndsIdle (p :: ps)) : ¬ EndsIdle ps := by
  by_cases hps : ps = []
  · subst hps
    exact not_endsIdle_nil
  · rwa [← endsIdle_cons hps]

theorem endsIdle_append (hq : qs ≠ []) : EndsIdle (ps ++ qs) ↔ EndsIdle qs := by
  rw [EndsIdle, EndsIdle, List.getLast?_append, List.getLast?_eq_some_getLast hq, Option.some_or]

theorem endsIdle_join {a b : String} (hb : startsAtRoot b = false) :
    EndsIdle (pieces (join a b)) ↔ EndsIdle (pieces b) := by
  rw [pieces_join hb, endsIdle_append (pieces_ne_nil b)]

theorem not_endsIdle_join {a n : String} (hn : IsStep n) : ¬ EndsIdle (pieces (join a n)) := by
  rw [endsIdle_join hn.startsAtRoot_eq, hn.pieces_eq, endsIdle_singleton, hn.2]
  exact Bool.false_ne_true

theorem busy_eq_nil_iff (h : ¬ EndsIdle ps) : busy ps = [] ↔ ps = [] := by
  refine ⟨fun hb => ?_, fun hps => by rw [hps]; rfl⟩
  by_contra hne
  obtain ⟨qs, q, rfl⟩ := List.eq_nil_or_concat ps |>.resolve_left hne
  rw [List.concat_eq_append, endsIdle_concat] at h
  rw [busy, List.filter_eq_nil_iff] at hb
  exact hb q (by simp) (by simpa using h)

theorem not_endsIdle_busy (ps : List String) : ¬ EndsIdle (busy ps) := by
  rintro ⟨q, hq, hi⟩
  have := List.mem_filter.mp (List.mem_of_getLast? hq)
  simp [hi] at this

end Path

namespace FileTree

variable {t : FileTree} {cwd here : Location} {ps ns : List String} {links : Nat}
  {onLink onLink' : Location → String → List String → Except Fault Place}

open BenchCheckout.Path (EndsIdle busy)

/-- An idle piece in front of another one asks for a directory, as that one does. -/
theorem follow_busy
    (hlink : ∀ l target rest, ¬ EndsIdle rest → onLink l target rest = onLink' l target (busy rest))
    (h : ¬ EndsIdle ps) : t.follow onLink here ps = t.follow onLink' here (busy ps) := by
  induction ps generalizing here with
  | nil => rfl
  | cons p ps ih =>
    have hps := Path.not_endsIdle_of_cons h
    by_cases hp : Path.isIdle p = true
    · have hbusy : busy (p :: ps) = busy ps := by simp [busy, hp]
      have hne : ps ≠ [] := by
        rintro rfl
        exact h (Path.endsIdle_singleton.mpr hp)
      obtain ⟨q, qs, hq⟩ := List.exists_cons_of_ne_nil
        (mt (Path.busy_eq_nil_iff hps).mp hne)
      rw [hbusy, follow, if_pos hp]
      split
      · rename_i hd
        rw [hq, follow, if_pos hd]
      · exact ih hps
    · have hbusy : busy (p :: ps) = p :: busy ps := by simp [busy, hp]
      have hempty : (busy ps).isEmpty = ps.isEmpty := by
        rw [Bool.eq_iff_iff, List.isEmpty_iff, List.isEmpty_iff, Path.busy_eq_nil_iff hps]
      rw [hbusy, follow, follow, if_neg hp, if_neg hp, hempty]
      simp only [ih hps, hlink _ _ _ hps]

theorem walk_busy (h : ¬ EndsIdle ps) : t.walk links here ps = t.walk links here (busy ps) := by
  induction links generalizing here ps with
  | zero => exact follow_busy (fun _ _ _ _ => rfl) h
  | succ links ih =>
    refine follow_busy (fun l target rest hrest => ?_) h
    by_cases hne : rest = []
    · subst hne
      rfl
    · have hbusy : busy rest ≠ [] := mt (Path.busy_eq_nil_iff hrest).mp hne
      have hall : busy (Path.pieces target ++ busy rest) = busy (Path.pieces target ++ rest) := by
        simp [busy]
      rw [ih (mt (Path.endsIdle_append hne).mp hrest), ← hall,
        ← ih (mt (Path.endsIdle_append hbusy).mp (Path.not_endsIdle_busy rest))]

/-- The names of a directory's location lead there from the root, or from a directory above it. -/
theorem follow_names (hd : t.get? (here ++ ns) = some .directory)
    (hfit : ∀ n ∈ ns, n.utf8ByteSize ≤ nameLimit) :
    t.follow onLink here (ns ++ ps) = t.follow onLink (here ++ ns) ps := by
  induction ns generalizing here with
  | nil => rw [List.nil_append, List.append_nil]
  | cons n ns ih =>
    have hn : IsName n := isName_of_get? hd (by simp)
    have hnext : t.get? (here ++ [n]) = some .directory := by
      by_cases hns : ns = []
      · rwa [hns] at hd
      · rw [List.append_cons] at hd
        exact get?_of_append hd hns
    rw [List.forall_mem_cons] at hfit
    rw [List.append_cons] at hd ⊢
    rw [List.cons_append, follow, if_neg (by simp [get?_parent hnext]),
      if_neg (by simp [Path.isIdle, hn.1, hn.2.1]), if_neg hn.2.2.1, if_neg (by omega), hnext]
    exact ih hd hfit.2

theorem walk_names (hd : t.get? (here ++ ns) = some .directory)
    (hfit : ∀ n ∈ ns, n.utf8ByteSize ≤ nameLimit) :
    t.walk links here (ns ++ ps) = t.walk links (here ++ ns) ps := by
  cases links with
  | zero => exact follow_names hd hfit
  | succ links => exact follow_names hd hfit

/-- Where idle pieces are not the last, a path goes by its steps. -/
theorem resolve_of_not_endsIdle {p : String} (hidle : ¬ EndsIdle (Path.pieces p))
    (h : t.checkPath cwd p = .ok ()) :
    t.resolve cwd p = t.walk linkLimit (cwd.start p) (Path.steps p) := by
  unfold resolve
  rw [h]
  exact walk_busy hidle

/-- Two paths lead to one place, each from its own directory, if the second one starts at the root
and goes the same steps. -/
theorem find_eq_of_steps {p q : String} (hp : ¬ EndsIdle (Path.pieces p))
    (hq : ¬ EndsIdle (Path.pieces q)) (hcheck : t.checkPath cwd p = .ok ())
    (husable : Path.IsUsable q) (hroot : Path.startsAtRoot q = true)
    (hsteps : Path.steps q = cwd.along p) (elsewhere : Location) :
    t.find elsewhere q = t.find cwd p := by
  have hstart : elsewhere.start q = [] := by rw [Location.start, if_pos hroot]
  have hcheck' : t.checkPath elsewhere q = .ok () :=
    checkPath_eq_ok_iff.mpr
      ⟨husable.1, husable.2.1, husable.2.2.1, by rw [hstart, get?_root]⟩
  have hd : t.get? ([] ++ cwd.start p) = some .directory :=
    (checkPath_eq_ok_iff.mp hcheck).2.2.2
  have hfit : ∀ m ∈ cwd.start p, m.utf8ByteSize ≤ nameLimit := by
    intro m hm
    refine husable.2.2.2 m ?_
    rw [hsteps, Location.along]
    exact List.mem_append_left _ hm
  have hresolve : t.resolve elsewhere q = t.resolve cwd p := by
    rw [resolve_of_not_endsIdle hq hcheck', resolve_of_not_endsIdle hp hcheck, hstart, hsteps,
      Location.along, walk_names hd hfit, List.nil_append]
  unfold find locate
  rw [hresolve]

/-- The absolute path of a name in a directory leads, from everywhere, where the name leads. -/
theorem find_absolute {a n : String} (hcwd : ∀ n ∈ cwd, IsName n) (hn : Path.IsStep n)
    (hp : t.checkPath cwd (Path.join a n) = .ok ())
    (hq : Path.IsUsable (Path.join (Path.absoluteDir cwd.text a) n)) (elsewhere : Location) :
    t.find elsewhere (Path.join (Path.absoluteDir cwd.text a) n) =
      t.find cwd (Path.join a n) := by
  have hres := Path.isResolved_of_absolute hcwd (@Path.absolute_join cwd.text a n hn)
  exact find_eq_of_steps (Path.not_endsIdle_join hn) (Path.not_endsIdle_join hn) hp hq
    hres.startsAtRoot_eq hres.steps_eq elsewhere

/-- What is found at a path is found at a path that the system takes. -/
theorem checkPath_of_find {p : String} {found : Location × Entry}
    (h : t.find cwd p = .ok found) : t.checkPath cwd p = .ok () := by
  cases hc : t.checkPath cwd p with
  | ok => rfl
  | error fault =>
    unfold find locate resolve at h
    rw [hc] at h
    cases h

/-! ## Making a path absolute -/

theorem hasStart_of_find {p : String} {found : Location × Entry} (h : t.find cwd p = .ok found) :
    t.hasStart cwd p = true :=
  hasStart_iff.mpr (checkPath_eq_ok_iff.mp (checkPath_of_find h)).2.2.2

theorem hasStart_of_isDirectory {p : String} (h : t.isDirectory cwd p) :
    t.hasStart cwd p = true := by
  obtain ⟨l, hfind⟩ := isDirectory_iff_find.mp h
  exact hasStart_of_find hfind

theorem hasStart_of_isFile {p : String} (h : t.isFile cwd p) : t.hasStart cwd p = true := by
  unfold isFile at h
  split at h
  · rename_i hfind
    exact hasStart_of_find hfind
  · cases h

theorem absolute_eq_ok_iff {p q : String} :
    t.absolute cwd p = .ok q ↔ Path.absolute cwd.text p = .ok q ∧ t.hasStart cwd p := by
  unfold absolute
  rw [bind_eq_ok]
  cases t.hasStart cwd p <;> simp

theorem ne_empty_of_absolute {p q : String} (h : t.absolute cwd p = .ok q) : p ≠ "" := by
  rintro rfl
  cases h

theorem isResolved_of_absolute {p q : String} (hcwd : ∀ n ∈ cwd, IsName n)
    (h : t.absolute cwd p = .ok q) : Path.IsResolved cwd p q :=
  Path.isResolved_of_absolute hcwd (absolute_eq_ok_iff.mp h).1

/-- Only the empty path has no absolute path where there is a directory to start from. -/
theorem exists_absolute {p : String} (hp : p ≠ "") (h : t.hasStart cwd p) :
    ∃ q, t.absolute cwd p = .ok q :=
  have ⟨q, hq⟩ := Path.exists_absolute hp cwd.text
  ⟨q, absolute_eq_ok_iff.mpr ⟨hq, h⟩⟩

end FileTree

end BenchCheckout
