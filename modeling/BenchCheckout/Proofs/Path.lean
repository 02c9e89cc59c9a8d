import BenchCheckout.Path

/-!
# Pieces and steps of paths that are put together

* `cut_eq_iff`: a text is cut into the texts without the separator that it is put together from.
* `pieces_join`, `steps_join`: the pieces and the steps of a joined path are those of its parts.
* `IsNormal`: an absolute path without idle pieces, as `absolute` makes it. Its parent and its
  extension are found by its last piece (`parent?_join`, `withExtension_join`).
* `absolute_join`: an absolute path ends in the name that the path ends in.
-/

namespace BenchCheckout.Path

/-! ## Cutting -/

theorem cut_append (sep : Char) (a b : List Char) :
    cut sep (a ++ sep :: b) = cut sep a ++ cut sep b := by
  induction a with
  | nil => simp [cut]
  | cons c a ih =>
    by_cases hc : c = sep
    · simp [cut, hc, ih]
    · rw [List.cons_append, cut, if_neg hc, ih, cut, if_neg hc]
      cases h : cut sep a with
      | nil => exact absurd h (cut_ne_nil sep a)
      | cons l ls => rfl

theorem cut_of_not_mem {sep : Char} {s : List Char} (h : sep ∉ s) : cut sep s = [s] := by
  induction s with
  | nil => rfl
  | cons c s ih =>
    rw [cut, if_neg (by rintro rfl; simp at h), ih (fun hs => h (List.mem_cons_of_mem c hs))]

theorem not_mem_of_mem_cut {sep : Char} {s l : List Char} (h : l ∈ cut sep s) : sep ∉ l := by
  induction s generalizing l with
  | nil =>
    simp only [cut, List.mem_singleton] at h
    simp [h]
  | cons c s ih =>
    rw [cut] at h
    split at h
    · rcases List.mem_cons.mp h with rfl | h
      · simp
      · exact ih h
    · rename_i hc
      cases hs : cut sep s with
      | nil => exact absurd hs (cut_ne_nil _ _)
      | cons k ks =>
        rw [hs] at h ih
        rcases List.mem_cons.mp h with rfl | h
        · simp [Ne.symm hc, ih List.mem_cons_self]
        · exact ih (List.mem_cons_of_mem k h)

/-- A row of texts is found again in the text that has the separator between each two. -/
theorem cut_intercalate {sep : Char} {ls : List (List Char)} (h : ls ≠ [])
    (hs : ∀ l ∈ ls, sep ∉ l) : cut sep ([sep].intercalate ls) = ls := by
  induction ls with
  | nil => exact absurd rfl h
  | cons l ls ih =>
    have hl := cut_of_not_mem (hs l List.mem_cons_self)
    cases ls with
    | nil => rwa [List.intercalate_singleton]
    | cons k ks =>
      rw [List.intercalate_cons_cons, List.append_assoc, List.singleton_append, cut_append, hl,
        ih (by simp) fun j hj => hs j (List.mem_cons_of_mem l hj), List.singleton_append]

theorem mem_of_mem_intercalate {sep c : Char} {ls : List (List Char)}
    (h : c ∈ [sep].intercalate ls) : c = sep ∨ ∃ l ∈ ls, c ∈ l := by
  induction ls with
  | nil => cases h
  | cons l ls ih =>
    cases ls with
    | nil => exact .inr ⟨l, List.mem_singleton_self l, by rwa [List.intercalate_singleton] at h⟩
    | cons k ks =>
      rw [List.intercalate_cons_cons, List.append_assoc, List.mem_append, List.mem_append,
        List.mem_singleton] at h
      rcases h with h | rfl | h
      · exact .inr ⟨l, List.mem_cons_self, h⟩
      · exact .inl rfl
      · exact (ih h).imp_right fun ⟨m, hm, hc⟩ => ⟨m, List.mem_cons_of_mem l hm, hc⟩

/-- A cut gives the only row of texts that have no separator and make up the text with one between
each two. -/
theorem cut_eq_iff {sep : Char} {s : List Char} {ls : List (List Char)} :
    cut sep s = ls ↔ ls ≠ [] ∧ (∀ l ∈ ls, sep ∉ l) ∧ s = [sep].intercalate ls := by
  constructor
  · rintro rfl
    exact ⟨cut_ne_nil sep s, fun l hl => not_mem_of_mem_cut hl, (intercalate_cut sep s).symm⟩
  · rintro ⟨hne, hsep, rfl⟩
    exact cut_intercalate hne hsep

/-! ## Pieces -/

theorem pieces_empty : pieces "" = [""] := by decide

theorem pieces_append_slash (a b : String) : pieces (a ++ "/" ++ b) = pieces a ++ pieces b := by
  have h : (a ++ "/" ++ b).toList = a.toList ++ '/' :: b.toList := by simp
  simp [pieces, h, cut_append]

theorem pieces_slash (a : String) : pieces (a ++ "/") = pieces a ++ [""] := by
  simpa [pieces_empty] using pieces_append_slash a ""

theorem pieces_ne_nil (p : String) : pieces p ≠ [] := by
  simp [pieces, cut_ne_nil]

theorem pieces_injective {p q : String} (h : pieces p = pieces q) : p = q := by
  rw [← ofPieces_pieces p, h, ofPieces_pieces]

/-- A text that can stand as one piece of a path, and that leads somewhere. -/
def IsStep (n : String) : Prop := '/' ∉ n.toList ∧ isIdle n = false

instance (n : String) : Decidable (IsStep n) := inferInstanceAs (Decidable (_ ∧ _))

theorem pieces_of_bare {n : String} (h : '/' ∉ n.toList) : pieces n = [n] := by
  simp [pieces, cut_of_not_mem h]

theorem IsStep.pieces_eq {n : String} (h : IsStep n) : pieces n = [n] := pieces_of_bare h.1

theorem IsStep.ne_empty {n : String} (h : IsStep n) : n ≠ "" := by
  rintro rfl
  exact absurd h.2 (by decide)

theorem IsStep.startsAtRoot_eq {n : String} (h : IsStep n) : startsAtRoot n = false := by
  rw [startsAtRoot, beq_eq_false_iff_ne]
  intro hc
  exact h.1 (List.mem_of_mem_head? hc)

theorem IsStep.endsWithSlash_eq {n : String} (h : IsStep n) : endsWithSlash n = false := by
  rw [endsWithSlash, beq_eq_false_iff_ne]
  intro hc
  exact h.1 (List.mem_of_mem_getLast? hc)

theorem endsWithSlash_iff {a : String} : endsWithSlash a ↔ ∃ b, a = b ++ "/" := by
  rw [endsWithSlash, beq_iff_eq]
  constructor
  · intro h
    obtain ⟨ys, hy⟩ := List.getLast?_eq_some_iff.mp h
    exact ⟨String.ofList ys, String.toList_injective (by simpa using hy)⟩
  · rintro ⟨b, rfl⟩
    simp

/-- The pieces that something joined to `a` comes behind: without an empty one at the end. -/
def openPieces (a : String) : List String :=
  if a = "" ∨ endsWithSlash a then (pieces a).dropLast else pieces a

theorem openPieces_append_slash (b : String) : openPieces (b ++ "/") = pieces b := by
  rw [openPieces, if_pos (.inr (endsWithSlash_iff.mpr ⟨b, rfl⟩)), pieces_slash]
  simp

theorem openPieces_of_not {a : String} (ha : a ≠ "") (h : endsWithSlash a = false) :
    openPieces a = pieces a := by
  rw [openPieces, if_neg (by simp [ha, h])]

theorem pieces_join {a b : String} (hb : startsAtRoot b = false) :
    pieces (join a b) = openPieces a ++ pieces b := by
  rw [join, if_neg (by simp [hb])]
  by_cases ha : a = ""
  · subst ha
    simp [openPieces, pieces_empty]
  · cases hs : endsWithSlash a with
    | true =>
      obtain ⟨c, rfl⟩ := endsWithSlash_iff.mp hs
      rw [if_pos (.inr rfl), openPieces_append_slash, pieces_append_slash]
    | false =>
      rw [if_neg (by simp [ha]), openPieces_of_not ha hs, pieces_append_slash]

theorem startsAtRoot_append {a : String} (ha : a ≠ "") (b : String) :
    startsAtRoot (a ++ b) = startsAtRoot a := by
  cases h : a.toList with
  | nil => exact absurd (String.toList_eq_nil_iff.mp h) ha
  | cons c s => simp [startsAtRoot, h]

theorem startsAtRoot_join {a b : String} (hb : startsAtRoot b = false) :
    startsAtRoot (join a b) = startsAtRoot a := by
  rw [join, if_neg (by simp [hb])]
  by_cases ha : a = ""
  · subst ha
    simpa [startsAtRoot] using hb
  · split
    · exact startsAtRoot_append ha b
    · rw [String.append_assoc, startsAtRoot_append ha]

theorem endsWithSlash_append {a b : String} (hb : b ≠ "") :
    endsWithSlash (a ++ b) = endsWithSlash b := by
  have h : b.toList ≠ [] := fun h => hb (String.toList_eq_nil_iff.mp h)
  simp [endsWithSlash, List.getLast?_append, List.getLast?_eq_some_getLast h]

theorem endsWithSlash_join {a n : String} (hn : IsStep n) : endsWithSlash (join a n) = false := by
  rw [join, if_neg (by simp [hn.startsAtRoot_eq])]
  split <;> rw [endsWithSlash_append hn.ne_empty, hn.endsWithSlash_eq]

theorem toList_join {a n : String} (hn : IsStep n) :
    ∃ s, (join a n).toList = a.toList ++ s ++ n.toList := by
  rw [join, if_neg (by simp [hn.startsAtRoot_eq])]
  split
  · exact ⟨[], by simp⟩
  · exact ⟨['/'], by simp⟩

theorem utf8ByteSize_le_join {a n : String} (hn : IsStep n) :
    a.utf8ByteSize ≤ (join a n).utf8ByteSize := by
  rw [join, if_neg (by simp [hn.startsAtRoot_eq])]
  split
  · simp [String.utf8ByteSize_append]
  · simp [String.utf8ByteSize_append]
    omega

theorem join_ne_empty {a n : String} (hn : IsStep n) : join a n ≠ "" := by
  intro h
  have hp : openPieces a ++ pieces n = [""] := by
    rw [← pieces_join hn.startsAtRoot_eq, h, pieces_empty]
  rw [hn.pieces_eq] at hp
  have := congrArg List.getLast? hp
  simp only [List.getLast?_concat, List.getLast?_singleton, Option.some.injEq] at this
  exact hn.ne_empty this

/-! ## Steps -/

theorem mem_steps {p n : String} : n ∈ steps p ↔ n ∈ pieces p ∧ isIdle n = false := by
  simp [steps]

theorem not_mem_pieces_of_not_mem_steps {p n : String} (hn : isIdle n = false)
    (h : n ∉ steps p) : n ∉ pieces p :=
  fun hp => h (mem_steps.mpr ⟨hp, hn⟩)

theorem filter_openPieces (a : String) : (openPieces a).filter (!isIdle ·) = steps a := by
  by_cases ha : a = ""
  · subst ha; decide
  · cases hs : endsWithSlash a with
    | true =>
      obtain ⟨c, rfl⟩ := endsWithSlash_iff.mp hs
      rw [openPieces_append_slash, steps, pieces_slash, List.filter_append]
      simp [isIdle]
    | false => rw [openPieces_of_not ha hs, steps]

theorem steps_join {a b : String} (hb : startsAtRoot b = false) :
    steps (join a b) = steps a ++ steps b := by
  rw [steps, pieces_join hb, List.filter_append, filter_openPieces, ← steps]

theorem IsStep.steps_eq {n : String} (h : IsStep n) : steps n = [n] := by
  rw [steps, h.pieces_eq]
  simp [h.2]

theorem not_mem_of_mem_pieces {p n : String} (h : n ∈ pieces p) : '/' ∉ n.toList := by
  obtain ⟨l, hl, rfl⟩ := List.mem_map.mp h
  rw [String.toList_ofList]
  exact not_mem_of_mem_cut hl

/-- Each character of a path is a slash or in one of its pieces. -/
theorem mem_toList {p : String} {c : Char} (h : c ∈ p.toList) :
    c = '/' ∨ ∃ n ∈ pieces p, c ∈ n.toList := by
  rw [← intercalate_cut '/' p.toList] at h
  exact (mem_of_mem_intercalate h).imp_right fun ⟨l, hl, hc⟩ =>
    ⟨String.ofList l, List.mem_map_of_mem hl, by rwa [String.toList_ofList]⟩

theorem isStep_of_mem_steps {p n : String} (h : n ∈ steps p) : IsStep n :=
  ⟨not_mem_of_mem_pieces (mem_steps.mp h).1, (mem_steps.mp h).2⟩

/-! ## Normal paths -/

/-- An absolute path without idle pieces, apart from the root and its double. -/
inductive IsNormal : String → Prop where
  | root : IsNormal "/"
  | doubleRoot : IsNormal "//"
  | join {q n : String} (hq : IsNormal q) (hn : IsStep n) : IsNormal (Path.join q n)

/-- The last piece of a normal path says something, unless the path is a root. -/
theorem IsNormal.pieces_eq {q : String} (h : IsNormal q) :
    q = "/" ∨ q = "//" ∨ ∃ ps m, pieces q = "" :: ps ++ [m] ∧ isIdle m = false := by
  induction h with
  | root => exact .inl rfl
  | doubleRoot => exact .inr (.inl rfl)
  | @join q n hq hn ih =>
    have hp : pieces (Path.join q n) = openPieces q ++ [n] := by
      rw [pieces_join hn.startsAtRoot_eq, hn.pieces_eq]
    refine .inr (.inr ?_)
    rcases ih with rfl | rfl | ⟨ps, m, h, hm⟩
    · exact ⟨[], n, by rw [hp, show openPieces "/" = [""] by decide], hn.2⟩
    · exact ⟨[""], n, by rw [hp, show openPieces "//" = ["", ""] by decide], hn.2⟩
    · refine ⟨ps ++ [m], n, ?_, hn.2⟩
      rw [hp, openPieces_of_not (ne_empty_of_pieces h) (endsWithSlash_of_pieces h hm), h]
      simp
where
  ne_empty_of_pieces {q : String} {ps : List String} {m : String}
      (h : pieces q = "" :: ps ++ [m]) : q ≠ "" := by
    rintro rfl
    rw [pieces_empty] at h
    simp at h
  endsWithSlash_of_pieces {q : String} {ps : List String} {m : String}
      (h : pieces q = "" :: ps ++ [m]) (hm : isIdle m = false) : endsWithSlash q = false := by
    rw [Bool.eq_false_iff, ne_eq, endsWithSlash_iff]
    rintro ⟨b, rfl⟩
    rw [pieces_slash] at h
    obtain ⟨-, h⟩ := List.append_inj' h rfl
    simp only [List.cons.injEq, and_true] at h
    rw [← h] at hm
    exact absurd hm (by decide)

theorem IsNormal.ne_empty {q : String} (h : IsNormal q) : q ≠ "" := by
  rcases h.pieces_eq with rfl | rfl | ⟨ps, m, h, -⟩
  · decide
  · decide
  · exact IsNormal.pieces_eq.ne_empty_of_pieces h

theorem IsNormal.startsAtRoot_eq {q : String} (h : IsNormal q) : startsAtRoot q = true := by
  induction h with
  | root => decide
  | doubleRoot => decide
  | join hq hn ih => rw [startsAtRoot_join hn.startsAtRoot_eq, ih]

/-- A normal path without the slashes of a root at its end. -/
theorem IsNormal.openPieces_eq {q : String} (h : IsNormal q) :
    q = "/" ∨ q = "//" ∨ openPieces q = pieces q := by
  rcases h.pieces_eq with h | h | ⟨ps, m, h, hm⟩
  · exact .inl h
  · exact .inr (.inl h)
  · exact .inr (.inr (openPieces_of_not (IsNormal.pieces_eq.ne_empty_of_pieces h)
      (IsNormal.pieces_eq.endsWithSlash_of_pieces h hm)))

theorem isNormal_foldl_join {q : String} (hq : IsNormal q) {ns : List String}
    (hns : ∀ n ∈ ns, IsStep n) : IsNormal (ns.foldl join q) := by
  induction ns generalizing q with
  | nil => exact hq
  | cons n ns ih =>
    exact ih (.join hq (hns n List.mem_cons_self))
      (fun m hm => hns m (List.mem_cons_of_mem n hm))

theorem steps_foldl_join {q : String} {ns : List String} (hns : ∀ n ∈ ns, IsStep n) :
    steps (ns.foldl join q) = steps q ++ ns := by
  induction ns generalizing q with
  | nil => simp
  | cons n ns ih =>
    have hn := hns n List.mem_cons_self
    rw [List.foldl_cons, ih (fun m hm => hns m (List.mem_cons_of_mem n hm)),
      steps_join hn.startsAtRoot_eq, hn.steps_eq, List.append_assoc, List.singleton_append]

/-- The last piece is the first one from the end that is not empty. -/
theorem dropWhile_reverse_of_last {f : String → Bool} {last : String} (hempty : f "" = true)
    (hlast : f last = false) (ps : List String) (k : Nat) :
    (ps ++ last :: List.replicate k "").reverse.dropWhile f = last :: ps.reverse := by
  rw [List.reverse_append, List.reverse_cons, List.reverse_replicate, List.append_assoc,
    List.dropWhile_append_of_pos (by simp [hempty])]
  simp [hlast]

theorem trimIdle_concat {ps : List String} {n : String} (hn : isIdle n = false) :
    trimIdle (ps ++ [n]) = ps ++ [n] := by
  cases ps with
  | nil => simp [trimIdle]
  | cons q qs => simp [trimIdle, hn]

theorem parent?_eq {p n : String} {ps : List String} (h : trimIdle (pieces p) = ps ++ [n])
    (hn : isIdle n = false) :
    parent? p =
      match trimIdle ps with
      | [] => some ""
      | [""] => some "/"
      | qs => some (ofPieces qs) := by
  have hne : ps ++ [n] ≠ [""] := by
    intro h'
    have := congrArg List.getLast? h'
    simp only [List.getLast?_concat, List.getLast?_singleton, Option.some.injEq] at this
    rw [this] at hn
    exact absurd hn (by decide)
  rw [parent?, h]
  split
  · rename_i h'; simp at h'
  · rename_i h'; exact absurd h' hne
  · exact congrArg (fun qs => match trimIdle qs with
      | [] => some ""
      | [""] => some "/"
      | qs => some (ofPieces qs)) List.dropLast_concat

theorem parent?_join {q n : String} (hq : IsNormal q) (hn : IsStep n) :
    parent? (join q n) = some (if q = "//" then "/" else q) := by
  have hp : trimIdle (pieces (join q n)) = openPieces q ++ [n] := by
    rw [pieces_join hn.startsAtRoot_eq, hn.pieces_eq, trimIdle_concat hn.2]
  rw [parent?_eq hp hn.2]
  rcases hq.pieces_eq with rfl | rfl | ⟨ps, m, h, hm⟩
  · decide
  · decide
  · have hs := IsNormal.pieces_eq.endsWithSlash_of_pieces h hm
    have hne : q ≠ "//" := by
      rintro rfl
      exact absurd hs (by decide)
    have ht : trimIdle (openPieces q) = pieces q := by
      rw [openPieces_of_not hq.ne_empty hs, h, trimIdle_concat hm]
    rw [if_neg hne, ht]
    split
    · rename_i h'; exact absurd h' (pieces_ne_nil q)
    · rename_i h'; rw [h] at h'; simp at h'
    · rw [ofPieces_pieces]

theorem withExtension_join {q n ext : String} (hn : IsStep n) (hup : n ≠ "..")
    (he : IsStep (stem n ++ "." ++ ext)) :
    withExtension (join q n) ext = join q (stem n ++ "." ++ ext) := by
  have hp : trimIdle (pieces (join q n)) = openPieces q ++ [n] := by
    rw [pieces_join hn.startsAtRoot_eq, hn.pieces_eq, trimIdle_concat hn.2]
  have hf : fileName? (join q n) = some n := by
    rw [fileName?, hp]
    split
    · rename_i h; simp at h
    · simp [hn.2, hup]
  rw [withExtension, hf]
  simp only [hp, List.dropLast_concat]
  rw [← he.pieces_eq, ← pieces_join he.startsAtRoot_eq, ofPieces_pieces]

/-! ## Absolute paths -/

theorem rootMark_eq (p : String) : rootMark p = "/" ∨ rootMark p = "//" := by
  unfold rootMark
  split <;> simp

theorem isNormal_rootMark (p : String) : IsNormal (rootMark p) := by
  rcases rootMark_eq p with h | h <;> rw [h]
  · exact .root
  · exact .doubleRoot

theorem steps_rootMark (p : String) : steps (rootMark p) = [] := by
  rcases rootMark_eq p with h | h <;> rw [h] <;> decide

/-- Where an absolute path begins: at the root or at the working directory. -/
def absoluteStart (cwd p : String) : String := if startsAtRoot p then rootMark p else cwd

/-- A directory's absolute path without idle pieces. -/
def absoluteDir (cwd dir : String) : String := (steps dir).foldl join (absoluteStart cwd dir)

theorem rootMark_join {a n : String} (ha : startsAtRoot a = true) (hn : IsStep n) :
    rootMark (join a n) = rootMark a := by
  have hne : a ≠ "" := by rintro rfl; exact absurd ha (by decide)
  obtain ⟨c, s, hs⟩ : ∃ c s, n.toList = c :: s :=
    List.exists_cons_of_ne_nil fun h => hn.ne_empty (String.toList_eq_nil_iff.mp h)
  have hc : c ≠ '/' := by rintro rfl; exact hn.1 (by simp [hs])
  have hj : (join a n).toList = a.toList ++ c :: s ∨
      (endsWithSlash a = false ∧ (join a n).toList = a.toList ++ '/' :: c :: s) := by
    rw [join, if_neg (by simp [hn.startsAtRoot_eq])]
    split
    · simp [hs]
    · rename_i h
      exact .inr ⟨by simpa [hne] using h, by simp [hs]⟩
  rw [rootMark, rootMark]
  rw [startsAtRoot, beq_iff_eq] at ha
  rcases hj with hj | ⟨he, hj⟩
  · rw [hj]
    match h : a.toList with
    | [] => simp [h] at ha
    | [d] => simp_all
    | [d, e] => by_cases h2 : e = '/' <;> simp_all
    | d :: e :: f :: r => by_cases h2 : e = '/' <;> by_cases h3 : f = '/' <;> simp_all
  · rw [hj]
    match h : a.toList with
    | [] => simp [h] at ha
    | [d] => simp_all [endsWithSlash]
    | [d, e] => simp_all [endsWithSlash]
    | d :: e :: f :: r => by_cases h2 : e = '/' <;> by_cases h3 : f = '/' <;> simp_all

theorem absoluteStart_join {cwd a n : String} (hn : IsStep n) :
    absoluteStart cwd (join a n) = absoluteStart cwd a := by
  rw [absoluteStart, absoluteStart, startsAtRoot_join hn.startsAtRoot_eq]
  split
  · rename_i h; exact rootMark_join h hn
  · rfl

/-- The absolute path of a name in a directory is the name in the directory's absolute path. -/
theorem absolute_join {cwd a n : String} (hn : IsStep n) :
    absolute cwd (join a n) = .ok (join (absoluteDir cwd a) n) := by
  rw [absoluteDir, ← absoluteStart_join hn]
  simp only [absolute, if_neg (join_ne_empty hn), endsWithSlash_join hn,
    steps_join hn.startsAtRoot_eq, hn.steps_eq, List.foldl_append]
  rfl

theorem isNormal_absoluteDir {cwd : String} (h : IsNormal cwd) (dir : String) :
    IsNormal (absoluteDir cwd dir) := by
  refine isNormal_foldl_join ?_ fun n hn => isStep_of_mem_steps hn
  unfold absoluteStart
  split
  · exact isNormal_rootMark dir
  · exact h

theorem steps_absoluteDir (cwd dir : String) :
    steps (absoluteDir cwd dir) = (if startsAtRoot dir then [] else steps cwd) ++ steps dir := by
  rw [absoluteDir, steps_foldl_join fun n hn => isStep_of_mem_steps hn, absoluteStart]
  split
  · rw [steps_rootMark]
  · rfl

/-! ## Parents -/

theorem pieces_ofPieces {ps : List String} (h : ps ≠ []) (hs : ∀ n ∈ ps, '/' ∉ n.toList) :
    pieces (ofPieces ps) = ps := by
  have hc : cut '/' (glue (ps.map String.toList)) = ps.map String.toList :=
    cut_intercalate (by simpa using h) (by simpa using hs)
  rw [pieces, ofPieces, String.toList_ofList, hc, List.map_map]
  simp [Function.comp_def]

theorem ofPieces_cons (n m : String) (ps : List String) :
    ofPieces (n :: m :: ps) = n ++ "/" ++ ofPieces (m :: ps) := by
  simp [ofPieces, glue, String.ofList_append, String.append_assoc]

/-- A path whose last piece is empty, and not its only one, ends with a slash. -/
theorem endsWithSlash_of_pieces {p n : String} {ps : List String}
    (h : pieces p = n :: ps ++ [""]) : endsWithSlash p = true := by
  have hpieces : pieces (ofPieces (n :: ps)) = n :: ps :=
    pieces_ofPieces (List.cons_ne_nil n ps) fun m hm =>
      not_mem_of_mem_pieces (h ▸ List.mem_append_left _ hm)
  have hp : p = ofPieces (n :: ps) ++ "/" :=
    pieces_injective (by rw [h, pieces_slash, hpieces])
  exact endsWithSlash_iff.mpr ⟨_, hp⟩

theorem startsAtRoot_iff {p : String} : startsAtRoot p ↔ ∃ n ns, pieces p = "" :: n :: ns := by
  unfold startsAtRoot pieces
  cases h : p.toList with
  | nil => simp [cut]
  | cons c s =>
    by_cases hc : c = '/'
    · subst hc
      obtain ⟨l, ls, hl⟩ := List.exists_cons_of_ne_nil (cut_ne_nil '/' s)
      simp [cut, hl]
    · cases hl : cut '/' s with
      | nil => exact absurd hl (cut_ne_nil _ _)
      | cons l ls =>
        simp only [List.head?_cons, cut, if_neg hc, hl, List.map_cons, List.cons.injEq]
        refine iff_of_false (by simpa using hc) ?_
        rintro ⟨n, ns, h, -⟩
        have := congrArg String.toList h
        simp at this

/-! ## Lengths -/

/-- How many bytes texts take with a slash beside each. -/
def extent : List String → Nat
  | [] => 0
  | n :: ns => n.utf8ByteSize + 1 + extent ns

theorem extent_append (ns ms : List String) : extent (ns ++ ms) = extent ns + extent ms := by
  induction ns with
  | nil => rw [List.nil_append, extent, Nat.zero_add]
  | cons n ns ih =>
    rw [List.cons_append, extent, extent, ih]
    omega

theorem extent_filter_le (f : String → Bool) (ns : List String) :
    extent (ns.filter f) ≤ extent ns := by
  induction ns with
  | nil => exact Nat.le_refl _
  | cons n ns ih =>
    rw [List.filter_cons, extent]
    split
    · rw [extent]
      omega
    · omega

/-- A path is as long as its pieces and the slashes between them. -/
theorem extent_pieces (p : String) : extent (pieces p) = p.utf8ByteSize + 1 := by
  suffices h : ∀ ps : List String, ps ≠ [] → extent ps = (ofPieces ps).utf8ByteSize + 1 by
    rw [h _ (pieces_ne_nil p), ofPieces_pieces]
  intro ps hps
  induction ps with
  | nil => exact absurd rfl hps
  | cons n ps ih =>
    cases ps with
    | nil => simp [ofPieces, glue, extent]
    | cons m ps =>
      rw [extent, ih (List.cons_ne_nil m ps), ofPieces_cons, String.utf8ByteSize_append,
        String.utf8ByteSize_append, show "/".utf8ByteSize = 1 from rfl]
      omega

/-- A path from the root is as long as its steps with a slash before each, or longer. -/
theorem extent_steps_le {p : String} (h : startsAtRoot p) : extent (steps p) ≤ p.utf8ByteSize := by
  obtain ⟨n, ns, hp⟩ := startsAtRoot_iff.mp h
  have hsize := extent_pieces p
  have hle := extent_filter_le (!isIdle ·) (n :: ns)
  rw [hp, extent, show "".utf8ByteSize = 0 from rfl] at hsize
  rw [steps, hp, List.filter_cons, if_neg (by decide)]
  omega

/-! ## Idle pieces at the end -/

theorem trimIdle_isPrefix (ps : List String) : trimIdle ps <+: ps := by
  cases ps with
  | nil => exact List.prefix_refl _
  | cons q qs =>
    rw [trimIdle]
    refine (List.prefix_cons_inj q).mpr ?_
    have := (List.dropWhile_suffix isIdle (l := qs.reverse))
    simpa using List.reverse_prefix.mpr this

theorem filter_trimIdle (ps : List String) :
    (trimIdle ps).filter (!isIdle ·) = ps.filter (!isIdle ·) := by
  cases ps with
  | nil => rfl
  | cons q qs =>
    have h : ((qs.reverse.dropWhile isIdle).reverse).filter (!isIdle ·) =
        qs.filter (!isIdle ·) := by
      have hq := List.takeWhile_append_dropWhile (p := isIdle) (l := qs.reverse)
      have ht : (qs.reverse.takeWhile isIdle).filter (!isIdle ·) = [] := by
        refine List.filter_eq_nil_iff.mpr fun x hx => ?_
        have := List.all_eq_true.mp (List.all_takeWhile (p := isIdle) (l := qs.reverse)) x hx
        simp [this]
      have := congrArg (fun l => (l.filter (!isIdle ·)).reverse) hq
      simp only [List.filter_append, ht, List.nil_append, List.filter_reverse,
        List.reverse_reverse] at this ⊢
      exact this
    rw [trimIdle, List.filter_cons, List.filter_cons, h]

/-- Idle pieces stay only where they come first. -/
theorem trimIdle_cases (ps : List String) :
    trimIdle ps = [] ∨ (∃ q, trimIdle ps = [q]) ∨ ∃ qs n, trimIdle ps = qs ++ [n] ∧ qs ≠ [] ∧
      isIdle n = false := by
  cases ps with
  | nil => exact .inl rfl
  | cons q qs =>
    refine .inr ?_
    rw [trimIdle]
    cases h : qs.reverse.dropWhile isIdle with
    | nil => exact .inl ⟨q, by simp⟩
    | cons n ns =>
      refine .inr ⟨q :: ns.reverse, n, by simp, by simp, ?_⟩
      have := List.head?_dropWhile_not isIdle qs.reverse
      rw [h] at this
      simpa using this

/-- The piece that a path opens with tells whether it starts at the root, if another one follows. -/
theorem startsAtRoot_of_isPrefix {p n : String} {ps : List String} (h : n :: ps <+: pieces p)
    (hps : ps ≠ []) : startsAtRoot p = (n == "") := by
  obtain ⟨m, ms, rfl⟩ := List.exists_cons_of_ne_nil hps
  obtain ⟨ks, hks⟩ := h
  rw [Bool.eq_iff_iff, startsAtRoot_iff, ← hks]
  simp

theorem startsAtRoot_of_head {p n : String} (h : [n] <+: pieces p) (hn : n ≠ "") :
    startsAtRoot p = false := by
  obtain ⟨ks, hks⟩ := h
  rw [Bool.eq_false_iff, ne_eq, startsAtRoot_iff, ← hks]
  rintro ⟨m, ms, hm⟩
  exact hn (List.cons.inj hm).1

theorem startsAtRoot_ofPieces {n : String} {ps : List String} (h : ∀ m ∈ n :: ps, '/' ∉ m.toList)
    (hroot : n :: ps ≠ [""]) : startsAtRoot (ofPieces (n :: ps)) = (n == "") := by
  have hpre : n :: ps <+: pieces (ofPieces (n :: ps)) :=
    ⟨[], by rw [List.append_nil, pieces_ofPieces (List.cons_ne_nil n ps) h]⟩
  by_cases hps : ps = []
  · subst hps
    have hn : n ≠ "" := fun hn => hroot (by rw [hn])
    rw [startsAtRoot_of_head hpre hn, beq_eq_false_iff_ne.mpr hn]
  · exact startsAtRoot_of_isPrefix hpre hps

/-- The parent of a single piece is the directory that paths start in. -/
theorem parent?_of_single {p r n : String} (hn : trimIdle (pieces p) = [n])
    (h : parent? p = some r) : n ≠ "" ∧ r = "" := by
  unfold parent? at h
  rw [hn] at h
  split at h
  · cases h
  · cases h
  · rename_i hroot
    exact ⟨fun hempty => hroot (by rw [hempty]), by simpa [trimIdle, eq_comm] using h⟩

/-- The parent lacks a step, and more if that leads nowhere. -/
theorem steps_parent? {p r : String} (h : parent? p = some r) :
    steps r <+: (steps p).dropLast ∧ startsAtRoot r = startsAtRoot p := by
  have hpre := trimIdle_isPrefix (pieces p)
  rcases trimIdle_cases (pieces p) with hp | ⟨n, hp⟩ | ⟨qs, n, hp, hqs, hn⟩
  · unfold parent? at h
    rw [hp] at h
    cases h
  · obtain ⟨hn, rfl⟩ := parent?_of_single hp h
    rw [hp] at hpre
    exact ⟨by simp [show steps "" = [] by decide], (startsAtRoot_of_head hpre hn).symm⟩
  · have hsteps : steps p = qs.filter (!isIdle ·) ++ [n] := by
      rw [steps, ← filter_trimIdle, hp, List.filter_append]
      simp [hn]
    rw [parent?_eq hp hn] at h
    rw [hp] at hpre
    obtain ⟨q, qs, rfl⟩ := List.exists_cons_of_ne_nil hqs
    have hslash : ∀ m ∈ trimIdle (q :: qs), '/' ∉ m.toList := fun m hm =>
      not_mem_of_mem_pieces
        (((trimIdle_isPrefix _).trans ((List.prefix_append _ [n]).trans hpre)).subset hm)
    rw [hsteps, List.dropLast_concat, startsAtRoot_of_isPrefix hpre (by simp)]
    split at h
    · rename_i hnone
      cases hnone
    · rename_i hroot
      obtain rfl : q = "" := (List.cons.inj hroot).1
      obtain rfl := Option.some.inj h
      exact ⟨by simp [show steps "/" = [] by decide], by decide⟩
    · rename_i hroot
      obtain rfl := Option.some.inj h
      refine ⟨⟨[], ?_⟩, startsAtRoot_ofPieces hslash hroot⟩
      rw [List.append_nil, steps, pieces_ofPieces ‹_› hslash, filter_trimIdle]

/-! ## Names in directories -/

variable {p q n : String}

/-- `p` is the name `n` in the directory `q`, perhaps with a slash behind it. -/
def Ends (p q n : String) : Prop := IsStep n ∧ (p = join q n ∨ p = join q n ++ "/")

theorem ends_join (hn : IsStep n) : Ends (join q n) q n := ⟨hn, .inl rfl⟩

theorem Ends.pieces_eq (h : Ends p q n) :
    pieces p = openPieces q ++ n :: List.replicate (if endsWithSlash p then 1 else 0) "" := by
  obtain ⟨hn, rfl | rfl⟩ := h
  · rw [pieces_join hn.startsAtRoot_eq, hn.pieces_eq, endsWithSlash_join hn]
    rfl
  · rw [pieces_slash, pieces_join hn.startsAtRoot_eq, hn.pieces_eq,
      endsWithSlash_iff.mpr ⟨_, rfl⟩]
    simp

theorem Ends.steps_eq (h : Ends p q n) : steps p = steps q ++ [n] := by
  have hi : isIdle n = false := h.1.2
  have hr (k : Nat) : (List.replicate k "").filter (!isIdle ·) = [] := by simp [isIdle]
  rw [steps, h.pieces_eq, List.filter_append, filter_openPieces,
    List.filter_cons_of_pos (by simp [hi]), hr]

theorem Ends.up_not_mem_steps (h : Ends p q n) (hq : ".." ∉ steps q) (hn : n ≠ "..") :
    ".." ∉ steps p := by
  rw [h.steps_eq, List.mem_append, List.mem_singleton, not_or]
  exact ⟨hq, hn.symm⟩

theorem Ends.startsAtRoot_eq (h : Ends p q n) : startsAtRoot p = startsAtRoot q := by
  obtain ⟨hn, rfl | rfl⟩ := h
  · exact startsAtRoot_join hn.startsAtRoot_eq
  · rw [startsAtRoot_append (join_ne_empty hn), startsAtRoot_join hn.startsAtRoot_eq]

theorem Ends.ne_empty (h : Ends p q n) : p ≠ "" := by
  obtain ⟨hn, rfl | rfl⟩ := h
  · exact join_ne_empty hn
  · intro hc
    have := congrArg String.toList hc
    simp at this

theorem not_mem_openPieces (hq : ".." ∉ steps q) : ".." ∉ openPieces q := by
  intro h
  refine hq ?_
  rw [← filter_openPieces]
  exact List.mem_filter.mpr ⟨h, by decide⟩

end BenchCheckout.Path
