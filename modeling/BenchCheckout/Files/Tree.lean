import Std.Data.ExtTreeMap

/-!
# File trees

A `FileTree` holds regular files, directories and symbolic links at locations, which are lists of
names from the root down. It is a tree by its type: the root is a directory, whatever exists lies
in a directory, and no name is empty, special or holds a slash. Two trees with the same entries are
equal (`FileTree.ext_get?`).

Operations and what they do to the entries:

* `put`: one entry in an existing directory (`get?_put`).
* `refill`: a new content of a file that may have several names (`get?_refill`).
* `prune`: a location and everything below it goes away (`get?_prune`).
* `clear`: everything below a location goes away (`get?_clear`).
* `below`: the tree under a directory, as a tree of its own (`get?_below`).
* `mount`: a tree takes the place of whatever is at a location (`get?_mount`).
-/

namespace BenchCheckout

/-- Names from the root down; the root itself has none. -/
abbrev Location := List String

/-- A name that an entry of a directory can have. -/
def IsName (s : String) : Prop :=
  s ≠ "" ∧ s ≠ "." ∧ s ≠ ".." ∧ '/' ∉ s.toList ∧ '\x00' ∉ s.toList

instance (s : String) : Decidable (IsName s) := inferInstanceAs (Decidable (_ ∧ _))

inductive Entry where
  /-- Files with one number are one file under several names. A file of one name needs no number. -/
  | file (bytes : ByteArray) (executable : Bool) (number : Option Nat)
  | directory
  | link (target : String)

instance : DecidableEq Entry
  | .file b x m, .file c y n => decidable_of_iff (b.data = c.data ∧ x = y ∧ m = n) (by
      cases b; cases c; simp)
  | .link s, .link t => decidable_of_iff (s = t) (by simp)
  | .directory, .directory => .isTrue rfl
  | .file .., .directory | .file .., .link _ | .directory, .file .. | .directory, .link _
  | .link _, .file .. | .link _, .directory => .isFalse nofun

def Entry.isFile : Entry → Bool
  | file .. => true
  | _ => false

def Entry.isDirectory : Entry → Bool
  | directory => true
  | _ => false

def Entry.number? : Entry → Option Nat
  | file _ _ number => number
  | _ => none

/-- The entry with a new content, if it is the file of a number. -/
def Entry.refilled (number : Nat) (bytes : ByteArray) (executable : Bool) (e : Entry) : Entry :=
  if e.number? = some number then .file bytes executable (some number) else e

/-- The entry without its number, unless that is one of those to be kept. -/
def Entry.keepNumber (keeps : Nat → Bool) : Entry → Entry
  | .file bytes executable number => .file bytes executable (number.filter keeps)
  | e => e

@[simp]
theorem Entry.refilled_directory (number : Nat) (bytes : ByteArray) (executable : Bool) :
    Entry.directory.refilled number bytes executable = .directory := rfl

structure FileTree where
  entries : Std.ExtTreeMap Location Entry
  root_eq : entries[([] : Location)]? = some .directory
  parent_eq : ∀ l n, l ++ [n] ∈ entries → entries[l]? = some .directory
  isName_of_mem : ∀ l ∈ entries, ∀ n ∈ l, IsName n

namespace FileTree

/-- What is at a location, if anything. -/
def get? (t : FileTree) (l : Location) : Option Entry := t.entries[l]?

theorem ext_get? {t u : FileTree} (h : ∀ l, t.get? l = u.get? l) : t = u := by
  have he : t.entries = u.entries := Std.ExtTreeMap.ext_getElem? h
  cases t; cases u; cases he; rfl

@[simp]
theorem get?_root (t : FileTree) : t.get? [] = some .directory := t.root_eq

theorem mem_entries {t : FileTree} {l : Location} : l ∈ t.entries ↔ (t.get? l).isSome :=
  Std.ExtTreeMap.mem_iff_isSome_getElem?

theorem get?_parent {t : FileTree} {l : Location} {n : String} {e : Entry}
    (h : t.get? (l ++ [n]) = some e) : t.get? l = some .directory :=
  t.parent_eq l n (mem_entries.mpr (by simp [h]))

theorem isName_of_get? {t : FileTree} {l : Location} {e : Entry} (h : t.get? l = some e)
    {n : String} (hn : n ∈ l) : IsName n :=
  t.isName_of_mem l (mem_entries.mpr (by simp [h])) n hn

/-- Whatever lies above something is a directory. -/
theorem get?_of_append {t : FileTree} {l k : Location} {e : Entry}
    (h : t.get? (l ++ k) = some e) (hk : k ≠ []) : t.get? l = some .directory := by
  obtain ⟨r, hr⟩ : ∃ r, r = k.reverse := ⟨_, rfl⟩
  induction r generalizing k e with
  | nil => simp_all
  | cons n r ih =>
    obtain rfl : k = r.reverse ++ [n] := by
      rw [← List.reverse_reverse k, ← hr]; simp
    rw [← List.append_assoc] at h
    cases r with
    | nil => simpa using get?_parent h
    | cons m r => exact ih (get?_parent h) (by simp) (by simp)

/-! ## Entries of new trees -/

private theorem getElem?_filter {m : Std.ExtTreeMap Location Entry} {f : Location → Bool}
    {l : Location} : (m.filter fun k _ => f k)[l]? = m[l]?.filter fun _ => f l := by
  rw [Std.ExtTreeMap.getElem?_filter]
  rw [show (fun x h' => f (m.getKey l _)) = (fun (_ : Entry) (_ : m[l]? = some _) => f l) from by
    funext x h'; rw [Std.ExtTreeMap.getKey_eq]]
  exact Option.pfilter_eq_filter

/-- Each location `k` with `f k = some j` moves to `j`, the others are dropped. -/
private def rekey (f : Location → Option Location) (m : Std.ExtTreeMap Location Entry) :
    Std.ExtTreeMap Location Entry :=
  .ofList (m.toList.filterMap fun (k, e) => (f k).map (·, e))

private theorem mem_rekeyed {f : Location → Option Location} {m : Std.ExtTreeMap Location Entry}
    {j : Location} {e : Entry} :
    (j, e) ∈ (m.toList.filterMap fun (k, e) => (f k).map (·, e)) ↔
      ∃ k, m[k]? = some e ∧ f k = some j := by
  simp only [List.mem_filterMap, Prod.exists, Option.map_eq_some_iff, Prod.mk.injEq]
  constructor
  · rintro ⟨k, e', hk, i, hf, rfl, rfl⟩
    exact ⟨k, Std.ExtTreeMap.mem_toList_iff_getElem?_eq_some.mp hk, hf⟩
  · rintro ⟨k, hk, hf⟩
    exact ⟨k, e, Std.ExtTreeMap.mem_toList_iff_getElem?_eq_some.mpr hk, j, hf, rfl, rfl⟩

private theorem getElem?_rekey {f : Location → Option Location}
    {m : Std.ExtTreeMap Location Entry} (hf : ∀ k k' j, f k = some j → f k' = some j → k = k')
    {k j : Location} (hk : f k = some j) : (rekey f m)[j]? = m[k]? := by
  cases he : m[k]? with
  | some e =>
    refine Std.ExtTreeMap.getElem?_ofList_of_mem (k := j) (by simp) ?_
      (mem_rekeyed.mpr ⟨k, he, hk⟩)
    refine List.Pairwise.filterMap _ ?_ Std.ExtTreeMap.distinct_keys_toList
    rintro ⟨a, ea⟩ ⟨b, eb⟩ hab ⟨a', ea'⟩ ha ⟨b', eb'⟩ hb
    simp only [Option.map_eq_some_iff, Prod.mk.injEq] at ha hb
    obtain ⟨i, hi, rfl, rfl⟩ := ha
    obtain ⟨i', hi', rfl, rfl⟩ := hb
    simp only [Std.compare_eq_iff_eq] at hab ⊢
    rintro rfl
    exact hab (hf _ _ _ hi hi')
  | none =>
    refine Std.ExtTreeMap.getElem?_ofList_of_contains_eq_false ?_
    rw [Bool.eq_false_iff, ne_eq, List.contains_iff_mem, List.mem_map]
    rintro ⟨⟨j', e⟩, hmem, rfl⟩
    obtain ⟨k', he', hk'⟩ := mem_rekeyed.mp hmem
    rw [hf _ _ _ hk hk', he'] at he
    simp at he

private theorem getElem?_rekey_eq_none {f : Location → Option Location}
    {m : Std.ExtTreeMap Location Entry} {j : Location} (hj : ∀ k, f k ≠ some j) :
    (rekey f m)[j]? = none := by
  refine Std.ExtTreeMap.getElem?_ofList_of_contains_eq_false ?_
  rw [Bool.eq_false_iff, ne_eq, List.contains_iff_mem, List.mem_map]
  rintro ⟨⟨j', e⟩, hmem, rfl⟩
  obtain ⟨k, -, hk⟩ := mem_rekeyed.mp hmem
  exact hj k hk

/-! ## The empty tree -/

def empty : FileTree where
  entries := (∅ : Std.ExtTreeMap Location Entry).insert [] .directory
  root_eq := by simp
  parent_eq l n h := by
    simp at h
  isName_of_mem l h n hn := by
    simp [Std.ExtTreeMap.mem_insert] at h
    subst h; simp at hn

instance : Inhabited FileTree := ⟨empty⟩

/-! ## One entry -/

/-- `e` can be put at the name `n` of the directory `l`: nothing would lose the directory that it
lies in. -/
def CanPut (t : FileTree) (l : Location) (n : String) (e : Entry) : Prop :=
  IsName n ∧ t.get? l = some .directory ∧ (t.get? (l ++ [n]) = some .directory → e = .directory)

instance (t : FileTree) (l : Location) (n : String) (e : Entry) : Decidable (t.CanPut l n e) :=
  inferInstanceAs (Decidable (_ ∧ _))

/-- The tree with `e` at the name `n` of the directory `l`. It stays as it is where that would not
be a tree. -/
def put (t : FileTree) (l : Location) (n : String) (e : Entry) : FileTree :=
  if h : t.CanPut l n e then
    { entries := t.entries.insert (l ++ [n]) e
      root_eq := by
        rw [Std.ExtTreeMap.getElem?_insert]
        simp [t.root_eq]
      parent_eq := by
        intro k m hk
        rw [Std.ExtTreeMap.getElem?_insert]
        rw [Std.ExtTreeMap.mem_insert] at hk
        simp only [Std.compare_eq_iff_eq] at hk ⊢
        have hd : t.entries[k]? = some .directory := by
          rcases hk with hk | hk
          · obtain ⟨rfl, -⟩ := List.append_inj' hk rfl
            exact h.2.1
          · exact t.parent_eq k m hk
        split
        · rename_i heq
          subst heq
          rw [h.2.2 hd]
        · exact hd
      isName_of_mem := by
        intro k hk m hm
        rw [Std.ExtTreeMap.mem_insert] at hk
        simp only [Std.compare_eq_iff_eq] at hk
        rcases hk with rfl | hk
        · rcases List.mem_append.mp hm with hm | hm
          · exact isName_of_get? h.2.1 hm
          · rw [List.mem_singleton.mp hm]; exact h.1
        · exact t.isName_of_mem k hk m hm }
  else t

theorem get?_put {t : FileTree} {l : Location} {n : String} {e : Entry} (h : t.CanPut l n e)
    (k : Location) : (t.put l n e).get? k = if k = l ++ [n] then some e else t.get? k := by
  rw [put, dif_pos h, get?, Std.ExtTreeMap.getElem?_insert]
  simp only [Std.compare_eq_iff_eq, eq_comm (a := l ++ [n]), get?]

/-! ## One file under several names -/

/-- The tree with a new content of the file of a number, under each of its names. -/
def refill (t : FileTree) (number : Nat) (bytes : ByteArray) (executable : Bool) : FileTree where
  entries := t.entries.map fun _ e => e.refilled number bytes executable
  root_eq := by
    rw [Std.ExtTreeMap.getElem?_map, t.root_eq]; simp
  parent_eq := by
    intro k m hk
    rw [Std.ExtTreeMap.mem_map] at hk
    rw [Std.ExtTreeMap.getElem?_map, t.parent_eq k m hk]; simp
  isName_of_mem := by
    intro k hk m hm
    rw [Std.ExtTreeMap.mem_map] at hk
    exact t.isName_of_mem k hk m hm

theorem get?_refill {t : FileTree} {number : Nat} {bytes : ByteArray} {executable : Bool}
    (k : Location) :
    (t.refill number bytes executable).get? k =
      (t.get? k).map (·.refilled number bytes executable) :=
  Std.ExtTreeMap.getElem?_map

/-- A number that no file has. -/
def freshNumber (t : FileTree) : Nat :=
  t.entries.foldl (fun n _ e => max n ((e.number?.getD 0) + 1)) 1

/-- The numbers of the files, each as often as it has names. -/
def numbers (t : FileTree) : List Nat := t.entries.values.filterMap (·.number?)

/-- The content of the file of a number, and whether it is executable. -/
def numbered? (t : FileTree) (number : Nat) : Option (ByteArray × Bool) :=
  t.entries.values.findSome? fun e => match e with
    | .file bytes executable n => if n = some number then some (bytes, executable) else none
    | _ => none

/-- The tree in which only the files of certain numbers keep theirs. -/
def keepNumbers (t : FileTree) (keeps : Nat → Bool) : FileTree where
  entries := t.entries.map fun _ e => e.keepNumber keeps
  root_eq := by
    rw [Std.ExtTreeMap.getElem?_map, t.root_eq]; rfl
  parent_eq := by
    intro k m hk
    rw [Std.ExtTreeMap.mem_map] at hk
    rw [Std.ExtTreeMap.getElem?_map, t.parent_eq k m hk]; rfl
  isName_of_mem := by
    intro k hk m hm
    rw [Std.ExtTreeMap.mem_map] at hk
    exact t.isName_of_mem k hk m hm

/-- The tree without the numbers of files that have one name. -/
def withoutLoneNumbers (t : FileTree) : FileTree :=
  let numbers := t.numbers
  t.keepNumbers fun n => 1 < numbers.count n

/-! ## Removing -/

/-- The tree without `l` and everything below it. The root stays. -/
def prune (t : FileTree) (l : Location) : FileTree :=
  if h : l = [] then t
  else
    { entries := t.entries.filter fun k _ => !l.isPrefixOf k
      root_eq := by
        rw [getElem?_filter, t.root_eq]
        cases l <;> simp_all [List.isPrefixOf]
      parent_eq := by
        intro k m hk
        rw [Std.ExtTreeMap.mem_iff_isSome_getElem?, getElem?_filter] at hk
        rw [getElem?_filter]
        obtain ⟨e, he⟩ := Option.isSome_iff_exists.mp hk
        rw [Option.filter_eq_some_iff] at he
        have hd := get?_parent (t := t) he.1
        rw [get?] at hd
        rw [hd]
        have hp : l.isPrefixOf k = false := by
          rw [Bool.eq_false_iff, ne_eq, List.isPrefixOf_iff_prefix]
          intro hc
          have := he.2
          rw [Bool.not_eq_true', Bool.eq_false_iff, ne_eq, List.isPrefixOf_iff_prefix] at this
          exact this (hc.trans (List.prefix_append k [m]))
        simp [Option.filter, hp]
      isName_of_mem := by
        intro k hk m hm
        rw [Std.ExtTreeMap.mem_iff_isSome_getElem?, getElem?_filter] at hk
        obtain ⟨e, he⟩ := Option.isSome_iff_exists.mp hk
        rw [Option.filter_eq_some_iff] at he
        exact isName_of_get? (t := t) he.1 hm }

theorem get?_prune {t : FileTree} {l : Location} (h : l ≠ []) (k : Location) :
    (t.prune l).get? k = if l <+: k then none else t.get? k := by
  rw [prune, dif_neg h, get?, getElem?_filter]
  by_cases hp : l <+: k
  · rw [if_pos hp, List.isPrefixOf_iff_prefix.mpr hp]
    cases t.entries[k]? <;> rfl
  · rw [if_neg hp, Bool.eq_false_iff.mpr (fun hc => hp (List.isPrefixOf_iff_prefix.mp hc))]
    rw [get?]
    cases t.entries[k]? <;> rfl

/-- The tree without what lies below `l`; what is at `l` itself stays. -/
def clear (t : FileTree) (l : Location) : FileTree where
  entries := t.entries.filter fun k _ => !l.isPrefixOf k || k == l
  root_eq := by
    rw [getElem?_filter, t.root_eq]
    cases l <;> simp [List.isPrefixOf]
  parent_eq := by
    intro k m hk
    rw [Std.ExtTreeMap.mem_iff_isSome_getElem?, getElem?_filter] at hk
    rw [getElem?_filter]
    obtain ⟨e, he⟩ := Option.isSome_iff_exists.mp hk
    rw [Option.filter_eq_some_iff] at he
    have hd := get?_parent (t := t) he.1
    rw [get?] at hd
    rw [hd]
    have hp : (!l.isPrefixOf k || k == l) = true := by
      have := he.2
      rw [Bool.or_eq_true, Bool.not_eq_true', Bool.eq_false_iff, ne_eq, List.isPrefixOf_iff_prefix,
        beq_iff_eq] at this ⊢
      rcases this with h | h
      · exact .inl fun hc => h (hc.trans (List.prefix_append k [m]))
      · refine .inl fun hc => ?_
        have := hc.length_le
        rw [← h, List.length_append, List.length_singleton] at this
        omega
    simp [Option.filter, hp]
  isName_of_mem := by
    intro k hk m hm
    rw [Std.ExtTreeMap.mem_iff_isSome_getElem?, getElem?_filter] at hk
    obtain ⟨e, he⟩ := Option.isSome_iff_exists.mp hk
    rw [Option.filter_eq_some_iff] at he
    exact isName_of_get? (t := t) he.1 hm

theorem get?_clear {t : FileTree} {l : Location} (k : Location) :
    (t.clear l).get? k = if l <+: k ∧ k ≠ l then none else t.get? k := by
  rw [clear, get?, getElem?_filter]
  by_cases hp : l <+: k ∧ k ≠ l
  · rw [if_pos hp, List.isPrefixOf_iff_prefix.mpr hp.1, beq_eq_false_iff_ne.mpr hp.2]
    cases t.entries[k]? <;> rfl
  · have : (!l.isPrefixOf k || k == l) = true := by
      rw [Bool.or_eq_true, Bool.not_eq_true', Bool.eq_false_iff, ne_eq, List.isPrefixOf_iff_prefix,
        beq_iff_eq]
      by_cases h : l <+: k
      · exact .inr (Classical.not_not.mp fun hk => hp ⟨h, hk⟩)
      · exact .inl h
    rw [if_neg hp, this, get?]
    cases t.entries[k]? <;> rfl

/-! ## Subtrees -/

/-- The location of `k` as seen from `l`, if it lies there. -/
def seenFrom (l k : Location) : Option Location :=
  if l.isPrefixOf k then some (k.drop l.length) else none

private theorem seenFrom_eq_some {l k j : Location} : seenFrom l k = some j ↔ k = l ++ j := by
  rw [seenFrom]
  split
  · rename_i h
    obtain ⟨i, rfl⟩ := List.isPrefixOf_iff_prefix.mp h
    simp
  · rename_i h
    constructor
    · simp
    · rintro rfl
      exact absurd (List.isPrefixOf_iff_prefix.mpr (List.prefix_append l j)) h

private theorem getElem?_rekey_seenFrom {m : Std.ExtTreeMap Location Entry} {l j : Location} :
    (rekey (seenFrom l) m)[j]? = m[l ++ j]? :=
  getElem?_rekey (fun _ _ _ h h' => (seenFrom_eq_some.mp h).trans (seenFrom_eq_some.mp h').symm)
    (seenFrom_eq_some.mpr rfl)

/-- What lies below the directory `l`, as a tree of its own. It is empty if `l` is no directory. -/
def below (t : FileTree) (l : Location) : FileTree :=
  if h : t.get? l = some .directory then
    { entries := rekey (seenFrom l) t.entries
      root_eq := by
        rw [getElem?_rekey_seenFrom, List.append_nil]; exact h
      parent_eq := by
        intro k n hk
        rw [Std.ExtTreeMap.mem_iff_isSome_getElem?, getElem?_rekey_seenFrom] at hk
        rw [getElem?_rekey_seenFrom]
        obtain ⟨e, he⟩ := Option.isSome_iff_exists.mp hk
        rw [← List.append_assoc] at he
        exact get?_parent (t := t) he
      isName_of_mem := by
        intro k hk n hn
        rw [Std.ExtTreeMap.mem_iff_isSome_getElem?, getElem?_rekey_seenFrom] at hk
        obtain ⟨e, he⟩ := Option.isSome_iff_exists.mp hk
        exact isName_of_get? (t := t) he (List.mem_append_right l hn) }
  else empty

theorem get?_below {t : FileTree} {l : Location} (h : t.get? l = some .directory)
    (k : Location) : (t.below l).get? k = t.get? (l ++ k) := by
  rw [below, dif_pos h]
  exact getElem?_rekey_seenFrom

private def lowered (l : Location) (k : Location) : Option Location := some (l ++ k)

private theorem lowered_inj {l : Location} (k k' j : Location) (h : lowered l k = some j)
    (h' : lowered l k' = some j) : k = k' := by
  simp only [lowered, Option.some.injEq] at h h'
  exact List.append_cancel_left (h.trans h'.symm)

private theorem getElem?_rekey_lowered {m : Std.ExtTreeMap Location Entry} {l j : Location} :
    (rekey (lowered l) m)[j]? = if l <+: j then m[j.drop l.length]? else none := by
  split
  · rename_i h
    obtain ⟨i, rfl⟩ := h
    rw [List.drop_left]
    exact getElem?_rekey lowered_inj rfl
  · rename_i h
    refine getElem?_rekey_eq_none fun k hk => h ?_
    simp only [lowered, Option.some.injEq] at hk
    exact ⟨k, hk⟩

/-- The tree with `sub` in place of whatever is at the name `n` of the directory `l`. It stays as it
is where that would not be a tree. -/
def mount (t : FileTree) (l : Location) (n : String) (sub : FileTree) : FileTree :=
  if h : IsName n ∧ t.get? l = some .directory then
    { entries := (t.prune (l ++ [n])).entries ∪ rekey (lowered (l ++ [n])) sub.entries
      root_eq := by
        rw [Std.ExtTreeMap.getElem?_union, getElem?_rekey_lowered, (t.prune _).root_eq]
        simp
      parent_eq := by
        intro k m hk
        rw [Std.ExtTreeMap.mem_iff_isSome_getElem?, Std.ExtTreeMap.getElem?_union,
          getElem?_rekey_lowered] at hk
        rw [Std.ExtTreeMap.getElem?_union, getElem?_rekey_lowered]
        have hne : l ++ [n] ≠ [] := by simp
        by_cases hp : l ++ [n] <+: k
        · obtain ⟨i, rfl⟩ := hp
          rw [if_pos ⟨i ++ [m], by simp⟩] at hk
          rw [if_pos (List.prefix_append _ _), List.drop_left]
          have hp2 : (t.prune (l ++ [n])).entries[l ++ [n] ++ i ++ [m]]? = none := by
            have := get?_prune (t := t) hne (l ++ [n] ++ i ++ [m])
            rw [if_pos ⟨i ++ [m], by simp⟩] at this
            exact this
          rw [hp2, Option.or_none, List.append_assoc, List.drop_left] at hk
          obtain ⟨e, he⟩ := Option.isSome_iff_exists.mp hk
          have hd : sub.entries[i]? = some .directory := get?_parent (t := sub) he
          rw [hd]; rfl
        · rw [if_neg hp, Option.none_or]
          by_cases hq : l ++ [n] <+: k ++ [m]
          · -- The new tree's own root: it lies in `l`.
            obtain ⟨i, hi⟩ := hq
            have hnil : i = [] := by
              cases hi' : i.reverse with
              | nil => simpa using hi'
              | cons a r =>
                exfalso
                obtain rfl : i = r.reverse ++ [a] := by
                  rw [← List.reverse_reverse i, hi']; simp
                rw [← List.append_assoc] at hi
                exact hp ⟨r.reverse, (List.append_inj' hi rfl).1⟩
            subst hnil
            rw [List.append_nil] at hi
            obtain ⟨rfl, -⟩ := List.append_inj' hi rfl
            have := get?_prune (t := t) hne l
            rw [if_neg (by
              rintro ⟨i, hi⟩
              have := congrArg List.length hi
              simp at this)] at this
            exact this.trans h.2
          · rw [if_neg hq, Option.none_or] at hk
            exact (t.prune _).parent_eq k m (Std.ExtTreeMap.mem_iff_isSome_getElem?.mpr hk)
      isName_of_mem := by
        intro k hk m hm
        rw [Std.ExtTreeMap.mem_union_iff] at hk
        rcases hk with hk | hk
        · exact (t.prune _).isName_of_mem k hk m hm
        · rw [Std.ExtTreeMap.mem_iff_isSome_getElem?, getElem?_rekey_lowered] at hk
          split at hk
          · rename_i hp
            obtain ⟨i, rfl⟩ := hp
            rw [List.drop_left] at hk
            obtain ⟨e, he⟩ := Option.isSome_iff_exists.mp hk
            rcases List.mem_append.mp hm with hm | hm
            · rcases List.mem_append.mp hm with hm | hm
              · exact isName_of_get? h.2 hm
              · rw [List.mem_singleton.mp hm]; exact h.1
            · exact isName_of_get? (t := sub) he hm
          · simp at hk }
  else t

theorem get?_mount {t sub : FileTree} {l : Location} {n : String} (hn : IsName n)
    (hl : t.get? l = some .directory) (k : Location) :
    (t.mount l n sub).get? k =
      if l ++ [n] <+: k then sub.get? (k.drop (l ++ [n]).length) else t.get? k := by
  rw [mount, dif_pos ⟨hn, hl⟩, get?, Std.ExtTreeMap.getElem?_union, getElem?_rekey_lowered]
  have hpr := get?_prune (t := t) (l := l ++ [n]) (by simp) k
  rw [get?] at hpr
  rw [hpr]
  split <;> simp [get?]

/-! ## Listing -/

/-- The name of `k` in the directory `l`, if it lies right there. -/
def nameIn (l k : Location) : Option String :=
  match seenFrom l k with
  | some [n] => some n
  | _ => none

/-- The names in a directory, in the order of their code points. -/
def names (t : FileTree) (l : Location) : List String :=
  t.entries.keys.filterMap (nameIn l)

theorem mem_names {t : FileTree} {l : Location} {n : String} :
    n ∈ t.names l ↔ (t.get? (l ++ [n])).isSome := by
  rw [names, List.mem_filterMap]
  constructor
  · rintro ⟨k, hk, hn⟩
    rw [Std.ExtTreeMap.mem_keys] at hk
    rw [nameIn] at hn
    split at hn
    · rename_i m heq
      obtain rfl := seenFrom_eq_some.mp heq
      obtain rfl : m = n := by simpa using hn
      exact mem_entries.mp hk
    · simp at hn
  · intro h
    refine ⟨l ++ [n], Std.ExtTreeMap.mem_keys.mpr (mem_entries.mpr h), ?_⟩
    rw [nameIn, seenFrom_eq_some.mpr rfl]

theorem nodup_names (t : FileTree) (l : Location) : (t.names l).Nodup := by
  have hname {k : Location} {n : String} (h : nameIn l k = some n) : k = l ++ [n] := by
    rw [nameIn] at h
    split at h
    · rename_i m hm
      rw [← Option.some.inj h]
      exact seenFrom_eq_some.mp hm
    · cases h
  rw [names, List.Nodup, List.pairwise_filterMap]
  refine t.entries.distinct_keys.imp fun {a b} hab n ha m hb hnm => hab ?_
  rw [hname ha, hname hb, hnm]
  exact Std.ReflCmp.compare_self

/-- Every location, in order, with what is there. -/
def toList (t : FileTree) : List (Location × Entry) := t.entries.toList

end FileTree

end BenchCheckout
