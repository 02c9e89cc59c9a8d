import BenchCheckout.Proofs.Checkout.Setting
import BenchCheckout.Proofs.Files.Creation

/-!
# What unpacking an archive comes to

An archive is unpacked in an empty staging directory, whatever was there before. What the extractor
leaves there, and how it ends, decide the result: `Archive.Sorted` tells all of them apart.

* `Archive.outcome_extract_prune`: the old staging directory makes no difference.
* `Archive.isNew_of_createDirs`, `Archive.canStage_iff`: the new one is empty, and where it can be
  made, as long as it is not the working directory that went away.
* `Archive.rootAmong_perm`, `Archive.rootIn_cases`: the project's root, in any order of a listing.
* `Archive.extract_sorts`: one result for each end of the extractor.
-/

namespace BenchCheckout

open BenchCheckout.Action Checkout FileTree

namespace Archive

variable {config : Config} {project : ProjectId} {archive staging expected n m : String}
  {host : Host} {cwd l : Location} {t u v : FileTree} {names names' : List String}
  {isDir : String → Bool}

/-! ## A new staging directory -/

/-- There is a directory at the path, or nothing is at its end. -/
def IsReplaceable (t : FileTree) (cwd : Location) (staging : String) : Prop :=
  t.isDirectory cwd staging ∨ t.get? (cwd.reach staging) = none

variable (config project archive staging host) in
/-- What unpacking comes to in a tree without a staging directory. -/
def extracted (t : FileTree) : Outcome String :=
  ((change (.creatingStaging staging) (.createDirs staging)).outcome host t).andThen fun _ u =>
    Outcome.andThen
      ⟨config.extractor.verdict "extract"
          (host.launch (extractJob config archive staging) u).outcome,
        (host.launch (extractJob config archive staging) u).files,
        [.launched (extractJob config archive staging)
          (host.launch (extractJob config archive staging) u).outcome
          (host.launch (extractJob config archive staging) u).files]⟩
      fun _ v => ⟨rootIn project archive staging v host.cwd, v, []⟩

theorem exists?_eq_isDirectory (ht : t.SymlinkFree) (hst : IsReplaceable t cwd staging) :
    t.exists? cwd staging = t.isDirectory cwd staging := by
  rw [Bool.eq_iff_iff, exists?_iff_find]
  constructor
  · rintro ⟨l, e, hf⟩
    obtain ⟨hr, he⟩ := find_eq_ok.mp hf
    obtain rfl : l = cwd.reach staging := resolve_reach ht hr
    exact hst.resolve_right fun hnone => by cases hnone.symm.trans he
  · intro hd
    obtain ⟨l, hf⟩ := isDirectory_iff_find.mp hd
    exact ⟨l, _, hf⟩

/-- Whatever is in the staging directory goes away first, and is seen no more. -/
theorem outcome_extract_prune (config : Config) (project : ProjectId) (archive : String)
    (ht : t.SymlinkFree) (hname : Path.endsInName staging)
    (hdirect : host.cwd.IsDirect staging) (hst : IsReplaceable t host.cwd staging) :
    ∃ before : List Event, before.filterMap (·.job?) = [] ∧
      (extract config project archive staging).outcome host t =
        let o := extracted config project archive staging host (t.prune (host.cwd.reach staging))
        ⟨o.result, o.files, before ++ o.history⟩ := by
  rw [outcome_extract, outcome_resetStaging, exists?_eq_isDirectory ht hst]
  by_cases hd : t.isDirectory host.cwd staging
  · have hremove : Call.perform host.cwd (.removeTree staging) t =
        (.ok (), t.prune (host.cwd.reach staging)) := removeTree_of_isDirect ht hname hdirect hd
    refine ⟨[.changed (.removeTree staging) (.ok ()) (t.prune (host.cwd.reach staging))],
      by simp [Event.job?], ?_⟩
    rw [if_pos hd, outcome_change (.clearingStaging staging), hremove, Outcome.andThen_assoc]
    rfl
  · have hnone := hst.resolve_left hd
    rw [if_neg hd, prune_of_get?_eq_none hnone]
    exact ⟨[], rfl, rfl⟩

/-- `u` is `t` with an empty staging directory and the directories above it. -/
structure IsNew (t u : FileTree) (cwd : Location) (staging : String) : Prop where
  symlinkFree : u.SymlinkFree
  isDirectory : u.isDirectory cwd staging
  get?_below : ∀ k, k ≠ [] → u.get? (cwd.reach staging ++ k) = none
  get?_eq : ∀ k, ¬ cwd.reach staging <+: k →
    u.get? k = t.get? k ∨ t.get? k = none ∧ u.get? k = some .directory

theorem isNew_of_createDirs (ht : t.SymlinkFree) (hname : Path.endsInName staging)
    (hdirect : cwd.IsDirect staging)
    (h : (t.prune (cwd.reach staging)).createDirs cwd staging = (.ok (), u)) :
    IsNew t u cwd staging := by
  have hne : cwd.reach staging ≠ [] := reach_ne_nil hname
  have hpruned := ht.prune hne
  have hadds := createDirs_adds_way cwd staging hpruned
  rw [h] at hadds
  refine ⟨hadds.symlinkFree hpruned,
    isDirectory_of_createDirs hpruned (Path.ne_empty_of_endsInName hname) h, fun k hk => ?_,
    fun k hk => ?_⟩
  · rw [hadds.get?_of_not, get?_prune hne, if_pos (List.prefix_append _ k)]
    -- Nothing on the way is below the end.
    rintro ⟨ns, hns, hway⟩
    have hend := hdirect ns ((List.mem_inits _ _).mpr hns) (hway ▸ List.prefix_append _ k)
    rw [← hway] at hend
    exact hk (by simpa using hend)
  · have hout : (t.prune (cwd.reach staging)).get? k = t.get? k := by
      rw [get?_prune hne, if_neg hk]
    rcases hadds k with hk | ⟨-, hnone, hd⟩
    · exact .inl (hk.trans hout)
    · exact .inr ⟨hout ▸ hnone, hd⟩

/-- The system takes the path, and what is there on its way are directories. -/
def CanStage (t : FileTree) (cwd : Location) (staging : String) : Prop :=
  Path.IsUsable staging ∧ ∀ ns, ns <+: Path.steps staging →
    ∀ e, t.get? ((cwd.start staging).after ns) = some e → e = .directory

theorem canStage_iff (ht : t.SymlinkFree) (hname : Path.endsInName staging)
    (hdirect : cwd.IsDirect staging) (hst : IsReplaceable t cwd staging)
    (hstart : t.hasStart cwd staging) (hout : cwd.start staging ≠ cwd.reach staging) :
    (∃ u, (t.prune (cwd.reach staging)).createDirs cwd staging = (.ok (), u)) ↔
      CanStage t cwd staging := by
  have hne : cwd.reach staging ≠ [] := reach_ne_nil hname
  -- Only the end of the way is in the directory that goes away.
  have hend {ns : List String} (hns : ns <+: Path.steps staging) :=
    hdirect ns ((List.mem_inits _ _).mpr hns)
  rw [createDirs_eq_ok_iff (ht.prune hne) hname]
  constructor
  · rintro ⟨husable, -, hdir⟩
    refine ⟨husable, fun ns hns e he => ?_⟩
    by_cases hin : cwd.reach staging <+: (cwd.start staging).after ns
    · rw [hend hns hin] at he
      rcases hst with hd | hnone
      · exact (hasWay_of_isDirectory ht hd).directory _ List.prefix_rfl e he
      · rw [hnone] at he
        cases he
    · exact hdir ns hns e (by rw [get?_prune hne, if_neg hin, he])
  · rintro ⟨husable, hdir⟩
    have hnot : ¬ cwd.reach staging <+: cwd.start staging := fun hc =>
      hout (@hend [] List.nil_prefix hc)
    refine ⟨husable, ?_, fun ns hns e he => hdir ns hns e ?_⟩
    · rw [get?_prune hne, if_neg hnot, hasStart_iff.mp hstart]
    · rw [get?_prune hne] at he
      split at he
      · cases he
      · exact he

/-! ## The root among the entries -/

/-- The project's root among the names of a listing: the directory that is expected, or else the
only entry, if that is a directory. -/
def rootAmong (isDir : String → Bool) (expected : String) (names : List String) : Option String :=
  if isDir expected then some expected
  else match names with
    | [n] => if isDir n then some n else none
    | _ => none

theorem eq_singleton_iff_of_nodup (hn : names.Nodup) :
    names = [n] ↔ ∀ m, m ∈ names ↔ m = n := by
  rw [← List.perm_singleton, List.perm_ext_iff_of_nodup hn (List.pairwise_singleton _ n)]
  simp

theorem rootAmong_eq_some_iff (hn : names.Nodup) :
    rootAmong isDir expected names = some n ↔
      isDir n ∧ (n = expected ∨ isDir expected = false ∧ ∀ m, m ∈ names ↔ m = n) := by
  unfold rootAmong
  rw [← eq_singleton_iff_of_nodup hn]
  by_cases he : isDir expected
  · simp only [he, if_true, Option.some.injEq]
    constructor
    · rintro rfl
      exact ⟨he, .inl rfl⟩
    · rintro ⟨-, rfl | ⟨hc, -⟩⟩
      · rfl
      · cases hc
  · have hright : isDir n ∧ (n = expected ∨ isDir expected = false ∧ names = [n]) ↔
        isDir n ∧ names = [n] := by
      constructor
      · rintro ⟨hd, rfl | ⟨-, h⟩⟩
        · exact absurd hd he
        · exact ⟨hd, h⟩
      · exact fun h => ⟨h.1, .inr ⟨by simpa using he, h.2⟩⟩
    rw [if_neg he, hright]
    rcases names with _ | ⟨x, _ | ⟨y, rest⟩⟩
    · simp
    · simp only [Option.ite_none_right_eq_some, Option.some.injEq, List.cons.injEq, and_true]
      constructor <;> rintro ⟨hd, rfl⟩ <;> exact ⟨hd, rfl⟩
    · simp

/-- The order of a listing makes no difference. -/
theorem rootAmong_perm (hn : names.Nodup) (h : names'.Perm names) :
    rootAmong isDir expected names' = rootAmong isDir expected names := by
  refine Option.ext fun n => ?_
  rw [rootAmong_eq_some_iff (h.nodup_iff.mpr hn), rootAmong_eq_some_iff hn]
  simp only [h.mem_iff]

/-- The project's root has that name: it is the directory that is expected, whatever else is there,
or else a directory that is the only entry. -/
def IsUnpacked (v : FileTree) (cwd : Location) (staging expected n : String) : Prop :=
  v.isDirectory cwd (Path.join staging n) ∧
    (n = expected ∨ ¬ v.isDirectory cwd (Path.join staging expected) ∧
      ∃ l, v.find cwd staging = .ok (l, .directory) ∧ ∀ m, (v.get? (l ++ [m])).isSome ↔ m = n)

theorem IsUnpacked.unique (h : IsUnpacked v cwd staging expected n)
    (h' : IsUnpacked v cwd staging expected m) : n = m := by
  obtain ⟨hn, rfl | ⟨hno, l, hl, honly⟩⟩ := h <;> obtain ⟨hm, rfl | ⟨hno', l', hl', honly'⟩⟩ := h'
  · rfl
  · exact absurd hn hno'
  · exact absurd hm hno
  · obtain rfl : l = l' := by
      rw [hl] at hl'
      exact (Prod.mk.inj (Except.ok.inj hl')).1
    exact (honly' n).mp ((honly n).mpr rfl)

theorem IsUnpacked.isDirectory (h : IsUnpacked v cwd staging expected n) (hempty : staging ≠ "")
    (hexpected : Path.IsStep expected) : v.isDirectory cwd staging := by
  obtain ⟨hn, rfl | ⟨-, l, hl, -⟩⟩ := h
  · exact isDirectory_of_join hempty hexpected hn
  · exact isDirectory_iff_find.mpr ⟨l, hl⟩

/-- The root that a listing of the staging directory tells. -/
def rootFrom (v : FileTree) (cwd : Location) (project : ProjectId) (archive staging : String)
    (names : List String) : Except Failure String :=
  match rootAmong (fun n => v.isDirectory cwd (Path.join staging n)) project.bugId names with
  | some n => .ok (Path.join staging n)
  | none => .error (.ofCause (.archiveLayout archive))

theorem rootFrom_perm (hn : names.Nodup) (h : names'.Perm names) :
    rootFrom v cwd project archive staging names' = rootFrom v cwd project archive staging names := by
  unfold rootFrom
  rw [rootAmong_perm hn h]

theorem list_of_find (hl : v.find cwd staging = .ok (l, .directory)) :
    v.list cwd staging = .ok (v.names l) := by
  unfold FileTree.list
  rw [hl]
  rfl

theorem rootIn_eq_rootFrom (hl : v.find cwd staging = .ok (l, .directory)) :
    rootIn project archive staging v cwd =
      rootFrom v cwd project archive staging (v.names l) := by
  unfold rootIn rootFrom rootAmong
  rw [list_of_find hl]
  by_cases he : v.isDirectory cwd (Path.join staging project.bugId)
  · rw [if_pos he, if_pos he]
  · rw [if_neg he, if_neg he]
    match v.names l with
    | [] => rfl
    | [n] =>
      by_cases hn : v.isDirectory cwd (Path.join staging n)
      · simp only [hn, if_true]
      · simp only [hn, if_false, Bool.false_eq_true]
    | _ :: _ :: _ => rfl

theorem rootAmong_eq_some_iff_isUnpacked (hl : v.find cwd staging = .ok (l, .directory)) :
    rootAmong (fun n => v.isDirectory cwd (Path.join staging n)) expected (v.names l) = some n ↔
      IsUnpacked v cwd staging expected n := by
  rw [rootAmong_eq_some_iff (v.nodup_names l), IsUnpacked, hl, Bool.not_eq_true]
  simp [mem_names]

/-- The three results of a look at the staging directory. -/
theorem rootIn_cases (project : ProjectId) (archive : String) (cwd : Location) (v : FileTree)
    (hempty : staging ≠ "") :
    (¬ v.isDirectory cwd staging ∧ ∃ fault,
      rootIn project archive staging v cwd =
        .error (.during (.readingStaging staging) (.file fault))) ∨
    (v.isDirectory cwd staging ∧ ∃ n, IsUnpacked v cwd staging project.bugId n ∧
      rootIn project archive staging v cwd = .ok (Path.join staging n)) ∨
    (v.isDirectory cwd staging ∧ (¬ ∃ n, IsUnpacked v cwd staging project.bugId n) ∧
      rootIn project archive staging v cwd = .error (.ofCause (.archiveLayout archive))) := by
  by_cases hd : v.isDirectory cwd staging
  · obtain ⟨l, hl⟩ := isDirectory_iff_find.mp hd
    have hiff (n : String) :
        rootAmong (fun n => v.isDirectory cwd (Path.join staging n)) project.bugId (v.names l) =
          some n ↔ IsUnpacked v cwd staging project.bugId n :=
      rootAmong_eq_some_iff_isUnpacked hl
    rw [rootIn_eq_rootFrom hl]
    unfold rootFrom
    cases hr : rootAmong (fun n => v.isDirectory cwd (Path.join staging n)) project.bugId
        (v.names l) with
    | some n => exact .inr (.inl ⟨hd, n, (hiff n).mp hr, rfl⟩)
    | none =>
      refine .inr (.inr ⟨hd, fun ⟨n, hn⟩ => ?_, rfl⟩)
      rw [(hiff n).mpr hn] at hr
      cases hr
  · have hbug : ¬ v.isDirectory cwd (Path.join staging project.bugId) := fun h =>
      hd (isDirectory_of_join hempty project.isName_bugId.isStep h)
    refine .inl ⟨hd, ?_⟩
    rw [rootIn, if_neg hbug]
    cases hlist : v.list cwd staging with
    | error fault => exact ⟨fault, rfl⟩
    | ok names =>
      obtain ⟨⟨l, e⟩, hl, hlist⟩ := bind_eq_ok.mp hlist
      cases e <;> cases hlist
      exact absurd (isDirectory_iff_find.mpr ⟨l, hl⟩) hd

/-! ## Each end has its result -/

/-- What unpacking comes to when the extractor ended that way and left `v`. -/
structure Sorted (tool : ToolCommand) (project : ProjectId) (archive staging : String)
    (cwd : Location) (ended : Except Fault ExitStatus) (v : FileTree)
    (result : Except Failure String) : Prop where
  ok_iff : ∀ root, result = .ok root ↔ ended = .ok (.exited 0) ∧
    ∃ n, root = Path.join staging n ∧ IsUnpacked v cwd staging project.bugId n
  layout_iff : result = .error (.ofCause (.archiveLayout archive)) ↔
    ended = .ok (.exited 0) ∧ v.isDirectory cwd staging ∧
      ¬ ∃ n, IsUnpacked v cwd staging project.bugId n
  reading_iff : (∃ fault, result = .error (.during (.readingStaging staging) (.file fault))) ↔
    ended = .ok (.exited 0) ∧ ¬ v.isDirectory cwd staging
  notStarted_iff : ∀ fault,
    result = .error (.ofCause (.notStarted "extract" tool.program fault)) ↔ ended = .error fault
  toolFailed_iff : ∀ status, result = .error (.ofCause (.toolFailed "extract" status)) ↔
    ended = .ok status ∧ status ≠ .exited 0
  /-- In any order of a listing. -/
  order : ended = .ok (.exited 0) → ∀ l, v.find cwd staging = .ok (l, .directory) →
    ∀ names, names.Perm (v.names l) →
      result = rootFrom v cwd project archive staging names
  /-- Without links the directories in the staging directory are those entries that the system can
  look up. -/
  directory_iff : v.SymlinkFree → ∀ n, IsName n → (v.isDirectory cwd (Path.join staging n) ↔
    v.isDirectory cwd staging ∧ v.get? (cwd.reach staging ++ [n]) = some .directory ∧
      n.utf8ByteSize ≤ nameLimit ∧ (Path.join staging n).utf8ByteSize ≤ pathLimit)

/-- The result when the extractor ended that way and left `v`. -/
def resultOf (tool : ToolCommand) (project : ProjectId) (archive staging : String) (cwd : Location)
    (ended : Except Fault ExitStatus) (v : FileTree) : Except Failure String :=
  (tool.verdict "extract" ended).bind fun _ => rootIn project archive staging v cwd

theorem resultOf_error (tool : ToolCommand) (fault : Fault) (v : FileTree) :
    resultOf tool project archive staging cwd (.error fault) v =
      .error (.ofCause (.notStarted "extract" tool.program fault)) := rfl

theorem resultOf_ok (tool : ToolCommand) (v : FileTree) :
    resultOf tool project archive staging cwd (.ok (.exited 0)) v =
      rootIn project archive staging v cwd := by
  rw [resultOf, ToolCommand.verdict_eq_ok_iff.mpr rfl, Except.bind]

theorem resultOf_failed (tool : ToolCommand) (v : FileTree) {status : ExitStatus}
    (h : status ≠ .exited 0) :
    resultOf tool project archive staging cwd (.ok status) v =
      .error (.ofCause (.toolFailed "extract" status)) := by
  simp [resultOf, ToolCommand.verdict, ExitStatus.isSuccess, h, Except.bind]

theorem sorted_resultOf (tool : ToolCommand) (project : ProjectId) (archive : String)
    (cwd : Location) (hempty : staging ≠ "") (ended : Except Fault ExitStatus) (v : FileTree) :
    Sorted tool project archive staging cwd ended v
      (resultOf tool project archive staging cwd ended v) := by
  have hdirectory (hv : v.SymlinkFree) (n : String) (hn : IsName n) :
      v.isDirectory cwd (Path.join staging n) ↔ v.isDirectory cwd staging ∧
        v.get? (cwd.reach staging ++ [n]) = some .directory ∧ n.utf8ByteSize ≤ nameLimit ∧
          (Path.join staging n).utf8ByteSize ≤ pathLimit :=
    isDirectory_join_iff hv hempty hn.isStep hn.2.2.1
  rcases ended with fault | status
  · rw [resultOf_error]
    refine ⟨?_, ?_, ?_, ?_, ?_, ?_, hdirectory⟩ <;> simp [Failure.ofCause, Failure.during]
  by_cases hs : status = .exited 0
  · subst hs
    rw [resultOf_ok]
    have horder (l : Location) (hl : v.find cwd staging = .ok (l, .directory))
        (names : List String) (hn : names.Perm (v.names l)) :
        rootIn project archive staging v cwd = rootFrom v cwd project archive staging names := by
      rw [rootIn_eq_rootFrom hl, rootFrom_perm (v.nodup_names l) hn]
    rcases rootIn_cases project archive cwd v hempty with
      ⟨hd, fault, hr⟩ | ⟨hd, n, hn, hr⟩ | ⟨hd, hno, hr⟩
    · have hno : ¬ ∃ n, IsUnpacked v cwd staging project.bugId n := fun ⟨n, hn⟩ =>
        hd (hn.isDirectory hempty project.isName_bugId.isStep)
      refine ⟨fun root => ?_, ?_, ?_, ?_, ?_, fun _ => horder, hdirectory⟩ <;> rw [hr] <;>
        simp [Failure.ofCause, Failure.during, hd, not_exists.mp hno]
    · refine ⟨fun root => ?_, ?_, ?_, ?_, ?_, fun _ => horder, hdirectory⟩ <;> rw [hr] <;>
        simp [Failure.ofCause, Failure.during, hd]
      · exact ⟨fun h => ⟨n, h.symm, hn⟩, fun ⟨m, h, hm⟩ => by rw [h, hn.unique hm]⟩
      · exact ⟨n, hn⟩
    · refine ⟨fun root => ?_, ?_, ?_, ?_, ?_, fun _ => horder, hdirectory⟩ <;> rw [hr] <;>
        simp [Failure.ofCause, Failure.during, hd, not_exists.mp hno]
  · rw [resultOf_failed tool v hs]
    refine ⟨?_, ?_, ?_, ?_, ?_, ?_, hdirectory⟩ <;> simp [Failure.ofCause, Failure.during, hs]

/-! ## The whole of it -/

theorem outcome_extracted (config : Config) (project : ProjectId) (archive : String)
    (h : t.createDirs host.cwd staging = (.ok (), u)) :
    let run := host.launch (extractJob config archive staging) u
    (extracted config project archive staging host t).result =
        resultOf config.extractor project archive staging host.cwd run.outcome run.files ∧
      (extracted config project archive staging host t).files = run.files ∧
      (extracted config project archive staging host t).jobs =
        [extractJob config archive staging] := by
  intro run
  have hcreate : Call.perform host.cwd (.createDirs staging) t = (.ok (), u) := h
  unfold extracted resultOf
  rw [outcome_change, hcreate]
  cases hv : config.extractor.verdict "extract" run.outcome <;>
    simp [Except.mapError, Outcome.andThen, run, hv, Except.bind, Outcome.jobs, Event.job?]

theorem outcome_extracted_error (config : Config) (project : ProjectId) (archive : String)
    {fault : Fault} (h : t.createDirs host.cwd staging = (.error fault, u)) :
    (extracted config project archive staging host t).result =
        .error (.during (.creatingStaging staging) (.file fault)) ∧
      (extracted config project archive staging host t).jobs = [] := by
  have hcreate : Call.perform host.cwd (.createDirs staging) t = (.error fault, u) := h
  unfold extracted
  rw [outcome_change, hcreate]
  simp [Except.mapError, Outcome.andThen, Outcome.jobs, Event.job?]

/-- Where a staging directory can be made the extractor starts in an empty one, once, and how it
ends and what it leaves there decide the result. Elsewhere the extractor does not start. What was in
the staging directory before makes no difference. A relative path to it starts from a working
directory that is there, and stays there when the old staging directory goes away. -/
theorem extract_sorts (config : Config) (project : ProjectId) (archive : String) (host : Host)
    (ht : t.SymlinkFree) (hname : Path.endsInName staging)
    (hdirect : host.cwd.IsDirect staging) (hst : IsReplaceable t host.cwd staging)
    (hstart : t.hasStart host.cwd staging)
    (hout : host.cwd.start staging ≠ host.cwd.reach staging) :
    let o := (extract config project archive staging).outcome host t
    (¬ CanStage t host.cwd staging → o.jobs = [] ∧
      ∃ fault, o.result = .error (.during (.creatingStaging staging) (.file fault))) ∧
    (CanStage t host.cwd staging → ∃ u, IsNew t u host.cwd staging ∧
      o.jobs = [extractJob config archive staging] ∧
      let run := host.launch (extractJob config archive staging) u
      o.files = run.files ∧
        Sorted config.extractor project archive staging host.cwd run.outcome run.files o.result) ∧
    ∀ t', t'.SymlinkFree → IsReplaceable t' host.cwd staging →
      (∀ k, ¬ host.cwd.reach staging <+: k → t'.get? k = t.get? k) →
      let o' := (extract config project archive staging).outcome host t'
      o'.result = o.result ∧ o'.jobs = o.jobs ∧ o'.files = o.files := by
  have hempty := Path.ne_empty_of_endsInName hname
  have hprune {t : FileTree} (ht : t.SymlinkFree) (hst : IsReplaceable t host.cwd staging) :
      let o := (extract config project archive staging).outcome host t
      let e := extracted config project archive staging host (t.prune (host.cwd.reach staging))
      o.result = e.result ∧ o.jobs = e.jobs ∧ o.files = e.files := by
    obtain ⟨before, hjobs, ho⟩ := outcome_extract_prune config project archive ht hname hdirect hst
    intro o e
    simp only [o, ho]
    exact ⟨rfl, by simp [Outcome.jobs, hjobs, e], rfl⟩
  intro o
  obtain ⟨hresult, hjobs, hfiles⟩ := hprune ht hst
  have hcan := canStage_iff ht hname hdirect hst hstart hout
  refine ⟨fun hno => ?_, fun hcan' => ?_, fun t' ht' hst' hsame => ?_⟩
  · rcases hc : (t.prune (host.cwd.reach staging)).createDirs host.cwd staging with ⟨r, u⟩
    cases r with
    | ok => exact absurd (hcan.mp ⟨u, hc⟩) hno
    | error fault =>
      obtain ⟨hr, hj⟩ := outcome_extracted_error config project archive hc
      exact ⟨hjobs.trans hj, fault, hresult.trans hr⟩
  · obtain ⟨u, hc⟩ := hcan.mpr hcan'
    obtain ⟨hr, hf, hj⟩ := outcome_extracted config project archive hc
    refine ⟨u, isNew_of_createDirs ht hname hdirect hc, hjobs.trans hj, hfiles.trans hf, ?_⟩
    rw [hresult.trans hr]
    exact sorted_resultOf config.extractor project archive host.cwd hempty _ _
  · have hpruned : t'.prune (host.cwd.reach staging) = t.prune (host.cwd.reach staging) := by
      refine ext_get? fun k => ?_
      rw [get?_prune (reach_ne_nil hname), get?_prune (reach_ne_nil hname)]
      split
      · rfl
      · exact hsame k ‹_›
    obtain ⟨hresult', hjobs', hfiles'⟩ := hprune ht' hst'
    rw [hpruned] at hresult' hjobs' hfiles'
    exact ⟨hresult'.trans hresult.symm, hjobs'.trans hjobs.symm, hfiles'.trans hfiles.symm⟩

/-- A directory with another one in it. -/
def staleTree : FileTree := (FileTree.empty.put [] "s" .directory).put ["s"] "10" .directory

theorem symlinkFree_staleTree : staleTree.SymlinkFree :=
  (symlinkFree_empty.put (by simp)).put (by simp)

/-- Unpacking with an extractor that does nothing. -/
def idleUnpack (staging : String) (t : FileTree) : Outcome String :=
  (extract Config.default lang10 "a" staging).outcome idleHost t

theorem stale_root_not_unpacked :
    (idleUnpack "s/" staleTree).jobs = [extractJob Config.default "a" "s/"] ∧
    (idleUnpack "s/" staleTree).result = .error (.ofCause (.archiveLayout "a")) ∧
    (¬ ∃ n, IsUnpacked (idleUnpack "s/" staleTree).files idleHost.cwd "s/" "10" n) ∧
    (idleUnpack "s/" .empty).files = (idleUnpack "s/" staleTree).files := by
  have hdirectory : staleTree.isDirectory idleHost.cwd "s/" := by decide +kernel
  have hreach : idleHost.cwd.reach "s/" = ["s"] := by decide +kernel
  obtain ⟨-, hstarts, hsame⟩ := extract_sorts Config.default lang10 "a" idleHost
    symlinkFree_staleTree (by decide +kernel : Path.endsInName "s/") (by decide +kernel)
    (.inl hdirectory) (by decide +kernel) (by decide +kernel)
  have hway := hasWay_of_isDirectory symlinkFree_staleTree hdirectory
  obtain ⟨u, -, hjobs, hfiles, hsorted⟩ := hstarts ⟨hway.isUsable, hway.directory⟩
  have hresult : (idleUnpack "s/" staleTree).result = .error (.ofCause (.archiveLayout "a")) := by
    decide +kernel
  refine ⟨hjobs, hresult, ?_, ?_⟩
  · have hno := (hsorted.layout_iff.mp hresult).2.2
    rwa [← hfiles] at hno
  · refine (hsame .empty symlinkFree_empty (.inr (by decide +kernel)) fun k hk => ?_).2.2
    rw [hreach] at hk
    rw [staleTree, get?_put_of_ne _ fun hc => hk ⟨["10"], hc.symm⟩,
      get?_put_of_ne _ fun hc => hk ⟨[], hc.symm⟩]

/-- What is no directory on the way to a staging directory stops the unpacking, and a path that ends
in a dot does as well. A way through what is missing leads to a directory that is not cleared. -/
theorem unpacking_without_new_staging :
    let file : FileTree := FileTree.empty.put [] "f" (.file "z".toUTF8 false none)
    (file.SymlinkFree ∧ file.exists? [] "f/s" = false ∧ (idleUnpack "f/s" file).jobs = [] ∧
      (idleUnpack "f/s" file).result =
        .error (.during (.creatingStaging "f/s") (.file .notDirectory))) ∧
    (staleTree.SymlinkFree ∧ staleTree.isDirectory [] "s/." ∧
      (idleUnpack "s/." staleTree).jobs = [] ∧
      (idleUnpack "s/." staleTree).result =
        .error (.during (.clearingStaging "s/.") (.file .invalidArgument))) ∧
    staleTree.exists? [] "x/../s" = false ∧
      (idleUnpack "x/../s" staleTree).result = .ok "x/../s/10" ∧
      (idleUnpack "x/../s" .empty).result = .error (.ofCause (.archiveLayout "a")) := by
  refine ⟨⟨symlinkFree_empty.put (by simp), ?_, ?_, ?_⟩, ⟨symlinkFree_staleTree, ?_, ?_, ?_⟩,
    ?_, ?_, ?_⟩ <;> decide +kernel

end Archive

end BenchCheckout
