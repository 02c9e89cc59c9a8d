import BenchCheckout.Proofs.Children

/-!
# Paths that children are told

A child runs in a directory of its own, so it is told absolute paths. The program makes each of them
absolute once, from its own directory, and goes by the same text afterwards.

* `Outcome.mem_calls_andThen`: the changes of two actions in a row.
* `Config.paths_resolved_once`: the paths of the downloader, the extractor and the instrumenter, and
  what the program itself does with them.
* `Instrument.far_classes_not_found`: an absolute path can be too long where the path that it was
  made from is not.
-/

namespace BenchCheckout

open BenchCheckout.Action

/-! ## Changes of two actions in a row -/

namespace Outcome

variable {α β : Type} {o : Outcome α} {next : α → FileTree → Outcome β} {f : Failure}

theorem andThen_of_error (h : o.result = .error f) :
    o.andThen next = ⟨.error f, o.files, o.history⟩ := by
  rw [eq_of_result h, error_andThen]

/-- The changes of two actions in a row are those of the first, and behind its success those of the
second. -/
theorem mem_calls_andThen {c : Call} :
    c ∈ (o.andThen next).calls ↔
      c ∈ o.calls ∨ ∃ a, o.result = .ok a ∧ c ∈ (next a o.files).calls := by
  obtain ⟨r, t, history⟩ := o
  cases r with
  | error f => simp [error_andThen, calls]
  | ok a =>
    rw [ok_andThen, calls, List.filterMap_append, List.mem_append]
    simp [calls]

end Outcome

variable {config : Config} {project : ProjectId} {raw workspace : String} {host : Host}

/-! ## Archives -/

namespace Archive

theorem isResolved_place (hcwd : ∀ n ∈ host.cwd, IsName n) :
    Path.IsResolved host.cwd (Path.join config.archiveDir project.archiveName)
      (place host.cwd config.archiveDir project) :=
  Path.isResolved_of_absolute hcwd (Path.absolute_join project.isName_archiveName.isStep)

theorem isResolved_partialPlace (hcwd : ∀ n ∈ host.cwd, IsName n) :
    Path.IsResolved host.cwd (Path.join config.archiveDir project.partialName)
      (partialPlace host.cwd config.archiveDir project) :=
  Path.isResolved_of_absolute hcwd (Path.absolute_join project.isName_partialName.isStep)

/-- The job is a download of a project's archive to the path `output`. -/
def IsDownload (config : Config) (project : ProjectId) (output : String) (job : Job) : Prop :=
  ∃ dir, job = config.downloader.job
    [("url", project.archiveUrl config.archiveBaseUrl), ("output", output)] dir

theorem isDownload_downloadJob (config : Config) (project : ProjectId) (cwd : Location) :
    IsDownload config project (partialPlace cwd config.archiveDir project)
      (downloadJob config project cwd) := ⟨_, rfl⟩

/-- A fetch tells the downloader the path `output`. What the downloader leaves there is renamed to
`archive`, and that is the path that the fetch tells. -/
structure GoesBy (config : Config) (project : ProjectId) (output archive : String)
    (o : Outcome String) : Prop where
  told : ∀ job ∈ o.jobs, IsDownload config project output job
  renames : ∀ p q, .rename p q ∈ o.calls → p = output ∧ q = archive
  renamed : o.result.isOk → o.jobs ≠ [] → ∃ before job ended u v,
    o.history = before ++ [.launched job ended u, .changed (.rename output archive) (.ok ()) v]
  tells : ∀ a, o.result = .ok a → a = archive

theorem fetch_goesBy (policy : ArchivePolicy) (hcwd : ∀ n ∈ host.cwd, IsName n) (t : FileTree) :
    GoesBy config project (partialPlace host.cwd config.archiveDir project)
      (place host.cwd config.archiveDir project)
      ((fetch config project policy).outcome host t) := by
  refine ⟨fetch_starts policy hcwd (isDownload_downloadJob _ _ _) t, ?_, ?_,
    fun a ha => Checkout.fetch_eq_ok policy hcwd ha⟩
  all_goals
    have hf := fetched config project policy host hcwd t
    generalize (fetch config project policy).outcome host t = o at hf ⊢
  · intro p q hpq
    cases hf with
    | pathless | reused => cases hpq
    | homeless => cases List.mem_singleton.mp hpq
    | failed =>
      rcases List.mem_cons.mp hpq with hpq | hpq
      · cases hpq
      · cases List.mem_singleton.mp hpq
    | ended =>
      rcases List.mem_cons.mp hpq with hpq | hpq
      · cases hpq
      · exact Call.rename.inj (List.mem_singleton.mp hpq)
  · intro hok hjobs
    cases hf with
    | reused => exact absurd rfl hjobs
    | pathless | homeless | failed => cases hok
    | @ended _ _ _ moved =>
      cases moved with
      | error => cases hok
      | ok => exact ⟨[_], _, _, _, _, rfl⟩

end Archive

/-! ## Checkouts -/

namespace Checkout

/-- Whatever became of the unpacking, a transient archive is deleted behind it. -/
theorem removeFile_mem_unpackInto (config : Config) (project : ProjectId) (host : Host)
    (archive staging dest : String) (t : FileTree) :
    Call.removeFile archive ∈
      ((unpackInto config project .transient archive staging dest).outcome host t).calls := by
  have hdeleted (u : FileTree) : Call.removeFile archive ∈
      (deletion .transient host u archive).history.filterMap (·.call?) := by
    rw [deletion, outcome_change]
    exact List.mem_singleton_self _
  rw [outcome_unpackInto]
  generalize (putInPlace config project archive staging dest).outcome host t = o
  obtain ⟨r | _, u, history⟩ := o
  · rw [Outcome.calls, List.filterMap_append, List.mem_append]
    exact .inr (List.mem_cons_of_mem _ (hdeleted _))
  · rw [Outcome.calls, List.filterMap_append, List.mem_append]
    exact .inr (hdeleted _)

/-- A checkout tells the extractor the path `archive` that its fetch tells. It deletes a transient
archive there, unless it fails before anything but the download was started. -/
structure GoesBy (config : Config) (project : ProjectId) (workspace output archive : String)
    (options : Options) (o : Outcome String) : Prop where
  told : ∀ job ∈ o.jobs, Archive.IsDownload config project output job ∨
    job = config.extractor.job [("archive", archive)] (staging workspace project) ∨
      job = config.build.command.job [] (place workspace project)
  deletes : options.archive = .transient →
    .removeFile archive ∈ o.calls ∨
      ¬ o.result.isOk ∧ ∀ job ∈ o.jobs, Archive.IsDownload config project output job

theorem run_deletes (hcwd : ∀ n ∈ host.cwd, IsName n) (build : Bool) (t : FileTree) :
    let o := (run config project workspace ⟨build, .transient⟩).outcome host t
    .removeFile (Archive.place host.cwd config.archiveDir project) ∈ o.calls ∨
      ¬ o.result.isOk ∧ ∀ job ∈ o.jobs, Archive.IsDownload config project
        (Archive.partialPlace host.cwd config.archiveDir project) job := by
  intro o
  -- Up to the end of the fetch nothing but the download can be started, and behind it the archive is
  -- deleted whatever comes; so the run is cut there.
  have hdownload : (((removeStale (place workspace project)).outcome host t).andThen fun _ u =>
      (Archive.fetch config project .transient).outcome host u).Starts
        (Archive.IsDownload config project
          (Archive.partialPlace host.cwd config.archiveDir project)) :=
    .andThen (removeStale_starts _ _) fun _ _ =>
      Archive.fetch_starts .transient hcwd (Archive.isDownload_downloadJob _ _ _) _
  simp only [o, outcome_run, ← Outcome.andThen_assoc]
  generalize hfetched : (((removeStale (place workspace project)).outcome host t).andThen fun _ u =>
      (Archive.fetch config project .transient).outcome host u) = fetched at hdownload ⊢
  cases hr : fetched.result with
  | error f =>
    simp only [Outcome.andThen_of_error hr]
    exact .inr ⟨nofun, hdownload⟩
  | ok archive =>
    obtain ⟨_, u, _, _, -, hfetch, -⟩ :=
      Outcome.andThen_eq_ok (hfetched.trans (Outcome.eq_of_result hr))
    obtain rfl := fetch_eq_ok .transient hcwd (congrArg Outcome.result hfetch)
    rw [Outcome.andThen_assoc]
    refine .inl (Outcome.mem_calls_andThen.mpr (.inr ⟨_, hr, ?_⟩))
    exact Outcome.mem_calls_andThen.mpr (.inl (removeFile_mem_unpackInto config project host
      (Archive.place host.cwd config.archiveDir project) (staging workspace project)
      (place workspace project) fetched.files))

theorem checkout_goesBy (hproject : ProjectId.parse? raw = some project)
    (hcwd : ∀ n ∈ host.cwd, IsName n) (options : Options) (t : FileTree) :
    GoesBy config project workspace (Archive.partialPlace host.cwd config.archiveDir project)
      (Archive.place host.cwd config.archiveDir project) options
      ((checkout config raw workspace options).outcome host t) where
  told := by
    intro job hj
    cases checkout_starts hproject hcwd options t job hj with
    | download => exact .inl (Archive.isDownload_downloadJob _ _ _)
    | unpack => exact .inr (.inl rfl)
    | build => exact .inr (.inr rfl)
  deletes := by
    intro htransient
    obtain ⟨build, policy⟩ := options
    obtain rfl : policy = .transient := htransient
    rw [outcome_checkout, hproject]
    simp only
    split
    · exact run_deletes hcwd build t
    · exact .inr ⟨nofun, nofun⟩

end Checkout

/-! ## Instrumenting -/

namespace Instrument

theorem isResolved_classesPlace (hcwd : ∀ n ∈ host.cwd, IsName n) :
    Path.IsResolved host.cwd (targetClasses workspace project)
      (classesPlace host.cwd workspace project) :=
  Path.isResolved_of_absolute hcwd (absolute_targetClasses _ _ _)

/-- From everywhere, the absolute path of the classes leads where they were found. -/
theorem find_classesPlace {t : FileTree} (hcwd : ∀ n ∈ host.cwd, IsName n)
    (h : t.isDirectory host.cwd (targetClasses workspace project))
    (hfit : Path.IsUsable (classesPlace host.cwd workspace project)) (elsewhere : Location) :
    t.find elsewhere (classesPlace host.cwd workspace project) =
      t.find host.cwd (targetClasses workspace project) := by
  obtain ⟨l, hfind⟩ := FileTree.isDirectory_iff_find.mp h
  exact FileTree.find_absolute hcwd isStep_classes (FileTree.checkPath_of_find hfind) hfit elsewhere

/-- The changes of instrumenting: it copies the support class between two class roots. -/
inductive IsOwn (host : Host) (config : InstrumenterConfig) (classes : String) : Call → Prop where
  | makeDir {dir : String}
    (parent_eq : Path.parent? (Path.join classes config.supportClass) = some dir) :
    IsOwn host config classes (.createDirs dir)
  | copy {ownClasses : String}
    (own_eq : Path.absolute host.cwd.text config.classesDir = .ok ownClasses) :
    IsOwn host config classes
      (.copy (Path.join ownClasses config.supportClass) (Path.join classes config.supportClass))

theorem copySupportClass_makes {instrumenter : InstrumenterConfig} {ownClasses : String}
    (h : Path.absolute host.cwd.text instrumenter.classesDir = .ok ownClasses) (classes : String)
    (t : FileTree) :
    ((copySupportClass instrumenter project ownClasses classes).outcome host t).Makes
      (IsOwn host instrumenter classes) := by
  rw [outcome_copySupportClass, outcome_copyInto]
  refine .andThen ?_ fun _ _ => nofun
  have hcopy (u : FileTree) : (copied host u (Path.join ownClasses instrumenter.supportClass)
      (Path.join classes instrumenter.supportClass)).Makes (IsOwn host instrumenter classes) := by
    intro c hc
    rw [List.mem_singleton.mp hc]
    exact .copy h
  cases hparent : Path.parent? (Path.join classes instrumenter.supportClass) with
  | none => exact hcopy t
  | some dir =>
    simp only
    split
    · intro c hc
      rw [List.mem_singleton.mp hc]
      exact .makeDir hparent
    · intro c hc
      rcases List.mem_cons.mp hc with rfl | hc
      · exact .makeDir hparent
      · exact hcopy _ c hc

/-- Instrumenting tells the instrumenter absolute paths: those of its jar and of its own classes,
and `classes`, where the compiled classes were found; the support class is copied to a path in
`classes`. An empty path is a failure before that. -/
structure GoesBy (host : Host) (t : FileTree) (config : InstrumenterConfig) (project : ProjectId)
    (workspace classes : String) (o : Outcome String) : Prop where
  told : ∀ job ∈ o.jobs, ∃ jar ownClasses,
    Path.IsResolved host.cwd config.jar jar ∧
    Path.IsResolved host.cwd config.classesDir ownClasses ∧
    job = config.command.job
      [("jar", jar), ("instrumenter_classes", ownClasses), ("target_classes", classes)] workspace
  found : o.jobs ≠ [] → t.isDirectory host.cwd (targetClasses workspace project) ∧
    (Path.IsUsable classes → ∀ elsewhere, t.find elsewhere classes =
      t.find host.cwd (targetClasses workspace project))
  copies : ∀ source dest, .copy source dest ∈ o.calls →
    dest = Path.join classes config.supportClass ∧ ∃ ownClasses,
      Path.IsResolved host.cwd config.classesDir ownClasses ∧
        source = Path.join ownClasses config.supportClass
  tells : ∀ dest, o.result = .ok dest → dest = Path.join classes config.supportClass
  empty : config.jar = "" ∨ config.classesDir = "" → o.jobs = [] ∧ ¬ o.result.isOk

/-- Where the support class was copied, its copy's path is told. -/
theorem copySupportClass_eq_ok {instrumenter : InstrumenterConfig}
    {ownClasses classes dest : String} {t : FileTree}
    (h : ((copySupportClass instrumenter project ownClasses classes).outcome host t).result =
      .ok dest) :
    dest = Path.join classes instrumenter.supportClass := by
  rw [outcome_copySupportClass] at h
  obtain ⟨r, u, _, _, -, hverdict, -⟩ := Outcome.andThen_eq_ok (Outcome.eq_of_result h)
  cases r with
  | error fault => cases (Outcome.mk.inj hverdict).1
  | ok => exact (Except.ok.inj (Outcome.mk.inj hverdict).1).symm

theorem instrument_goesBy (hproject : ProjectId.parse? raw = some project)
    (hcwd : ∀ n ∈ host.cwd, IsName n) (t : FileTree) :
    GoesBy host t config.instrumenter project workspace (classesPlace host.cwd workspace project)
      ((instrument config raw workspace).outcome host t) := by
  have ho := instrumented hproject config workspace host t
  have hchild := instrument_starts hproject config workspace host t
  generalize (instrument config raw workspace).outcome host t = o at ho hchild ⊢
  refine ⟨fun job hj => ?_, fun hjobs => ?_, fun source dest hcopy => ?_, fun dest hdest => ?_,
    fun hempty => ?_⟩
  · obtain ⟨-, hjar, hown⟩ := hchild job hj
    exact ⟨_, _, FileTree.isResolved_of_absolute hcwd hjar, FileTree.isResolved_of_absolute hcwd hown,
      rfl⟩
  · obtain ⟨job, hj⟩ := List.exists_mem_of_ne_nil _ hjobs
    obtain ⟨there, -, -⟩ := hchild job hj
    exact ⟨there, find_classesPlace hcwd there⟩
  · cases ho with
    | unstarted => cases hcopy
    | started _ _ hown =>
      obtain hcopy | ⟨succeeded, -, hcopy⟩ := Outcome.mem_calls_andThen.mp hcopy
      · cases hcopy
      split at hcopy
      · cases copySupportClass_makes (FileTree.absolute_eq_ok_iff.mp hown).1 _ _ _ hcopy with
        | copy hown => exact ⟨rfl, _, Path.isResolved_of_absolute hcwd hown, rfl⟩
      · cases hcopy
  · cases ho with
    | unstarted => cases hdest
    | started =>
      obtain ⟨succeeded, _, _, _, -, hcopied, -⟩ :=
        Outcome.andThen_eq_ok (Outcome.eq_of_result hdest)
      split at hcopied
      · exact copySupportClass_eq_ok (congrArg Outcome.result hcopied)
      · cases congrArg Outcome.result hcopied
  · cases ho with
    | unstarted => exact ⟨rfl, nofun⟩
    | started _ hjar hown =>
      rcases hempty with hempty | hempty
      · exact absurd hempty (FileTree.ne_empty_of_absolute hjar)
      · exact absurd hempty (FileTree.ne_empty_of_absolute hown)

end Instrument

/-! ## Main statement -/

/-- The paths that children are told are resolved once, from the program's own directory: those of
the download, of the archive and of the compiled classes for every run, and those of the
instrumenter's jar and classes where it is started. What the program does itself with a download, an
archive or the support class, it does at the same paths. -/
theorem Config.paths_resolved_once (config : Config) (project : ProjectId) (raw workspace : String)
    (host : Host) (hcwd : ∀ n ∈ host.cwd, IsName n)
    (hproject : ProjectId.parse? raw = some project) :
    let output := Archive.partialPlace host.cwd config.archiveDir project
    let archive := Archive.place host.cwd config.archiveDir project
    let classes := Instrument.classesPlace host.cwd workspace project
    (Path.IsResolved host.cwd (Path.join config.archiveDir project.partialName) output ∧
      Path.IsResolved host.cwd (Path.join config.archiveDir project.archiveName) archive ∧
      Path.IsResolved host.cwd (Instrument.targetClasses workspace project) classes) ∧
    (∀ policy t, Archive.GoesBy config project output archive
      ((Archive.fetch config project policy).outcome host t)) ∧
    (∀ options t, Checkout.GoesBy config project workspace output archive options
      ((checkout config raw workspace options).outcome host t)) ∧
    ∀ t, Instrument.GoesBy host t config.instrumenter project workspace classes
      ((instrument config raw workspace).outcome host t) :=
  ⟨⟨Archive.isResolved_partialPlace hcwd, Archive.isResolved_place hcwd,
      Instrument.isResolved_classesPlace hcwd⟩,
    fun policy t => Archive.fetch_goesBy policy hcwd t,
    fun options t => Checkout.checkout_goesBy hproject hcwd options t,
    fun t => Instrument.instrument_goesBy hproject hcwd t⟩

/-- A host in `/home/u` whose children succeed and do nothing. -/
def homeHost : Host :=
  { Host.plain (fun _ t => ⟨.ok (.exited 0), t, "", ""⟩) with cwd := ["home", "u"] }

def relativeConfig : Config :=
  { Config.default with
    archiveDir := "./cache//"
    instrumenter :=
      { InstrumenterConfig.default with jar := "lib/./i.jar", classesDir := "../c/" } }

/-- Compiled classes of `Lang_10` in `/home/u/w`. -/
def compiledTree : FileTree :=
  (["home", "u", "w", "Lang_10", "target", "classes"].foldl
    (fun (t, l) n => (t.put l n .directory, l ++ [n])) (FileTree.empty, [])).1

theorem isName_homeHost : ∀ n ∈ homeHost.cwd, IsName n := by decide +kernel

theorem absolute_relative_jar :
    compiledTree.absolute homeHost.cwd relativeConfig.instrumenter.jar =
      .ok "/home/u/lib/i.jar" := by
  decide +kernel

theorem absolute_relative_classesDir :
    compiledTree.absolute homeHost.cwd relativeConfig.instrumenter.classesDir =
      .ok "/home/u/../c/" := by
  decide +kernel

theorem partialPlace_relative :
    Archive.partialPlace homeHost.cwd relativeConfig.archiveDir lang10 =
      "/home/u/cache/Lang-10.tar.gz.part" := by
  decide +kernel

theorem classesPlace_relative :
    Instrument.classesPlace homeHost.cwd "w/../w/" lang10 =
      "/home/u/w/../w/Lang_10/target/classes" := by
  decide +kernel

theorem jobs_of_relative_config :
    ((instrument relativeConfig "Lang_10" "w/../w/").outcome homeHost compiledTree).jobs =
      [⟨"java", ["-cp", "/home/u/lib/i.jar", "kr.ac.unist.apr.InstrumentationMain",
        "/home/u/../c/", "/home/u/w/../w/Lang_10/target/classes"], "w/../w/"⟩] := by
  have hthere : compiledTree.isDirectory homeHost.cwd
      (Instrument.targetClasses "w/../w/" lang10) = true := by decide +kernel
  rw [jobs_instrument parse?_lang10 hthere absolute_relative_jar absolute_relative_classesDir,
    classesPlace_relative]
  decide +kernel

theorem paths_of_relative_config :
    (∀ n ∈ homeHost.cwd, IsName n) ∧ ProjectId.parse? "Lang_10" = some lang10 ∧
    Path.IsResolved homeHost.cwd "./cache//Lang-10.tar.gz" "/home/u/cache/Lang-10.tar.gz" ∧
    (∀ policy t, Archive.GoesBy relativeConfig lang10 "/home/u/cache/Lang-10.tar.gz.part"
      "/home/u/cache/Lang-10.tar.gz"
      ((Archive.fetch relativeConfig lang10 policy).outcome homeHost t)) ∧
    Instrument.GoesBy homeHost compiledTree relativeConfig.instrumenter lang10 "w/../w/"
      "/home/u/w/../w/Lang_10/target/classes"
      ((instrument relativeConfig "Lang_10" "w/../w/").outcome homeHost compiledTree) ∧
    ((instrument relativeConfig "Lang_10" "w/../w/").outcome homeHost compiledTree).jobs ≠ [] := by
  have harchive : Archive.place homeHost.cwd relativeConfig.archiveDir lang10 =
    "/home/u/cache/Lang-10.tar.gz" := by decide +kernel
  have hconfigured : Path.join relativeConfig.archiveDir lang10.archiveName =
    "./cache//Lang-10.tar.gz" := by decide +kernel
  obtain ⟨⟨-, hresolved, -⟩, hfetch, -, hinstrument⟩ := Config.paths_resolved_once relativeConfig
    lang10 "Lang_10" "w/../w/" homeHost isName_homeHost parse?_lang10
  rw [hconfigured, harchive] at hresolved
  rw [partialPlace_relative, harchive] at hfetch
  rw [classesPlace_relative] at hinstrument
  refine ⟨isName_homeHost, parse?_lang10, hresolved, hfetch, hinstrument compiledTree, ?_⟩
  rw [jobs_of_relative_config]
  exact List.cons_ne_nil _ _

/-! ## A path that is too long when it is absolute -/

namespace Instrument

/-- Down and up again, so many times. -/
def detour : Nat → List String
  | 0 => []
  | n + 1 => "w" :: ".." :: detour n

theorem mem_detour {n : Nat} {m : String} (h : m ∈ detour n) : m = "w" ∨ m = ".." := by
  induction n with
  | zero => cases h
  | succ n ih =>
    rw [detour, List.mem_cons, List.mem_cons] at h
    exact h.elim .inl fun h => h.elim .inr ih

theorem extent_detour (n : Nat) : Path.extent (detour n) = 5 * n := by
  induction n with
  | zero => rfl
  | succ n ih =>
    rw [detour, Path.extent, Path.extent, ih, show "w".utf8ByteSize = 1 from rfl,
      show "..".utf8ByteSize = 2 from rfl]
    omega

theorem follow_detour {t : FileTree} {here : Location}
    {onLink : Location → String → List String → Except Fault Place} (n : Nat) (ps : List String)
    (hhere : t.get? here = some .directory) (hw : t.get? (here ++ ["w"]) = some .directory) :
    t.follow onLink here (detour n ++ ps) = t.follow onLink here ps := by
  induction n with
  | zero => rfl
  | succ n ih =>
    rw [detour, List.cons_append, List.cons_append, FileTree.follow, if_neg (by simp [hhere]),
      if_neg (by decide), if_neg (by decide), if_neg (by decide), hw]
    simp only
    rw [FileTree.follow, if_neg (by simp [hw]), if_neg (by decide), if_pos rfl,
      List.dropLast_concat, ih]

/-- A workspace in the working directory, by a path that goes down and up `n` times first. -/
def farWorkspace (n : Nat) : String := Path.ofPieces (detour n ++ ["w"])

/-- The pieces of the path of the compiled classes there. -/
def farPieces (n : Nat) : List String := detour n ++ ["w", "Lang_10", "target", "classes"]

theorem mem_farPieces {n : Nat} {m : String} (h : m ∈ farPieces n) :
    m ∈ ["w", "..", "Lang_10", "target", "classes"] := by
  rcases List.mem_append.mp h with h | h
  · rcases mem_detour h with rfl | rfl <;> decide
  · exact (by decide : ["w", "Lang_10", "target", "classes"] ⊆ _) h

theorem extent_farPieces (n : Nat) : Path.extent (farPieces n) = 5 * n + 25 := by
  rw [farPieces, Path.extent_append, extent_detour]
  rfl

theorem pieces_farWorkspace (n : Nat) : Path.pieces (farWorkspace n) = detour n ++ ["w"] := by
  refine Path.pieces_ofPieces (by simp) fun m hm => ?_
  rcases List.mem_append.mp hm with hm | hm
  · rcases mem_detour hm with rfl | rfl <;> decide
  · rw [List.mem_singleton.mp hm]
    decide

theorem openPieces_farWorkspace (n : Nat) :
    Path.openPieces (farWorkspace n) = detour n ++ ["w"] := by
  rw [Path.openPieces_of_not, pieces_farWorkspace]
  · intro h
    have := congrArg List.getLast? (h ▸ pieces_farWorkspace n)
    simp [Path.pieces_empty] at this
  · refine Bool.eq_false_iff.mpr fun h => ?_
    obtain ⟨b, hb⟩ := Path.endsWithSlash_iff.mp h
    have := congrArg List.getLast? (hb ▸ pieces_farWorkspace n)
    simp [Path.pieces_slash] at this

variable (n : Nat)

theorem pieces_farClasses :
    Path.pieces (targetClasses (farWorkspace n) lang10) = farPieces n := by
  rw [pieces_targetClasses, openPieces_farWorkspace, farPieces, List.append_assoc,
    show lang10.dirName = "Lang_10" by decide +kernel]
  rfl

theorem steps_farClasses :
    Path.steps (targetClasses (farWorkspace n) lang10) = farPieces n := by
  rw [Path.steps, pieces_farClasses, List.filter_eq_self]
  intro m hm
  exact (by decide : ∀ m ∈ ["w", "..", "Lang_10", "target", "classes"], (!Path.isIdle m) = true) m
    (mem_farPieces hm)

theorem start_farClasses :
    homeHost.cwd.start (targetClasses (farWorkspace n) lang10) = homeHost.cwd := by
  rw [Location.start, if_neg]
  intro h
  obtain ⟨m, ns, hp⟩ := Path.startsAtRoot_iff.mp h
  rw [pieces_farClasses] at hp
  exact absurd (mem_farPieces (hp ▸ List.mem_cons_self)) (by decide)

theorem utf8ByteSize_farClasses :
    (targetClasses (farWorkspace n) lang10).utf8ByteSize = 5 * n + 24 := by
  have hsize := Path.extent_pieces (targetClasses (farWorkspace n) lang10)
  rw [pieces_farClasses, extent_farPieces] at hsize
  omega

/-- The absolute path goes through the working directory, so it is longer. -/
theorem le_utf8ByteSize_classesPlace :
    5 * n + 32 ≤ (classesPlace homeHost.cwd (farWorkspace n) lang10).utf8ByteSize := by
  have hresolved : Path.IsResolved homeHost.cwd (targetClasses (farWorkspace n) lang10)
      (classesPlace homeHost.cwd (farWorkspace n) lang10) := isResolved_classesPlace isName_homeHost
  have hle := Path.extent_steps_le hresolved.startsAtRoot_eq
  rw [hresolved.steps_eq, Location.along, start_farClasses, steps_farClasses, Path.extent_append,
    extent_farPieces, show Path.extent homeHost.cwd = 7 from rfl] at hle
  omega

variable {n}

/-- The compiled classes are found, as far as the system takes their path. -/
theorem isDirectory_farClasses (hn : 5 * n + 24 ≤ pathLimit) :
    compiledTree.isDirectory homeHost.cwd (targetClasses (farWorkspace n) lang10) := by
  have hcheck : compiledTree.checkPath homeHost.cwd (targetClasses (farWorkspace n) lang10) =
      .ok () := by
    refine FileTree.checkPath_eq_ok_iff.mpr ⟨Path.join_ne_empty isStep_classes, fun h => ?_, ?_, ?_⟩
    · rcases Path.mem_toList h with h | ⟨m, hm, hz⟩
      · cases h
      rw [pieces_farClasses] at hm
      exact absurd hz ((by decide : ∀ m ∈ ["w", "..", "Lang_10", "target", "classes"],
        '\x00' ∉ m.toList) m (mem_farPieces hm))
    · rwa [utf8ByteSize_farClasses]
    · rw [start_farClasses]
      decide +kernel
  refine FileTree.isDirectory_iff_find.mpr ⟨["home", "u", "w", "Lang_10", "target", "classes"],
    FileTree.find_iff_walk.mpr ⟨hcheck, ?_, by decide +kernel⟩⟩
  rw [start_farClasses, pieces_farClasses, farPieces, linkLimit, FileTree.walk,
    follow_detour _ _ (by decide +kernel) (by decide +kernel)]
  decide +kernel

/-- The compiled classes were found by a path that the system takes, and the absolute path that the
instrumenter is told is too long. -/
theorem far_classes_not_found :
    ¬ ∀ (config : Config) (project : ProjectId) (raw workspace : String) (host : Host)
        (t : FileTree),
      (∀ n ∈ host.cwd, IsName n) → ProjectId.parse? raw = some project →
        ((instrument config raw workspace).outcome host t).jobs ≠ [] →
          t.find host.cwd (classesPlace host.cwd workspace project) =
            t.find host.cwd (targetClasses workspace project) := by
  intro h
  have hthere := isDirectory_farClasses (n := 814) (by decide)
  have hjobs : ((instrument relativeConfig "Lang_10" (farWorkspace 814)).outcome homeHost
      compiledTree).jobs ≠ [] := by
    rw [jobs_instrument parse?_lang10 hthere absolute_relative_jar absolute_relative_classesDir]
    exact List.cons_ne_nil _ _
  obtain ⟨l, hfind⟩ := FileTree.isDirectory_iff_find.mp hthere
  have hfound := (h relativeConfig lang10 "Lang_10" (farWorkspace 814) homeHost compiledTree
    isName_homeHost parse?_lang10 hjobs).trans hfind
  have hsize := (FileTree.checkPath_eq_ok_iff.mp (FileTree.checkPath_of_find hfound)).2.2.1
  have hlong := le_utf8ByteSize_classesPlace 814
  rw [pathLimit] at hsize
  omega

end Instrument

end BenchCheckout
