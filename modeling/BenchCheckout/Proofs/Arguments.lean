import BenchCheckout.Proofs.Project
import BenchCheckout.Proofs.Resolution
import BenchCheckout.Proofs.Template

/-!
# The arguments of children

A tool's variables are filled in one after the other, so a value may be read again for a variable
that comes behind it. It is not where it has no braces, and the last one never is: then all
placeholders are filled in at once.

* `ToolCommand.job_eq_fill`: a job's arguments, for values that are inert.
* `Config.arguments_filled_at_once`: the jobs of checkouts and of instrumenting.
* `Config.placeholder_in_url_filled_again`: a base address with a placeholder in it.
-/

namespace BenchCheckout

/-- No brace in a text. -/
def IsBraceless (s : String) : Prop := '{' ∉ s.toList ∧ '}' ∉ s.toList

instance (s : String) : Decidable (IsBraceless s) := inferInstanceAs (Decidable (_ ∧ _))

theorem isBraceless_append {s t : String} :
    IsBraceless (s ++ t) ↔ IsBraceless s ∧ IsBraceless t := by
  simp only [IsBraceless, String.toList_append, List.mem_append, not_or]
  exact and_and_and_comm

/-! ## Values -/

namespace ProjectId

theorem isBraceless_of_isAlphanum {s : String} (h : ∀ c ∈ s.toList, c.isAlphanum) :
    IsBraceless s :=
  ⟨fun hb => ne_of_isAlphanum (h _ hb) (by decide) rfl,
    fun hb => ne_of_isAlphanum (h _ hb) (by decide) rfl⟩

theorem isAlphanum_toLower {c : Char} (h : c.isAlphanum) : c.toLower.isAlphanum := by
  unfold Char.toLower
  split
  case isTrue hu =>
    -- A capital letter moves by 32, to a small one.
    refine isAlphanum_iff.mpr (.inr (.inl ?_))
    simp only [Char.le_def, UInt32.le_iff_toNat_le, UInt32.toNat_add, ge_iff_le,
      UInt32.reduceSub, UInt32.reduceToNat, Char.reduceVal] at hu ⊢
    omega
  case isFalse => exact h

theorem isBraceless_toLower {s : String} (h : ∀ c ∈ s.toList, c.isAlphanum) :
    IsBraceless (String.ofList (s.toList.map Char.toLower)) := by
  refine isBraceless_of_isAlphanum fun d hd => ?_
  rw [String.toList_ofList] at hd
  obtain ⟨c, hc, rfl⟩ := List.mem_map.mp hd
  exact isAlphanum_toLower (h c hc)

theorem isBraceless_trimSlashes {s : String} (h : IsBraceless s) : IsBraceless (trimSlashes s) := by
  have hmem {c : Char} (hc : c ∈ (trimSlashes s).toList) : c ∈ s.toList := by
    rw [trimSlashes, String.toList_ofList, List.mem_reverse] at hc
    exact List.mem_reverse.mp ((List.dropWhile_sublist _).subset hc)
  exact ⟨fun hb => h.1 (hmem hb), fun hb => h.2 (hmem hb)⟩

/-- An address without braces in its base has none at all, and slashes. -/
theorem isInert_archiveUrl {p : ProjectId} {baseUrl : String} (h : IsBraceless baseUrl) :
    Template.IsInert (p.archiveUrl baseUrl) := by
  have hname : IsBraceless p.archiveName := by
    simp only [archiveName, isBraceless_append]
    exact ⟨⟨⟨isBraceless_of_isAlphanum p.isSubject.2, by decide⟩,
      isBraceless_of_isAlphanum fun _ => isAlphanum_of_mem_bugId⟩, by decide⟩
  have hall : IsBraceless (p.archiveUrl baseUrl) := by
    simp only [archiveUrl, isBraceless_append]
    exact ⟨⟨⟨⟨isBraceless_trimSlashes h, by decide⟩, isBraceless_toLower p.isSubject.2⟩,
      by decide⟩, hname⟩
  exact ⟨hall.1, hall.2, by simp [archiveUrl]⟩

end ProjectId

/-- A resolved path without braces has slashes. -/
theorem Path.IsResolved.isInert {cwd : Location} {p q : String} (hq : Path.IsResolved cwd p q)
    (h : IsBraceless q) : Template.IsInert q := by
  refine ⟨h.1, h.2, List.mem_of_mem_head? ?_⟩
  have hs := hq.startsAtRoot_eq
  rw [Path.startsAtRoot, beq_iff_eq] at hs
  exact hs

/-! ## Jobs -/

/-- Where no value but the last can be read again, all placeholders are filled in at once. -/
theorem ToolCommand.job_eq_fill {bindings : List Template.Binding}
    (hn : ∀ b ∈ bindings, Template.IsPlain b.1) (hv : ∀ b ∈ bindings.dropLast, Template.IsInert b.2)
    (tool : ToolCommand) (cwd : String) :
    tool.job bindings cwd = ⟨tool.program, tool.args.map (Template.fill bindings), cwd⟩ := by
  rw [job, expandArgs]
  congr 1
  exact List.map_congr_left fun template _ => Template.expand_eq_fill hn hv template

/-- Without variables a template stands as it is. -/
theorem ToolCommand.job_nil (tool : ToolCommand) (cwd : String) :
    tool.job [] cwd = ⟨tool.program, tool.args, cwd⟩ := by
  rw [job, expandArgs]
  congr 1
  exact List.map_id'' Template.expand_nil tool.args

theorem Archive.downloadJob_eq_fill {config : Config} (hurl : IsBraceless config.archiveBaseUrl)
    (project : ProjectId) (cwd : Location) :
    downloadJob config project cwd =
      ⟨config.downloader.program,
        config.downloader.args.map (Template.fill
          [("url", project.archiveUrl config.archiveBaseUrl),
            ("output", partialPlace cwd config.archiveDir project)]),
        dir cwd config.archiveDir⟩ := by
  refine ToolCommand.job_eq_fill (by simp only [List.forall_mem_cons]; decide) ?_ _ _
  intro b hb
  rw [List.mem_singleton.mp hb]
  exact ProjectId.isInert_archiveUrl hurl

/-- The archive's path is the extractor's only variable. -/
theorem Archive.extractJob_eq_fill (config : Config) (archive staging : String) :
    extractJob config archive staging =
      ⟨config.extractor.program,
        config.extractor.args.map (Template.fill [("archive", archive)]), staging⟩ :=
  ToolCommand.job_eq_fill (by simp only [List.forall_mem_cons]; decide) (by simp) _ _

theorem Instrument.instrumentJob_eq_fill {config : InstrumenterConfig}
    {workspace jar ownClasses : String} (hjar : Template.IsInert jar)
    (hown : Template.IsInert ownClasses) (classes : String) :
    instrumentJob config workspace jar ownClasses classes =
      ⟨config.command.program,
        config.command.args.map (Template.fill
          [("jar", jar), ("instrumenter_classes", ownClasses), ("target_classes", classes)]),
        workspace⟩ := by
  refine ToolCommand.job_eq_fill (by simp only [List.forall_mem_cons]; decide) ?_ _ _
  simp [hjar, hown]

/-! ## Main statement -/

/-- Children get the arguments of their templates with all placeholders filled in at once, if there
are no braces in the base address and in the resolved paths of the instrumenter's jar and classes.
For the extractor and the build nothing is asked, and nothing of the other values: the last of a
tool's variables may hold anything. -/
theorem Config.arguments_filled_at_once (config : Config) (project : ProjectId)
    (raw workspace : String) (host : Host) (hcwd : ∀ n ∈ host.cwd, IsName n)
    (hproject : ProjectId.parse? raw = some project) :
    let url := project.archiveUrl config.archiveBaseUrl
    let output := Archive.partialPlace host.cwd config.archiveDir project
    let archive := Archive.place host.cwd config.archiveDir project
    let download : Job :=
      ⟨config.downloader.program,
        config.downloader.args.map (Template.fill [("url", url), ("output", output)]),
        Archive.dir host.cwd config.archiveDir⟩
    (IsBraceless config.archiveBaseUrl → ∀ policy t,
      ∀ job ∈ ((Archive.fetch config project policy).outcome host t).jobs, job = download) ∧
    (∀ options t, ∀ job ∈ ((checkout config raw workspace options).outcome host t).jobs,
      job = Archive.downloadJob config project host.cwd ∧
          (IsBraceless config.archiveBaseUrl → job = download) ∨
        job = ⟨config.extractor.program,
          config.extractor.args.map (Template.fill [("archive", archive)]),
          Checkout.staging workspace project⟩ ∨
        job = ⟨config.build.command.program, config.build.command.args,
          Checkout.place workspace project⟩) ∧
    ∀ t, ∀ job ∈ ((instrument config raw workspace).outcome host t).jobs, ∃ jar ownClasses,
      Path.absolute host.cwd.text config.instrumenter.jar = .ok jar ∧
      Path.absolute host.cwd.text config.instrumenter.classesDir = .ok ownClasses ∧
      (IsBraceless jar → IsBraceless ownClasses →
        job = ⟨config.instrumenter.command.program,
          config.instrumenter.command.args.map (Template.fill
            [("jar", jar), ("instrumenter_classes", ownClasses),
              ("target_classes", Instrument.classesPlace host.cwd workspace project)]),
          workspace⟩) := by
  intro url output archive download
  have hdownload (h : IsBraceless config.archiveBaseUrl) :
      Archive.downloadJob config project host.cwd = download :=
    Archive.downloadJob_eq_fill h project host.cwd
  refine ⟨fun hurl policy t => ?_, fun options t job hj => ?_, fun t job hj => ?_⟩
  · have hstarts : ((Archive.fetch config project policy).outcome host t).Starts
        (· = Archive.downloadJob config project host.cwd) :=
      Archive.fetch_starts policy hcwd (by rfl) t
    rw [← hdownload hurl]
    exact hstarts
  · cases Checkout.checkout_starts hproject hcwd options t job hj with
    | download => exact .inl ⟨rfl, hdownload⟩
    | unpack => exact .inr (.inl (Archive.extractJob_eq_fill _ _ _))
    | build => exact .inr (.inr (ToolCommand.job_nil _ _))
  · obtain ⟨-, hjar, hown⟩ := instrument_starts hproject config workspace host t job hj
    obtain ⟨hjar, -⟩ := FileTree.absolute_eq_ok_iff.mp hjar
    obtain ⟨hown, -⟩ := FileTree.absolute_eq_ok_iff.mp hown
    refine ⟨_, _, hjar, hown, fun hj ho => ?_⟩
    exact Instrument.instrumentJob_eq_fill ((Path.isResolved_of_absolute hcwd hjar).isInert hj)
      ((Path.isResolved_of_absolute hcwd hown).isInert ho) _

theorem arguments_of_relative_config :
    (∀ n ∈ homeHost.cwd, IsName n) ∧ ProjectId.parse? "Lang_10" = some lang10 ∧
    (∀ policy t, ∀ job ∈ ((Archive.fetch relativeConfig lang10 policy).outcome homeHost t).jobs,
      job = ⟨"wget", ["-q", "-O", "/home/u/cache/Lang-10.tar.gz.part",
        "https://github.com/ali-ghanbari/d4j-lang/raw/master/Lang-10.tar.gz"], "/home/u/cache"⟩) ∧
    ((instrument relativeConfig "Lang_10" "w/../w/").outcome homeHost compiledTree).jobs =
      [⟨"java", relativeConfig.instrumenter.command.args.map (Template.fill
        [("jar", "/home/u/lib/i.jar"), ("instrumenter_classes", "/home/u/../c/"),
          ("target_classes", "/home/u/w/../w/Lang_10/target/classes")]), "w/../w/"⟩] := by
  obtain ⟨hfetch, -, hinstrument⟩ := Config.arguments_filled_at_once relativeConfig lang10 "Lang_10"
    "w/../w/" homeHost isName_homeHost parse?_lang10
  refine ⟨isName_homeHost, parse?_lang10, fun policy t job hj => ?_, ?_⟩
  · have hurl : lang10.archiveUrl relativeConfig.archiveBaseUrl =
      "https://github.com/ali-ghanbari/d4j-lang/raw/master/Lang-10.tar.gz" := by decide +kernel
    have hdir : Archive.dir homeHost.cwd relativeConfig.archiveDir = "/home/u/cache" := by
      decide +kernel
    rw [hfetch (by decide) policy t job hj, hurl, partialPlace_relative, hdir]
    decide +kernel
  · have hstarted := jobs_of_relative_config
    obtain ⟨jar, ownClasses, hjar, hown, hjob⟩ :=
      hinstrument compiledTree _ (hstarted ▸ List.mem_singleton_self _)
    obtain rfl := Except.ok.inj
      ((FileTree.absolute_eq_ok_iff.mp absolute_relative_jar).1.symm.trans hjar)
    obtain rfl := Except.ok.inj
      ((FileTree.absolute_eq_ok_iff.mp absolute_relative_classesDir).1.symm.trans hown)
    rw [hstarted, hjob (by decide) (by decide), classesPlace_relative]
    rfl

/-- A base address that is a placeholder of the downloader's other variable. -/
def bracedConfig : Config :=
  { Config.default with
    archiveBaseUrl := "\x7boutput\x7d", downloader := ⟨"sh", ["\x7burl\x7d"]⟩ }

/-- What came from the base address is filled in again. -/
theorem Config.placeholder_in_url_filled_again :
    (Archive.downloadJob bracedConfig lang10 []).args =
        ["/Lang-10.tar.gz.part/d4j-lang/raw/master/Lang-10.tar.gz"] ∧
      bracedConfig.downloader.args.map (Template.fill
          [("url", lang10.archiveUrl bracedConfig.archiveBaseUrl),
            ("output", Archive.partialPlace [] bracedConfig.archiveDir lang10)]) =
        ["\x7boutput\x7d/d4j-lang/raw/master/Lang-10.tar.gz"] := by
  decide +kernel

end BenchCheckout
