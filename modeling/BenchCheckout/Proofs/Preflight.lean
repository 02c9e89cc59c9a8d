import BenchCheckout.Preflight
import BenchCheckout.Proofs.Instrument.Sources
import BenchCheckout.Proofs.Search

/-!
# What the check of the prerequisites is worth

`preflight` looks for everything from the program's own directory. The jobs are started in other
directories, and instrumenting goes by absolute paths. So what is found is what is used, but only as
far as the working directory plays no part in a program's path.

* `Preflight.outcome_doctor`: the check fails exactly if something is missing, and touches nothing.
* `Preflight.mem_programs_of_isJob`: the programs that are looked for are those that are started.
* `Preflight.approved`: what holds of a config for which nothing is missing.
* `Preflight.approved_unused`: a program that is found, and is not there where it is started.
-/

namespace BenchCheckout

open BenchCheckout.Action FileTree

/-! ## What is found -/

namespace Preflight

variable {config : Config} {host : Host} {t : FileTree} {searchPath : String}

theorem outcome_preflight (config : Config) (host : Host) (t : FileTree) :
    (preflight config).outcome host t =
      .value (findings config t host.cwd (host.env "PATH")) t := rfl

instance (config : Config) : Memoryless (preflight config) :=
  ⟨fun _ w => ⟨rfl, rfl, (List.append_nil w.history).symm⟩⟩

instance (style : Console.Style) (text : String) : Memoryless (printPainted style text) :=
  inferInstanceAs (Memoryless (_ >>= _))

instance (text : String) : Memoryless (printTitle text) :=
  inferInstanceAs (Memoryless (_ >>= _))

instance (config : Config) : Memoryless (printSources config) :=
  inferInstanceAs (Memoryless (_ >>= _))

instance (config : Config) : Memoryless (printHead config) :=
  inferInstanceAs (Memoryless (_ >>= _))

theorem outcome_printHead (config : Config) (host : Host) (t : FileTree) :
    (printHead config).outcome host t = .value () t := by
  unfold printHead printSources printTitle printPainted
  simp only [outcome_bind, outcome_painted, outcome_printLine, Outcome.value_andThen]

instance (f : Finding) : Memoryless (printFinding f) := by
  unfold printFinding
  infer_instance

theorem outcome_printFinding (f : Finding) (host : Host) (t : FileTree) :
    (printFinding f).outcome host t = .value () t := by
  unfold printFinding
  cases f.ok <;>
    simp only [Bool.false_eq_true, if_true, if_false, outcome_bind, outcome_painted,
      Outcome.value_andThen, outcome_printLine]

theorem printFindings_spec (fs : List Finding) :
    Memoryless (printFindings fs) ∧
      ∀ host t, (printFindings fs).outcome host t = .value () t := by
  induction fs with
  | nil => exact ⟨inferInstanceAs (Memoryless (pure ())), fun _ _ => rfl⟩
  | cons f fs ih =>
    obtain ⟨hmemoryless, houtcome⟩ := ih
    refine ⟨.bind inferInstance fun _ => hmemoryless, fun host t => ?_⟩
    rw [printFindings, outcome_bind, outcome_printFinding, Outcome.value_andThen, houtcome]

instance (fs : List Finding) : Memoryless (printFindings fs) := (printFindings_spec fs).1

instance (config : Config) : Memoryless (doctor config) := by
  unfold doctor
  dsimp only
  infer_instance

theorem missing_eq_zero_iff {fs : List Finding} : missing fs = 0 ↔ ∀ f ∈ fs, f.ok := by
  simp [missing]

/-- The check ends with what is missing, if anything is, and touches nothing. -/
theorem outcome_doctor (config : Config) (host : Host) (t : FileTree) :
    (doctor config).outcome host t =
      let fs := findings config t host.cwd (host.env "PATH")
      ⟨if ∀ f ∈ fs, f.ok then .ok ()
        else .error (.ofCause (.missingPrerequisites (missing fs))), t, []⟩ := by
  unfold doctor
  simp only [outcome_bind, outcome_printHead, outcome_printLine, Outcome.value_andThen,
    outcome_preflight, (printFindings_spec _).2]
  by_cases h : ∀ f ∈ findings config t host.cwd (host.env "PATH"), f.ok
  · rw [if_pos h, if_pos (missing_eq_zero_iff.mpr h)]
    rfl
  · rw [if_neg h, if_neg (missing_eq_zero_iff.not.mpr h)]
    rfl

/-- A job that a checkout or instrumenting starts, whatever the files are by then. -/
def IsJob (config : Config) (host : Host) (job : Job) : Prop :=
  ∃ raw workspace u,
    (∃ options, job ∈ ((checkout config raw workspace options).outcome host u).jobs) ∨
      job ∈ ((instrument config raw workspace).outcome host u).jobs

/-- The programs that are looked for are those that the pipeline starts. -/
theorem mem_programs_of_isJob (hcwd : ∀ n ∈ host.cwd, IsName n) {job : Job}
    (h : IsJob config host job) : ∃ label, (label, job.program) ∈ programs config := by
  obtain ⟨raw, workspace, u, ⟨options, h⟩ | h⟩ := h
  · cases hproject : ProjectId.parse? raw with
    | none =>
      rw [outcome_checkout, hproject] at h
      cases h
    | some project =>
      cases Checkout.checkout_starts hproject hcwd options u _ h with
      | download => exact ⟨"downloader", .head _⟩
      | unpack => exact ⟨"extractor", .tail _ (.head _)⟩
      | build => exact ⟨"build", .tail _ (.tail _ (.head _))⟩
  · cases hproject : ProjectId.parse? raw with
    | none =>
      rw [outcome_instrument, hproject] at h
      cases h
    | some project =>
      cases instrument_starts hproject config workspace host u _ h with
      | mk => exact ⟨"instrumenter", .tail _ (.tail _ (.tail _ (.head _)))⟩

section Approved

variable (hok : ∀ f ∈ findings config t host.cwd (some searchPath), f.ok)
include hok

/-- With nothing missing, each program is found, and its finding tells where. -/
theorem exists_found {label program : String} (h : (label, program) ∈ programs config) :
    ∃ found, ⟨label, found, true⟩ ∈ findings config t host.cwd (some searchPath) ∧
      findProgram t host.cwd (some searchPath) program = some found := by
  have hmem : programFinding t host.cwd (some searchPath) label program ∈
      findings config t host.cwd (some searchPath) :=
    List.mem_append_left _ (List.mem_map.mpr ⟨(label, program), h, rfl⟩)
  have hfound := hok _ hmem
  unfold programFinding at hmem hfound
  cases hp : findProgram t host.cwd (some searchPath) program with
  | none => rw [hp] at hfound; cases hfound
  | some found => rw [hp] at hmem; exact ⟨found, hmem, rfl⟩

/-- With nothing missing, each file is there. -/
theorem isFile_of_required {label path : String} (h : (label, path) ∈ requiredFiles config) :
    t.isFile host.cwd path :=
  hok (fileFinding t host.cwd label path)
    (List.mem_append_right _ (List.mem_map.mpr ⟨(label, path), h, rfl⟩))

end Approved

/-- **What the check approves can be used where the working directory plays no part.** With nothing
missing, each job of the pipeline is started from the file that was found for its program, if it
runs in the program's own directory or the program was found by paths from the root. Instrumenting
is told paths that lead from everywhere to the jar and the support class that were looked at, and
copies the latter; but if the path of the instrumenter's classes is empty, or it is relative and the
working directory is gone, it starts nothing. -/
theorem approved (config : Config) (host : Host) (t : FileTree) (searchPath : String)
    {fs : List Finding} (hcwd : ∀ n ∈ host.cwd, IsName n)
    (hpath : host.env "PATH" = some searchPath) (ht : t.AllExecutable)
    (hfs : ((preflight config).outcome host t).result = .ok fs) (hok : ∀ f ∈ fs, f.ok) :
    (∀ job, IsJob config host job → ∃ label found l,
      (label, job.program) ∈ programs config ∧ ⟨label, found, true⟩ ∈ fs ∧
      t.fileAt host.cwd found = some l ∧
      ∀ dir, t.find host.cwd job.cwd = .ok (dir, .directory) →
        dir = host.cwd ∨ IsFixed searchPath job.program found →
        job.file t host.cwd searchPath = some l) ∧
    ∀ raw workspace project, ProjectId.parse? raw = some project →
      t.isDirectory host.cwd (Instrument.targetClasses workspace project) →
      let o := (instrument config raw workspace).outcome host t
      if config.instrumenter.classesDir = "" ∨
          ¬ t.hasStart host.cwd config.instrumenter.classesDir then
        o.jobs = [] ∧ ¬ o.result.isOk
      else ∃ s : Instrument.Setup config.instrumenter raw workspace host t,
        s.run.outcome = .ok (.exited 0) → s.run.files = t → s.Uses o := by
  rw [outcome_preflight, hpath] at hfs
  obtain rfl := Except.ok.inj hfs
  constructor
  · intro job hjob
    obtain ⟨label, hlabel⟩ := mem_programs_of_isJob hcwd hjob
    obtain ⟨found, hmem, hfound⟩ := exists_found hok hlabel
    obtain ⟨l, hl, -⟩ := programFile_of_found ht hfound (.inl rfl)
    exact ⟨label, found, l, hlabel, hmem, hl, fun dir hdir hfixed =>
      (Job.file_of_found ht hfound hdir hfixed).trans hl⟩
  · intro raw workspace project hproject hthere o
    split
    · rename_i hempty
      rcases (Instrument.ending config raw workspace host t).jobs_cases with ⟨-, f, ho⟩ | ⟨s, -⟩
      · rw [show o = .failure f t from ho]
        exact ⟨rfl, nofun⟩
      · obtain ⟨⟨-, -, hown⟩, -, hstart⟩ := Instrument.Setup.nonempty_iff.mp ⟨s⟩
        exact absurd hempty (not_or.mpr ⟨hown, not_not.mpr hstart⟩)
    · rename_i hown
      rw [not_or, not_not] at hown
      have hjar : t.isFile host.cwd config.instrumenter.jar := isFile_of_required hok (.head _)
      have hsource := isFile_of_required hok (.tail _ (.head _))
      have hnonempty : config.instrumenter.jar ≠ "" := by
        intro h
        rw [h] at hjar
        cases hjar
      obtain ⟨s⟩ := Instrument.Setup.nonempty_iff.mpr
        ⟨⟨⟨project, hproject, hthere⟩, hnonempty, hown.1⟩, hasStart_of_isFile hjar, hown.2⟩
      exact ⟨s, fun hexits hleaves => s.uses config hcwd hexits hleaves hjar hsource⟩

/-! ## Two configs -/

/-- A host in `/home/u` that looks for programs in `/bin`. -/
def searchingHost : Host :=
  { homeHost with env := fun name => if name = "PATH" then some "/bin" else none }

/-- A file that can be started. -/
def tool : Entry := .file .empty true none

/-- Compiled classes of `Lang_10` in `/home/u/w`, and the files that the two configs name. -/
def toolTree : FileTree :=
  (((((((compiledTree.put [] "bin" .directory).put ["bin"] "sh" tool).put ["home", "u"] "archives"
    .directory).put ["home", "u"] "tools" .directory).put ["home", "u", "tools"] "dl" tool).put
      ["home", "u"] "lib" .directory).put ["home", "u", "lib"] "i.jar" tool).put
        ["home", "u", "lib"] "S.class" tool

/-- A downloader of its own, and a shell for all else. -/
def toolConfig (downloader : String) : Config where
  archiveBaseUrl := Config.default.archiveBaseUrl
  archiveDir := "archives"
  downloader := ⟨downloader, []⟩
  extractor := ⟨"sh", []⟩
  build := { BuildConfig.default with command := ⟨"sh", []⟩ }
  exclusions := []
  instrumenter := ⟨⟨"sh", []⟩, "lib/i.jar", "lib", "S.class"⟩

theorem allExecutable_toolTree : toolTree.AllExecutable := by
  have hdirectory : ∀ bytes x n, Entry.directory = .file bytes x n → x = true := nofun
  have htool : ∀ bytes x n, tool = .file bytes x n → x = true := by
    rintro _ _ _ ⟨⟩
    rfl
  have hcompiled : compiledTree.AllExecutable :=
    (((((allExecutable_empty.put hdirectory).put hdirectory).put hdirectory).put hdirectory).put
      hdirectory).put hdirectory
  exact (((((((hcompiled.put hdirectory).put htool).put hdirectory).put hdirectory).put htool).put
    hdirectory).put htool).put htool

theorem symlinkFree_toolTree : toolTree.SymlinkFree := by
  have hdirectory : ∀ target, Entry.directory ≠ .link target := nofun
  have htool : ∀ target, tool ≠ .link target := nofun
  have hcompiled : compiledTree.SymlinkFree :=
    (((((symlinkFree_empty.put hdirectory).put hdirectory).put hdirectory).put hdirectory).put
      hdirectory).put hdirectory
  exact (((((((hcompiled.put hdirectory).put htool).put hdirectory).put hdirectory).put htool).put
    hdirectory).put htool).put htool

theorem findings_tools (downloader : String)
    (h : downloader = "tools/dl" ∨ downloader = "/home/u/tools/dl") :
    findings (toolConfig downloader) toolTree searchingHost.cwd (some "/bin") =
      [⟨"downloader", downloader, true⟩, ⟨"extractor", "/bin/sh", true⟩, ⟨"build", "/bin/sh", true⟩,
        ⟨"instrumenter", "/bin/sh", true⟩, ⟨"instrumenter jar", "lib/i.jar", true⟩,
        ⟨"support class", "lib/S.class", true⟩] := by
  rcases h with rfl | rfl <;> decide +kernel

theorem approved_ok {downloader : String}
    (h : downloader = "tools/dl" ∨ downloader = "/home/u/tools/dl") :
    ∀ f ∈ findings (toolConfig downloader) toolTree searchingHost.cwd (some "/bin"), f.ok := by
  rw [findings_tools downloader h]
  simp

/-- With a downloader whose path starts at the root, all that was found is used. -/
theorem approved_rooted :
    let config := toolConfig "/home/u/tools/dl"
    let download := Archive.downloadJob config lang10 searchingHost.cwd
    let o := (instrument config "Lang_10" "w").outcome searchingHost toolTree
    download.file toolTree searchingHost.cwd "/bin" = some ["home", "u", "tools", "dl"] ∧
      ∃ s : Instrument.Setup config.instrumenter "Lang_10" "w" searchingHost toolTree,
        s.Uses o ∧ Path.IsUsable s.jar ∧ Path.IsUsable s.source := by
  intro config download o
  have hfindings : ((preflight config).outcome searchingHost toolTree).result =
      .ok (findings config toolTree searchingHost.cwd (some "/bin")) := rfl
  obtain ⟨hjobs, hinstrument⟩ := approved config searchingHost toolTree "/bin" isName_homeHost rfl
    allExecutable_toolTree hfindings (approved_ok (.inr rfl))
  constructor
  · have hjob : download ∈ ((checkout config "Lang_10" "." ⟨false, .cached⟩).outcome searchingHost
        toolTree).jobs := by decide +kernel
    have hdir : toolTree.find searchingHost.cwd download.cwd =
        .ok (["home", "u", "archives"], .directory) := by decide +kernel
    obtain ⟨label, found, l, hlabel, hfound, hl, hstarted⟩ :=
      hjobs download ⟨_, _, _, .inl ⟨_, hjob⟩⟩
    obtain rfl : label = "downloader" := by
      rw [show download.program = "/home/u/tools/dl" from rfl] at hlabel
      simpa [programs, config, toolConfig] using hlabel
    obtain rfl : found = "/home/u/tools/dl" := by
      rw [findings_tools _ (.inr rfl)] at hfound
      simpa using hfound
    rw [hstarted _ hdir (.inr (.rooted (by decide +kernel))), ← hl]
    decide +kernel
  · have hrun := hinstrument "Lang_10" "w" lang10 parse?_lang10 (by decide +kernel)
    rw [if_neg (by decide +kernel)] at hrun
    obtain ⟨s, hs⟩ := hrun
    have hjar : toolTree.absolute searchingHost.cwd "lib/i.jar" = .ok "/home/u/lib/i.jar" := by
      decide +kernel
    have hown : toolTree.absolute searchingHost.cwd "lib" = .ok "/home/u/lib" := by decide +kernel
    refine ⟨s, hs rfl rfl, ?_, ?_⟩
    · rw [Except.ok.inj (s.jar_eq.symm.trans hjar)]
      decide +kernel
    · rw [Instrument.Setup.source, Except.ok.inj (s.own_eq.symm.trans hown)]
      decide +kernel

/-- The check approves a relative path of a downloader, and the downloader is not there where it is
started. -/
theorem approved_unused :
    let config := toolConfig "tools/dl"
    let download := Archive.downloadJob config lang10 searchingHost.cwd
    toolTree.SymlinkFree ∧ toolTree.AllExecutable ∧ searchingHost.env "PATH" = some "/bin" ∧
    ((preflight config).outcome searchingHost toolTree).result = .ok
      (findings config toolTree searchingHost.cwd (some "/bin")) ∧
    (∀ f ∈ findings config toolTree searchingHost.cwd (some "/bin"), f.ok) ∧
    toolTree.fileAt searchingHost.cwd download.program = some ["home", "u", "tools", "dl"] ∧
    toolTree.find searchingHost.cwd download.cwd = .ok (["home", "u", "archives"], .directory) ∧
    download.file toolTree searchingHost.cwd "/bin" = none :=
  ⟨symlinkFree_toolTree, allExecutable_toolTree, rfl, rfl, approved_ok (.inl rfl),
    by decide +kernel⟩

end Preflight

end BenchCheckout
