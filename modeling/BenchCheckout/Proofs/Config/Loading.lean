import BenchCheckout.Proofs.Config.Files
import BenchCheckout.Proofs.Files.Landing

/-!
# The two ways of loading a config

A config is found in the working directory or in a file that is named. On one file both ways come to
the same (`LoadsAlike`). What a load comes to in an environment is settled by one config that the
environment has no part in (`Found`), and by the four variables (`SetBy`). Writing the defaults
before it makes no difference (`Inits`).

Links may be anywhere in the trees.
-/

namespace BenchCheckout.Config

open FileTree

/-- The path of the working directory's config file. -/
def ownPath : String := Path.join "." fileName

/-! ## One file, two ways -/

/-- What a load of the working directory's config file comes to, and a load of a file that is named
`p`: one config, or one fault under two descriptions of what was being done. -/
inductive LoadsAlike (p : String) (t : FileTree) : Outcome Config → Outcome Config → Prop where
  | loaded (c : Config) : LoadsAlike p t (.value c t) (.value c t)
  | unread (fault : Fault) :
    LoadsAlike p t (.failure (.during (.reading ownPath) (.file fault)) t)
      (.failure (.during (.readingConfigFile p) (.file fault)) t)
  | unparsed (fault : Json.Fault) :
    LoadsAlike p t (.failure (.during (.parsing ownPath) (.json fault)) t)
      (.failure (.during (.parsingConfigFile p) (.json fault)) t)

variable {host host' : Host} {cwd cwd' : Location} {t u : FileTree} {p : String} {c : Config}

theorem outcome_parsed (activity : Activity) (r : Except Json.Fault Config) (host : Host)
    (t : FileTree) :
    (parsed activity r).outcome host t =
      ⟨r.mapError fun fault => .during activity (.json fault), t, []⟩ := by
  cases r <;> rfl

instance (activity : Activity) (r : Except Json.Fault Config) : Action.Quiet (parsed activity r) := by
  cases r
  · exact inferInstanceAs (Action.Quiet (Action.fail _))
  · exact inferInstanceAs (Action.Quiet (pure _))

instance (config : Config) : Action.Quiet (overridden config) := ⟨fun _ _ => rfl⟩

instance (dir : String) : Action.Memoryless (loadFromDir dir) := by
  unfold loadFromDir
  infer_instance

instance (dir : String) : Action.Quiet (loadFromDir dir) := by
  unfold loadFromDir
  infer_instance

instance (chosen : Option String) : Action.Memoryless (loadChosen chosen) := by
  cases chosen with
  | some path => exact inferInstanceAs (Action.Memoryless (_ >>= _))
  | none => exact inferInstanceAs (Action.Memoryless (loadFromDir "." >>= _))

instance (chosen : Option String) : Action.Quiet (loadChosen chosen) := by
  cases chosen with
  | some path => exact inferInstanceAs (Action.Quiet (_ >>= _))
  | none => exact inferInstanceAs (Action.Quiet (loadFromDir "." >>= _))

/-- What the text of a config file comes to. -/
def outcomeOfText (reading parsing : Activity) (env : String → Option String) (t : FileTree) :
    Except Fault String → Outcome Config
  | .error fault => .failure (.during reading (.file fault)) t
  | .ok text =>
    match parse text with
    | .error fault => .failure (.during parsing (.json fault)) t
    | .ok c => .value (c.applyEnv env) t

theorem outcome_loadFile_eq (host : Host) (t : FileTree) (p : String) :
    (loadFile p).outcome host t =
      outcomeOfText (.readingConfigFile p) (.parsingConfigFile p) host.env t
        (t.readText host.cwd p) := by
  unfold loadFile outcomeOfText
  rw [Action.outcome_bind, Action.outcome_look, Outcome.value_andThen, Action.outcome_bind,
    Action.outcome_orFail]
  cases t.readText host.cwd p with
  | error fault => rfl
  | ok text =>
    simp only [Except.mapError, Outcome.ok_andThen, Action.outcome_bind, outcome_parsed]
    cases parse text <;> rfl

theorem outcome_load_eq (host : Host) (t : FileTree) :
    load.outcome host t =
      if t.exists? host.cwd ownPath then
        outcomeOfText (.reading ownPath) (.parsing ownPath) host.env t
          (t.readText host.cwd ownPath)
      else .value (default.applyEnv host.env) t := by
  unfold load loadFromDir outcomeOfText
  rw [Action.outcome_bind, Action.outcome_bind, Action.outcome_exists?, Outcome.value_andThen,
    ← ownPath]
  split
  · rw [Action.outcome_bind, Action.outcome_look, Outcome.value_andThen, Action.outcome_bind,
      Action.outcome_orFail]
    cases t.readText host.cwd ownPath with
    | error fault => rfl
    | ok text =>
      simp only [Except.mapError, Outcome.ok_andThen, outcome_parsed]
      cases parse text <;> rfl
  · rfl

/-- From `cwd'` the path `p` leads to the config file of `cwd`. -/
def LeadsToOwn (cwd cwd' : Location) (t : FileTree) (p : String) : Prop :=
  ∀ found, t.find cwd' p = .ok found ↔ t.find cwd ownPath = .ok found

theorem readText_of_leadsToOwn (hp : LeadsToOwn cwd cwd' t p) (h : t.exists? cwd ownPath) :
    t.readText cwd' p = t.readText cwd ownPath := by
  obtain ⟨l, e, hf⟩ := exists?_iff_find.mp h
  rw [readText, readText, FileTree.read, FileTree.read, hf, (hp _).mpr hf]

theorem loadsAlike (henv : host'.env = host.env) (hp : LeadsToOwn host.cwd host'.cwd t p)
    (h : t.exists? host.cwd ownPath) :
    LoadsAlike p t (load.outcome host t) ((loadFile p).outcome host' t) := by
  rw [outcome_load_eq, if_pos h, outcome_loadFile_eq, readText_of_leadsToOwn hp h, henv]
  unfold outcomeOfText
  cases t.readText host.cwd ownPath with
  | error fault => exact .unread fault
  | ok text =>
    simp only
    cases parse text with
    | error fault => exact .unparsed fault
    | ok c => exact .loaded _

/-- A file that is missing cannot be loaded by its name. -/
theorem outcome_loadFile_of_missing (hp : LeadsToOwn cwd host'.cwd t p)
    (h : t.exists? cwd ownPath = false) :
    ∃ fault, (loadFile p).outcome host' t =
      .failure (.during (.readingConfigFile p) (.file fault)) t := by
  obtain ⟨fault, hf⟩ : ∃ fault, t.find host'.cwd p = .error fault := by
    cases hf : t.find host'.cwd p with
    | error fault => exact ⟨fault, rfl⟩
    | ok found => cases (exists?_iff_find.mpr ⟨_, _, (hp found).mp hf⟩).symm.trans h
  refine ⟨fault, ?_⟩
  rw [outcome_loadFile_eq, readText, FileTree.read, hf]
  rfl

/-! ## What a load begins with, and what the environment makes of it -/

/-- The config that a load begins with: the one that the text of the chosen file describes, or the
default if no file is chosen and the working directory has none. -/
inductive Found (cwd : Location) (t : FileTree) : Option String → Config → Prop where
  | named {p text : String} {c : Config} (hr : t.readText cwd p = .ok text)
    (hc : parse text = .ok c) : Found cwd t (some p) c
  | own {text : String} {c : Config} (h : t.exists? cwd ownPath)
    (hr : t.readText cwd ownPath = .ok text) (hc : parse text = .ok c) : Found cwd t none c
  | absent (h : t.exists? cwd ownPath = false) : Found cwd t none .default

/-- `c` is the config `base` with four of its fields set by their variables, if these are set. -/
structure SetBy (env : String → Option String) (base c : Config) : Prop where
  archiveBaseUrl : c.archiveBaseUrl = (env "D4J_ARCHIVE_BASE_URL").getD base.archiveBaseUrl
  archiveDir : c.archiveDir = (env "D4J_ARCHIVE_DIR").getD base.archiveDir
  jar : c.instrumenter.jar = (env "D4J_INSTRUMENTER_JAR").getD base.instrumenter.jar
  classesDir :
    c.instrumenter.classesDir = (env "D4J_INSTRUMENTER_CLASSES").getD base.instrumenter.classesDir
  downloader : c.downloader = base.downloader
  extractor : c.extractor = base.extractor
  build : c.build = base.build
  exclusions : c.exclusions = base.exclusions
  instrumenter : c.instrumenter.command = base.instrumenter.command
  supportClass : c.instrumenter.supportClass = base.instrumenter.supportClass

theorem setBy_applyEnv (base : Config) (env : String → Option String) :
    SetBy env base (base.applyEnv env) where
  archiveBaseUrl := rfl
  archiveDir := rfl
  jar := rfl
  classesDir := rfl
  downloader := rfl
  extractor := rfl
  build := rfl
  exclusions := rfl
  instrumenter := rfl
  supportClass := rfl

theorem outcome_loadChosen_of_found {chosen : Option String} {base : Config}
    (h : Found host.cwd t chosen base) :
    (loadChosen chosen).outcome host t = .value (base.applyEnv host.env) t := by
  cases h with
  | named hr hc =>
    rw [loadChosen, outcome_loadFile_eq, hr, outcomeOfText, hc]
  | own h hr hc =>
    rw [loadChosen, outcome_load_eq, if_pos h, hr, outcomeOfText, hc]
  | absent h =>
    rw [loadChosen, outcome_load_eq, if_neg (by simp [h])]

theorem result_outcomeOfText {reading parsing : Activity} {env : String → Option String}
    {r : Except Fault String} (h : (outcomeOfText reading parsing env t r).result = .ok c) :
    ∃ text base, r = .ok text ∧ parse text = .ok base := by
  cases r with
  | error fault => cases h
  | ok text =>
    cases hc : parse text with
    | error fault =>
      rw [outcomeOfText, hc] at h
      cases h
    | ok base => exact ⟨text, base, rfl, hc⟩

theorem found_of_loadChosen {chosen : Option String}
    (h : ((loadChosen chosen).outcome host t).result = .ok c) :
    ∃ base, Found host.cwd t chosen base := by
  cases chosen with
  | some p =>
    rw [loadChosen, outcome_loadFile_eq] at h
    obtain ⟨text, base, hr, hc⟩ := result_outcomeOfText h
    exact ⟨base, .named hr hc⟩
  | none =>
    rw [loadChosen, outcome_load_eq] at h
    cases he : t.exists? host.cwd ownPath with
    | false => exact ⟨_, .absent he⟩
    | true =>
      rw [if_pos he] at h
      obtain ⟨text, base, hr, hc⟩ := result_outcomeOfText h
      exact ⟨base, .own he hr hc⟩

/-! ## Writing the defaults -/

/-- The files after runs of `init` in the directory `cwd`, so many as one likes. -/
inductive Inits (cwd : Location) (t : FileTree) : FileTree → Prop where
  | none : Inits cwd t t
  | more {u : FileTree} (host : Host) (h : Inits cwd t u) (hcwd : host.cwd = cwd) :
    Inits cwd t ((init ".").outcome host u).files

/-- `u` is `t`, or `t` had no config file and `u` has one with the defaults. -/
def Supplied (cwd : Location) (t u : FileTree) : Prop :=
  u = t ∨ t.exists? cwd ownPath = false ∧ u.read cwd ownPath = .ok defaultText.toUTF8

/-- A run of `init` writes the defaults, or does nothing. -/
theorem supplied_of_init (host : Host) (t : FileTree) :
    Supplied host.cwd t ((init ".").outcome host t).files := by
  unfold init
  rw [Action.outcome_bind, Action.outcome_exists?, Outcome.value_andThen, ← ownPath]
  cases he : t.exists? host.cwd ownPath with
  | true =>
    rw [if_pos rfl, Action.outcome_bind, Action.outcome_painted, Outcome.value_andThen,
      Action.outcome_printLine]
    exact .inl rfl
  | false =>
    rw [if_neg (by simp), Action.outcome_bind, Action.outcome_change, Call.perform_write]
    cases hw : t.write host.cwd ownPath defaultText.toUTF8 with
    | error fault => exact .inl rfl
    | ok u => exact .inr ⟨he, read_write hw⟩

theorem Inits.supplied (h : Inits cwd t u) : Supplied cwd t u := by
  induction h with
  | none => exact .inl rfl
  | @more u host _ hcwd ih =>
    subst hcwd
    rcases supplied_of_init host u with hsame | ⟨hmissing, hread⟩
    · rw [hsame]
      exact ih
    · rcases ih with rfl | ⟨-, hread'⟩
      · exact .inr ⟨hmissing, hread⟩
      · rw [exists?_of_read hread'] at hmissing
        cases hmissing

/-- The defaults that were written are the defaults. -/
theorem result_load_of_supplied (h : Supplied host.cwd t u) :
    (load.outcome host u).result = (load.outcome host t).result := by
  rcases h with rfl | ⟨hmissing, hread⟩
  · rfl
  have hc : parse defaultText = .ok .default := parse_of_mem_texts (by simp [texts, defaultText])
  rw [outcome_load_eq, outcome_load_eq, if_pos (exists?_of_read hread), if_neg (by simp [hmissing]),
    readText_of_read hread, outcomeOfText, hc]
  rfl

/-! ## Main statement -/

/-- Where the working directory has a config file, loading it unnamed and by any name comes to the
same, and where it has none the defaults are loaded and no name of it can be. What is loaded has the
values of the four variables that are set, and else what the file says or the defaults. Runs of
`init` before it change nothing about that, and leave a config file that is there alone. -/
theorem load_agrees (host : Host) (t : FileTree) :
    (∀ host' p, host'.env = host.env → LeadsToOwn host.cwd host'.cwd t p →
      (t.exists? host.cwd ownPath →
        LoadsAlike p t ((loadChosen none).outcome host t) ((loadChosen (some p)).outcome host' t)) ∧
      (t.exists? host.cwd ownPath = false →
        (loadChosen none).outcome host t = .value (default.applyEnv host.env) t ∧
          ∃ fault, (loadChosen (some p)).outcome host' t =
            .failure (.during (.readingConfigFile p) (.file fault)) t)) ∧
    (∀ chosen c, ((loadChosen chosen).outcome host t).result = .ok c →
      ∃ base, Found host.cwd t chosen base ∧ SetBy host.env base c ∧
        ∀ host', host'.cwd = host.cwd →
          ∃ c', (loadChosen chosen).outcome host' t = .value c' t ∧ SetBy host'.env base c') ∧
    ∀ u, Inits host.cwd t u →
      ((loadChosen none).outcome host u).result = ((loadChosen none).outcome host t).result ∧
        (t.exists? host.cwd ownPath → u = t) := by
  refine ⟨fun host' p henv hp => ⟨loadsAlike henv hp, fun he => ⟨?_, ?_⟩⟩, fun chosen c h => ?_,
    fun u h => ⟨?_, fun he => ?_⟩⟩
  · exact outcome_loadChosen_of_found (.absent he)
  · exact outcome_loadFile_of_missing hp he
  · obtain ⟨base, hbase⟩ := found_of_loadChosen h
    rw [outcome_loadChosen_of_found hbase] at h
    cases h
    exact ⟨base, hbase, setBy_applyEnv _ _, fun host' hcwd =>
      ⟨_, outcome_loadChosen_of_found (hcwd ▸ hbase), setBy_applyEnv _ _⟩⟩
  · exact result_load_of_supplied h.supplied
  · rcases h.supplied with hsame | ⟨hmissing, -⟩
    · exact hsame
    · rw [he] at hmissing
      cases hmissing

/-! ## A file with three fields, and a variable without a text -/

/-- The root with a config file. -/
def sparseFiles : FileTree :=
  FileTree.empty.put [] fileName
    (.file (Json.Value.object sparseMembers).compact.toUTF8 false none)

def emptyVarHost : Host :=
  { Host.plain fun _ t => ⟨.ok (.exited 0), t, "", ""⟩ with
    env := fun n => if n = "D4J_ARCHIVE_DIR" then some "" else none }

theorem found_sparse : Found [] sparseFiles none sparseConfig :=
  .own rfl (readText_of_read rfl) read_partial_sparse.1

theorem load_agrees_sparse :
    (loadChosen none).outcome emptyVarHost sparseFiles =
        .value { sparseConfig with archiveDir := "" } sparseFiles ∧
      LoadsAlike fileName sparseFiles ((loadChosen none).outcome emptyVarHost sparseFiles)
        ((loadChosen (some fileName)).outcome emptyVarHost sparseFiles) ∧
      ((init ".").outcome emptyVarHost sparseFiles).files = sparseFiles := by
  have h := load_agrees emptyVarHost sparseFiles
  have halike := h.1 emptyVarHost fileName rfl (fun _ => by rfl)
  have hinit := h.2.2 _ (.more emptyVarHost .none rfl)
  exact ⟨outcome_loadChosen_of_found found_sparse, halike.1 rfl, hinit.2 rfl⟩

end BenchCheckout.Config
