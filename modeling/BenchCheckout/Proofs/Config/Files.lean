import BenchCheckout.Config.Files
import BenchCheckout.Proofs.Config.Parts
import BenchCheckout.Proofs.Files.Links
import BenchCheckout.Proofs.Outcome

/-!
# Config files that are written and read

* `Config.read_back`: the text of a config is read as this config, in either layout.
* `Config.read_partial`: a config file with some of the fields is read as these fields and the
  defaults of the others.
-/

namespace BenchCheckout

open Json (Fields Value)

/-! ## The written value -/

namespace Json

theorem Value.isWritable_ofNat (n : Nat) : (Value.ofNat n).IsWritable :=
  ⟨isDigits_decimal n, decimal_eq_zero, nofun⟩

theorem Value.areWritable_map {α : Type} {f : α → Value} (h : ∀ x, (f x).IsWritable)
    (xs : List α) : AreWritable (xs.map f) := by
  induction xs with
  | nil => trivial
  | cons x xs ih => exact ⟨h x, ih⟩

theorem Value.isListOf_map {α : Type} {p : α → Value → Prop} {f : α → Value}
    (h : ∀ x, p x (f x)) (xs : List α) : (Value.list (xs.map f)).IsListOf p xs :=
  ⟨xs.map f, rfl, List.forall₂_map_right_iff.mpr (List.forall₂_same.mpr fun x _ => h x)⟩

/-- An object with the written fields alone, in their order. -/
theorem Value.isObject_of_gives {fields : Fields} {ms : List (String × Value)}
    (h : fields.Gives ms) : (Value.object ms).IsObject fields :=
  ⟨ms, [], ms, rfl, h, nofun, by simp⟩

end Json

def ToolCommand.Parts.all : ToolCommand.Parts := ⟨true⟩

def BuildConfig.Parts.all : BuildConfig.Parts := ⟨some .all, true, true, true⟩

def InstrumenterConfig.Parts.all : InstrumenterConfig.Parts := ⟨some .all, true, true, true⟩

def Config.Parts.all : Config.Parts :=
  ⟨true, true, some .all, some .all, some .all, true, some .all⟩

theorem ToolCommand.isWritten_toJson (tool : ToolCommand) : tool.IsWritten .all tool.toJson :=
  Value.isObject_of_gives <| .written rfl <|
    .written (Value.isListOf_map (p := Value.IsString) (f := .text) (fun _ => rfl) _) .done

theorem PatchRule.isWritten_toJson (rule : PatchRule) : rule.IsWritten rule.toJson :=
  Value.isObject_of_gives <| .written rfl <| .written rfl .done

theorem Exclusion.isWritten_toJson (exclusion : Exclusion) :
    exclusion.IsWritten exclusion.toJson :=
  Value.isObject_of_gives <| .written rfl <| .written rfl .done

theorem BuildConfig.isWritten_toJson (build : BuildConfig) : build.IsWritten .all build.toJson :=
  Value.isObject_of_gives <| .written build.command.isWritten_toJson <| .written rfl <|
    .written rfl <| .written (Value.isListOf_map PatchRule.isWritten_toJson _) .done

theorem InstrumenterConfig.isWritten_toJson (instrumenter : InstrumenterConfig) :
    instrumenter.IsWritten .all instrumenter.toJson :=
  Value.isObject_of_gives <| .written instrumenter.command.isWritten_toJson <| .written rfl <|
    .written rfl <| .written rfl .done

namespace Config

theorem isWritten_toJson (config : Config) : config.IsWritten .all config.toJson :=
  Value.isObject_of_gives <| .written rfl <| .written rfl <|
    .written config.downloader.isWritten_toJson <|
    .written config.extractor.isWritten_toJson <|
    .written config.build.isWritten_toJson <|
    .written (Value.isListOf_map Exclusion.isWritten_toJson _) <|
    .written config.instrumenter.isWritten_toJson .done

/-- Of a config with all its fields, nothing is a default. -/
theorem only_all (config : Config) : config.only .all = config := rfl

theorem isWritable_toJson (config : Config) : config.toJson.IsWritable := by
  have htool (tool : ToolCommand) : tool.toJson.IsWritable :=
    ⟨trivial, Value.areWritable_map (f := .text) (fun _ => trivial) _, trivial⟩
  have hrule (rule : PatchRule) : rule.toJson.IsWritable := ⟨trivial, trivial, trivial⟩
  have hexclusion (e : Exclusion) : e.toJson.IsWritable := ⟨trivial, trivial, trivial⟩
  have hbuild : config.build.toJson.IsWritable :=
    ⟨htool _, trivial, Value.isWritable_ofNat _, Value.areWritable_map hrule _, trivial⟩
  have hinstrumenter : config.instrumenter.toJson.IsWritable :=
    ⟨htool _, trivial, trivial, trivial, trivial⟩
  exact ⟨trivial, trivial, htool _, htool _, hbuild, Value.areWritable_map hexclusion _,
    hinstrumenter, trivial⟩

/-! ## Whole files -/

/-- The texts of a config: with a member a line, as it stands in a file, and without blanks. -/
def texts (config : Config) : List String :=
  [config.toJson.pretty, config.toJson.pretty ++ "\n", config.toJson.compact]

theorem isText_of_mem_texts {config : Config} {text : String} (h : text ∈ config.texts) :
    config.toJson.IsText text := by
  have hv := config.isWritable_toJson
  simp only [texts, List.mem_cons, List.not_mem_nil, or_false] at h
  rcases h with rfl | rfl | rfl
  · exact Value.isText_pretty hv
  · exact Value.isText_pretty_newline hv
  · exact Value.isText_compact hv

theorem parse_of_mem_texts {config : Config} {text : String} (h : text ∈ config.texts) :
    parse text = .ok config := by
  rw [config.parse_eq .all config.isWritten_toJson (isText_of_mem_texts h), only_all]

section File

variable {host : Host} {t : FileTree} {dir path text : String} {config : Config}

theorem exists?_of_read {bytes : ByteArray} (h : t.read host.cwd path = .ok bytes) :
    t.exists? host.cwd path = true := by
  obtain ⟨l, executable, number, hl, he⟩ := FileTree.read_eq_ok.mp h
  exact FileTree.exists?_iff_find.mpr
    ⟨l, _, FileTree.find_eq_ok.mpr ⟨FileTree.locate_eq_ok.mp hl, he⟩⟩

instance (activity : Activity) (r : Except Json.Fault Config) :
    Action.Memoryless (parsed activity r) := by
  cases r
  · exact inferInstanceAs (Action.Memoryless (Action.fail _))
  · exact inferInstanceAs (Action.Memoryless (pure _))

instance (config : Config) : Action.Memoryless (overridden config) :=
  ⟨fun _ w => ⟨rfl, rfl, (List.append_nil w.history).symm⟩⟩

/-- A config file is read as the config that its text describes. -/
theorem outcome_loadFromDir (h : t.read host.cwd (Path.join dir fileName) = .ok text.toUTF8)
    (hc : parse text = .ok config) : (loadFromDir dir).outcome host t = .value config t := by
  unfold loadFromDir
  rw [Action.outcome_bind, Action.outcome_exists?, exists?_of_read h, Outcome.value_andThen,
    if_pos rfl, Action.outcome_bind, Action.outcome_look, FileTree.readText_of_read h,
    Outcome.value_andThen, Action.outcome_bind, Action.outcome_orFail]
  show (parsed _ (parse text)).outcome host t = _
  rw [hc]
  rfl

/-- A file that is named is read likewise, and the environment goes before it. -/
theorem outcome_loadFile (h : t.read host.cwd path = .ok text.toUTF8)
    (hc : parse text = .ok config) :
    (loadFile path).outcome host t = .value (config.applyEnv host.env) t := by
  unfold loadFile
  rw [Action.outcome_bind, Action.outcome_look, FileTree.readText_of_read h, Outcome.value_andThen,
    Action.outcome_bind, Action.outcome_orFail]
  show ((parsed _ (parse text)) >>= overridden).outcome host t = _
  rw [hc]
  rfl

end File

/-- Written in either layout, with a line feed behind it or not, a config is read back as it was:
from its text, from the config file of a directory, and from a file that is named, where the
environment goes before it. -/
theorem read_back (config : Config) :
    ∀ text ∈ config.texts, parse text = .ok config ∧
      (∀ (host : Host) (t : FileTree) (dir : String),
        t.read host.cwd (Path.join dir fileName) = .ok text.toUTF8 →
          (loadFromDir dir).outcome host t = .value config t) ∧
      ∀ (host : Host) (t : FileTree) (path : String), t.read host.cwd path = .ok text.toUTF8 →
        (loadFile path).outcome host t = .value (config.applyEnv host.env) t := by
  intro text h
  have hc := parse_of_mem_texts h
  exact ⟨hc, fun _ _ _ hread => outcome_loadFromDir hread hc,
    fun _ _ _ hread => outcome_loadFile hread hc⟩

/-- A config with quotes, control characters and characters beyond the first 65536, and with lists
and texts that are empty. -/
def oddConfig : Config where
  archiveBaseUrl := "\"\\/\n\t\u0000\u001f\u007f\u20ac😀"
  archiveDir := ""
  downloader := ⟨"", []⟩
  extractor := ⟨"😀", ["", "\u0008\u000c\r"]⟩
  build := ⟨⟨"é", []⟩, "", 4294967295, []⟩
  exclusions := []
  instrumenter := ⟨⟨"", [""]⟩, "", "", ""⟩

/-- The root with a config file. -/
def oddFiles : FileTree :=
  FileTree.empty.put [] fileName (.file oddConfig.toJson.pretty.toUTF8 false none)

theorem read_back_oddConfig :
    parse oddConfig.toJson.pretty = .ok oddConfig ∧
      ∀ launch, (loadFromDir ".").outcome (.plain launch) oddFiles = .value oddConfig oddFiles ∧
        (loadFile fileName).outcome (.plain launch) oddFiles = .value oddConfig oddFiles :=
  have h := read_back oddConfig _ List.mem_cons_self
  ⟨h.1, fun launch => ⟨h.2.1 (.plain launch) oddFiles "." rfl,
    h.2.2 (.plain launch) oddFiles fileName rfl⟩⟩

/-! ## Files with some of the fields -/

end Config

def BuildConfig.Parts.empty : BuildConfig.Parts := ⟨none, false, false, false⟩

def InstrumenterConfig.Parts.empty : InstrumenterConfig.Parts := ⟨none, false, false, false⟩

namespace Config

/-- A config file gives the fields that it has, in any order and among any other members, and the
default of every field that it lacks. A build or an instrumenter that it lacks is as one without any
field. -/
theorem read_partial (config : Config) (parts : Parts) :
    (∀ v text, config.IsWritten parts v → v.IsText text →
      parse text = .ok (config.only parts)) ∧
    (∀ v v' text text', config.IsWritten { parts with build := none } v → v.IsText text →
      config.IsWritten { parts with build := some .empty } v' → v'.IsText text' →
        parse text = parse text') ∧
    ∀ v v' text text', config.IsWritten { parts with instrumenter := none } v → v.IsText text →
      config.IsWritten { parts with instrumenter := some .empty } v' → v'.IsText text' →
        parse text = parse text' := by
  refine ⟨fun v text h ht => config.parse_eq parts h ht, ?_, ?_⟩
  · intro v v' text text' h ht h' ht'
    rw [config.parse_eq _ h ht, config.parse_eq _ h' ht']
    rfl
  · intro v v' text text' h ht h' ht'
    rw [config.parse_eq _ h ht, config.parse_eq _ h' ht']
    rfl

section Sparse

/-- A config of which three fields differ from the defaults. -/
def sparseConfig : Config :=
  { Config.default with
    archiveDir := "a"
    extractor := ⟨"tar", []⟩
    instrumenter := { InstrumenterConfig.default with jar := "x.jar" } }

def sparseParts : Parts where
  archiveBaseUrl := false
  archiveDir := true
  downloader := none
  extractor := some ⟨false⟩
  build := none
  exclusions := false
  instrumenter := some ⟨none, true, false, false⟩

/-- The three fields backwards, and two members with other names. -/
def sparseMembers : List (String × Value) :=
  [("instrumenter", .object [("note", .list [.null, .number ⟨true, [1], [5], some (-3)⟩]),
      ("jar", .text "x.jar")]),
    ("extractor", .object [("Args", .boolean true), ("program", .text "tar")]),
    ("archive_dir", .text "a")]

theorem isWritten_sparse : sparseConfig.IsWritten sparseParts (.object sparseMembers) := by
  have hextractor : sparseConfig.extractor.IsWritten ⟨false⟩
      (.object [("Args", .boolean true), ("program", .text "tar")]) :=
    ⟨_, [("Args", .boolean true)], _, rfl, .written rfl (.leftOut .done), by decide,
      @List.perm_append_comm _ [("Args", Value.boolean true)] _⟩
  have hinstrumenter : sparseConfig.instrumenter.IsWritten ⟨none, true, false, false⟩
      (.object [("note", .list [.null, .number ⟨true, [1], [5], some (-3)⟩]),
        ("jar", .text "x.jar")]) :=
    ⟨_, [("note", _)], _, rfl, .leftOut (.written rfl (.leftOut (.leftOut .done))), by decide,
      @List.perm_append_comm _ [("note", _)] _⟩
  exact ⟨_, [], _, rfl, .leftOut <| .written rfl <| .leftOut <| .written hextractor <| .leftOut <|
    .leftOut <| .written hinstrumenter .done, nofun, (List.reverse_perm _).symm⟩

/-- An object whose one member is a structure without any field. -/
theorem isText_lone (name : String) :
    (Value.object [(name, .object [])]).IsText (Value.object [(name, .object [])]).pretty :=
  Value.isText_pretty ⟨trivial, trivial⟩

theorem read_partial_sparse :
    parse (Value.object sparseMembers).compact = .ok sparseConfig ∧
      parse "\x7b\x7d" = parse (Value.object [("build", .object [])]).pretty ∧
      parse "\x7b\x7d" = parse (Value.object [("instrumenter", .object [])]).pretty := by
  have hbare : (Value.object []).IsText "\x7b\x7d" := Value.isText_compact (v := .object []) trivial
  let bare : Parts := ⟨false, false, none, none, none, false, none⟩
  have hwritten : default.IsWritten bare (.object []) :=
    ⟨[], [], [], rfl, .leftOut <| .leftOut <| .leftOut <| .leftOut <| .leftOut <| .leftOut <|
      .leftOut .done, nofun, .refl _⟩
  have hbuild : default.IsWritten { bare with build := some .empty }
      (.object [("build", .object [])]) :=
    Value.isObject_of_gives <| .leftOut <| .leftOut <| .leftOut <| .leftOut <|
      .written (Value.isObject_of_gives <| .leftOut <| .leftOut <| .leftOut <| .leftOut .done) <|
      .leftOut <| .leftOut .done
  have hinstrumenter : default.IsWritten { bare with instrumenter := some .empty }
      (.object [("instrumenter", .object [])]) :=
    Value.isObject_of_gives <| .leftOut <| .leftOut <| .leftOut <| .leftOut <| .leftOut <|
      .leftOut <|
      .written (Value.isObject_of_gives <| .leftOut <| .leftOut <| .leftOut <| .leftOut .done) .done
  have hnumber : Json.Numeral.IsWritable ⟨true, [1], [5], some (-3)⟩ :=
    ⟨⟨by decide, by decide⟩, by decide, by decide⟩
  have hsparse : (Value.object sparseMembers).IsWritable :=
    ⟨⟨⟨trivial, hnumber, trivial⟩, trivial, trivial⟩, ⟨trivial, trivial, trivial⟩, trivial, trivial⟩
  refine ⟨?_, ?_, ?_⟩
  · exact (read_partial sparseConfig sparseParts).1 _ _ isWritten_sparse
      (Value.isText_compact hsparse)
  · exact (read_partial default bare).2.1 _ _ _ _ hwritten hbare hbuild (isText_lone "build")
  · exact (read_partial default bare).2.2 _ _ _ _ hwritten hbare hinstrumenter
      (isText_lone "instrumenter")

end Sparse

end Config

end BenchCheckout
