import BenchCheckout.Config.Reader
import BenchCheckout.Proofs.Json.Cutting
import BenchCheckout.Proofs.Json.Object

/-!
# Reading a config with some of its fields

`parts` say which fields a config file has. `c.IsWritten parts v` says that the value `v` has these
fields of the config `c`, in any order, among members with other names. `c.only parts` is `c` with
the defaults in place of the other fields.

* `Config.takes_isWritten`: from such a value `c.only parts` is read.
-/

namespace BenchCheckout

open Json (Field Fields Reader Record Value)

/-! ## Values of fields -/

namespace Json

def Value.IsString (s : String) (v : Value) : Prop := v = .text s

def Value.IsWord (w : UInt32) (v : Value) : Prop := v = .ofNat w.toNat

/-- A list of values, one for each of `xs`. -/
def Value.IsListOf {α : Type} (p : α → Value → Prop) (xs : List α) (v : Value) : Prop :=
  ∃ vs, v = .list vs ∧ List.Forall₂ p xs vs

/-- A field with a value as `p` says, if it is written at all. -/
def Fields.given (isWritten : Bool) (p : Value → Prop) : Option (Value → Prop) :=
  if isWritten then some p else none

section Values

variable {α β : Type} {read : Reader α} {x default : α}

/-- Whatever is written for the field is read as `x`. -/
def Fields.ReadAs (read : Reader α) (entry : Option (Value → Prop)) (x : α) : Prop :=
  ∀ p v, entry = some p → p v → read.Takes v.tokens x

theorem readAs_given {p : Value → Prop} (h : ∀ v, p v → read.Takes v.tokens x) (b : Bool) :
    Fields.ReadAs read (Fields.given b p) (if b then x else default) := by
  rintro q v hq hv
  cases b with
  | false => cases hq
  | true => cases hq; exact h v hv

theorem readAs_map {p : β → Value → Prop} {f : β → α}
    (h : ∀ parts v, p parts v → read.Takes v.tokens (f parts)) (o : Option β) :
    Fields.ReadAs read (o.map p) ((o.map f).getD default) := by
  rintro q v hq hv
  obtain ⟨parts, rfl, rfl⟩ := Option.map_eq_some_iff.mp hq
  exact h parts v hv

theorem takes_isString {s : String} {v : Value} (h : v.IsString s) :
    Reader.string.Takes v.tokens s := by
  rw [h]
  exact Reader.takes_string s

theorem takes_isPath {s : String} {v : Value} (h : v.IsString s) :
    Reader.path.Takes v.tokens s := by
  rw [h]
  exact Reader.takes_path s

theorem takes_isWord {w : UInt32} {v : Value} (h : v.IsWord w) :
    Reader.word32.Takes v.tokens w := by
  rw [h]
  exact Reader.takes_word32 w

theorem takes_isListOf {p : α → Value → Prop} (h : ∀ x v, p x v → read.Takes v.tokens x)
    {xs : List α} {v : Value} (hv : v.IsListOf p xs) : (Reader.list read).Takes v.tokens xs := by
  obtain ⟨vs, rfl, hvs⟩ := hv
  exact Reader.takes_list (hvs.imp fun x v => h x v)

end Values

section Given

variable {α β : Type}

@[simp]
theorem isSome_given (b : Bool) (p : Value → Prop) : (Fields.given b p).isSome = b := by
  cases b <;> rfl

@[simp]
theorem getD_ite (b : Bool) (x default : α) :
    (if b then some x else none).getD default = if b then x else default := by
  cases b <;> rfl

@[simp]
theorem ite_ite (b : Bool) (x default : α) :
    (if b then if b then x else default else default) = if b then x else default := by
  cases b <;> rfl

@[simp]
theorem getD_map_ite (o : Option β) (f : β → α) (default : α) :
    (if o.isSome then (o.map f).getD default else default) = (o.map f).getD default := by
  cases o <;> rfl

end Given

section Matches

variable {σ β : Type} {draft : (String → Bool) → σ} {name : String} {get : σ → Option β}
  {set : σ → β → σ} {read : Reader β} {x : β}

theorem matches_optional {entry : Option (Value → Prop)} (hr : Fields.ReadAs read entry x)
    (hg : ∀ has, get (draft has) = if has name then some x else none)
    (hs : ∀ has, set (draft has) x = draft fun n => n == name || has n) :
    (Field.optional name get set read).Matches draft (name, entry) where
  name := rfl
  required := nofun
  isSet has := by
    simp only [Field.optional, hg]
    cases has name <;> rfl
  read p v hp hv :=
    ⟨(set · x), fun rest => by simp only [Field.optional, hr p v hp hv rest]; rfl, hs⟩

theorem matches_mandatory {p : Value → Prop} (hr : ∀ v, p v → read.Takes v.tokens x)
    (hg : ∀ has, get (draft has) = if has name then some x else none)
    (hs : ∀ has, set (draft has) x = draft fun n => n == name || has n) :
    (Field.mandatory name get set read).Matches draft (name, some p) :=
  { matches_optional (fun _ v hp hv => hr v (by cases hp; exact hv)) hg hs with
    required := fun _ => rfl }

end Matches

end Json

open Json

/-! ## Tool commands -/

/-- The fields that are written beside the program. -/
structure ToolCommand.Parts where
  args : Bool

namespace ToolCommand

variable (tool : ToolCommand) (parts : Parts)

/-- Arguments that are left out are none, whatever the tool. -/
def only : ToolCommand := ⟨tool.program, if parts.args then tool.args else []⟩

def fields : Fields :=
  [("program", some (Value.IsString tool.program)),
    ("args", Fields.given parts.args (Value.IsListOf Value.IsString tool.args))]

def IsWritten (v : Value) : Prop := v.IsObject (tool.fields parts)

def draft (has : String → Bool) : Draft where
  program := if has "program" then some tool.program else none
  args := if has "args" then some tool.args else none

theorem takes_isWritten {v : Value} (h : tool.IsWritten parts v) :
    record.read.Takes v.tokens (tool.only parts) := by
  have hfields : List.Forall₂ (Field.Matches (tool.only parts).draft) record.fields
      (tool.fields parts) :=
    .cons (matches_mandatory (fun _ => takes_isString) (fun _ => rfl) (by simp [draft, only])) <|
    .cons (matches_optional (readAs_given (fun _ => takes_isListOf fun _ _ => takes_isString) _)
      (fun _ => rfl) (by simp [draft, only])) .nil
  have hbuild :
      record.build ((tool.only parts).draft (tool.fields parts).has) = tool.only parts := by
    simp [record, draft, fields, Fields.has, only]
  rw [← hbuild]
  exact Record.takes_isObject hfields (by decide) rfl h

end ToolCommand

/-! ## Patch rules and exclusions -/

namespace PatchRule

variable (rule : PatchRule)

def fields : Fields :=
  [("line", some (Value.IsString rule.line)),
    ("replacement", some (Value.IsString rule.replacement))]

def IsWritten (v : Value) : Prop := v.IsObject rule.fields

def draft (has : String → Bool) : Draft where
  line := if has "line" then some rule.line else none
  replacement := if has "replacement" then some rule.replacement else none

theorem takes_isWritten {v : Value} (h : rule.IsWritten v) : record.read.Takes v.tokens rule := by
  have hfields : List.Forall₂ (Field.Matches rule.draft) record.fields rule.fields :=
    .cons (matches_mandatory (fun _ => takes_isString) (fun _ => rfl) (by simp [draft])) <|
    .cons (matches_mandatory (fun _ => takes_isString) (fun _ => rfl) (by simp [draft])) .nil
  have hbuild : record.build (rule.draft rule.fields.has) = rule := by
    simp [record, draft, fields, Fields.has]
  have hread := Record.takes_isObject hfields (by decide) rfl h
  rwa [hbuild] at hread

end PatchRule

namespace Exclusion

variable (exclusion : Exclusion)

def fields : Fields :=
  [("subject", some (Value.IsString exclusion.subject)),
    ("path", some (Value.IsString exclusion.path))]

def IsWritten (v : Value) : Prop := v.IsObject exclusion.fields

def draft (has : String → Bool) : Draft where
  subject := if has "subject" then some exclusion.subject else none
  path := if has "path" then some exclusion.path else none

theorem takes_isWritten {v : Value} (h : exclusion.IsWritten v) :
    record.read.Takes v.tokens exclusion := by
  have hfields : List.Forall₂ (Field.Matches exclusion.draft) record.fields exclusion.fields :=
    .cons (matches_mandatory (fun _ => takes_isString) (fun _ => rfl) (by simp [draft])) <|
    .cons (matches_mandatory (fun _ => takes_isPath) (fun _ => rfl) (by simp [draft])) .nil
  have hbuild : record.build (exclusion.draft exclusion.fields.has) = exclusion := by
    simp [record, draft, fields, Fields.has]
  have hread := Record.takes_isObject hfields (by decide) rfl h
  rwa [hbuild] at hread

end Exclusion

/-! ## The build -/

/-- The fields that are written, each tool command with its own. -/
structure BuildConfig.Parts where
  command : Option ToolCommand.Parts
  manifestFile : Bool
  retries : Bool
  patches : Bool

namespace BuildConfig

variable (build : BuildConfig) (parts : Parts)

def only : BuildConfig where
  command := (parts.command.map build.command.only).getD default.command
  manifestFile := if parts.manifestFile then build.manifestFile else default.manifestFile
  retries := if parts.retries then build.retries else default.retries
  patches := if parts.patches then build.patches else default.patches

def fields : Fields :=
  [("command", parts.command.map build.command.IsWritten),
    ("manifest_file", Fields.given parts.manifestFile (Value.IsString build.manifestFile)),
    ("retries", Fields.given parts.retries (Value.IsWord build.retries)),
    ("patches", Fields.given parts.patches (Value.IsListOf PatchRule.IsWritten build.patches))]

def IsWritten (v : Value) : Prop := v.IsObject (build.fields parts)

def draft (has : String → Bool) : Draft where
  command := if has "command" then some build.command else none
  manifestFile := if has "manifest_file" then some build.manifestFile else none
  retries := if has "retries" then some build.retries else none
  patches := if has "patches" then some build.patches else none

theorem takes_isWritten {v : Value} (h : build.IsWritten parts v) :
    record.read.Takes v.tokens (build.only parts) := by
  have hfields : List.Forall₂ (Field.Matches (build.only parts).draft) record.fields
      (build.fields parts) :=
    .cons (matches_optional (readAs_map (fun parts _ => build.command.takes_isWritten parts) _)
      (fun _ => rfl) (by simp [draft, only])) <|
    .cons (matches_optional (readAs_given (fun _ => takes_isString) _) (fun _ => rfl)
      (by simp [draft, only])) <|
    .cons (matches_optional (readAs_given (fun _ => takes_isWord) _) (fun _ => rfl)
      (by simp [draft, only])) <|
    .cons (matches_optional
      (readAs_given (fun _ => takes_isListOf fun rule _ => PatchRule.takes_isWritten rule) _)
      (fun _ => rfl) (by simp [draft, only])) .nil
  have hbuild : record.build ((build.only parts).draft (build.fields parts).has) =
      build.only parts := by
    simp [record, draft, fields, Fields.has, only]
  rw [← hbuild]
  exact Record.takes_isObject hfields (by decide) rfl h

end BuildConfig

/-! ## The instrumenter -/

/-- The fields that are written, the tool command with its own. -/
structure InstrumenterConfig.Parts where
  command : Option ToolCommand.Parts
  jar : Bool
  classesDir : Bool
  supportClass : Bool

namespace InstrumenterConfig

variable (instrumenter : InstrumenterConfig) (parts : Parts)

def only : InstrumenterConfig where
  command := (parts.command.map instrumenter.command.only).getD default.command
  jar := if parts.jar then instrumenter.jar else default.jar
  classesDir := if parts.classesDir then instrumenter.classesDir else default.classesDir
  supportClass := if parts.supportClass then instrumenter.supportClass else default.supportClass

def fields : Fields :=
  [("command", parts.command.map instrumenter.command.IsWritten),
    ("jar", Fields.given parts.jar (Value.IsString instrumenter.jar)),
    ("classes_dir", Fields.given parts.classesDir (Value.IsString instrumenter.classesDir)),
    ("support_class", Fields.given parts.supportClass (Value.IsString instrumenter.supportClass))]

def IsWritten (v : Value) : Prop := v.IsObject (instrumenter.fields parts)

def draft (has : String → Bool) : Draft where
  command := if has "command" then some instrumenter.command else none
  jar := if has "jar" then some instrumenter.jar else none
  classesDir := if has "classes_dir" then some instrumenter.classesDir else none
  supportClass := if has "support_class" then some instrumenter.supportClass else none

theorem takes_isWritten {v : Value} (h : instrumenter.IsWritten parts v) :
    record.read.Takes v.tokens (instrumenter.only parts) := by
  have hfields : List.Forall₂ (Field.Matches (instrumenter.only parts).draft) record.fields
      (instrumenter.fields parts) :=
    .cons (matches_optional
      (readAs_map (fun parts _ => instrumenter.command.takes_isWritten parts) _)
      (fun _ => rfl) (by simp [draft, only])) <|
    .cons (matches_optional (readAs_given (fun _ => takes_isPath) _) (fun _ => rfl)
      (by simp [draft, only])) <|
    .cons (matches_optional (readAs_given (fun _ => takes_isPath) _) (fun _ => rfl)
      (by simp [draft, only])) <|
    .cons (matches_optional (readAs_given (fun _ => takes_isPath) _) (fun _ => rfl)
      (by simp [draft, only])) .nil
  have hbuild : record.build ((instrumenter.only parts).draft (instrumenter.fields parts).has) =
      instrumenter.only parts := by
    simp [record, draft, fields, Fields.has, only]
  rw [← hbuild]
  exact Record.takes_isObject hfields (by decide) rfl h

end InstrumenterConfig

/-! ## The whole config -/

/-- The fields that are written, each structure with its own. -/
structure Config.Parts where
  archiveBaseUrl : Bool
  archiveDir : Bool
  downloader : Option ToolCommand.Parts
  extractor : Option ToolCommand.Parts
  build : Option BuildConfig.Parts
  exclusions : Bool
  instrumenter : Option InstrumenterConfig.Parts

namespace Config

variable (config : Config) (parts : Parts)

/-- The written fields, and the defaults in place of the others. -/
def only : Config where
  archiveBaseUrl := if parts.archiveBaseUrl then config.archiveBaseUrl else default.archiveBaseUrl
  archiveDir := if parts.archiveDir then config.archiveDir else default.archiveDir
  downloader := (parts.downloader.map config.downloader.only).getD default.downloader
  extractor := (parts.extractor.map config.extractor.only).getD default.extractor
  build := (parts.build.map config.build.only).getD default.build
  exclusions := if parts.exclusions then config.exclusions else default.exclusions
  instrumenter := (parts.instrumenter.map config.instrumenter.only).getD default.instrumenter

def fields : Fields :=
  [("archive_base_url", Fields.given parts.archiveBaseUrl (Value.IsString config.archiveBaseUrl)),
    ("archive_dir", Fields.given parts.archiveDir (Value.IsString config.archiveDir)),
    ("downloader", parts.downloader.map config.downloader.IsWritten),
    ("extractor", parts.extractor.map config.extractor.IsWritten),
    ("build", parts.build.map config.build.IsWritten),
    ("exclusions", Fields.given parts.exclusions
      (Value.IsListOf Exclusion.IsWritten config.exclusions)),
    ("instrumenter", parts.instrumenter.map config.instrumenter.IsWritten)]

/-- An object with the written fields of `config`, in any order, where every object may have members
with other names. -/
def IsWritten (v : Value) : Prop := v.IsObject (config.fields parts)

def draft (has : String → Bool) : Draft where
  archiveBaseUrl := if has "archive_base_url" then some config.archiveBaseUrl else none
  archiveDir := if has "archive_dir" then some config.archiveDir else none
  downloader := if has "downloader" then some config.downloader else none
  extractor := if has "extractor" then some config.extractor else none
  build := if has "build" then some config.build else none
  exclusions := if has "exclusions" then some config.exclusions else none
  instrumenter := if has "instrumenter" then some config.instrumenter else none

theorem takes_isWritten {v : Value} (h : config.IsWritten parts v) :
    record.read.Takes v.tokens (config.only parts) := by
  have hfields : List.Forall₂ (Field.Matches (config.only parts).draft) record.fields
      (config.fields parts) :=
    .cons (matches_optional (readAs_given (fun _ => takes_isString) _) (fun _ => rfl)
      (by simp [draft, only])) <|
    .cons (matches_optional (readAs_given (fun _ => takes_isPath) _) (fun _ => rfl)
      (by simp [draft, only])) <|
    .cons (matches_optional (readAs_map (fun parts _ => config.downloader.takes_isWritten parts) _)
      (fun _ => rfl) (by simp [draft, only])) <|
    .cons (matches_optional (readAs_map (fun parts _ => config.extractor.takes_isWritten parts) _)
      (fun _ => rfl) (by simp [draft, only])) <|
    .cons (matches_optional (readAs_map (fun parts _ => config.build.takes_isWritten parts) _)
      (fun _ => rfl) (by simp [draft, only])) <|
    .cons (matches_optional
      (readAs_given (fun _ => takes_isListOf fun e _ => Exclusion.takes_isWritten e) _)
      (fun _ => rfl) (by simp [draft, only])) <|
    .cons (matches_optional
      (readAs_map (fun parts _ => config.instrumenter.takes_isWritten parts) _)
      (fun _ => rfl) (by simp [draft, only])) .nil
  have hbuild : record.build ((config.only parts).draft (config.fields parts).has) =
      config.only parts := by
    simp [record, draft, fields, Fields.has, only]
  rw [← hbuild]
  exact Record.takes_isObject hfields (by decide) rfl h

theorem parse_eq {v : Value} {s : String} (h : config.IsWritten parts v) (hs : v.IsText s) :
    parse s = .ok (config.only parts) := by
  have hread := config.takes_isWritten parts h []
  rw [List.append_nil] at hread
  simp only [parse, readAll, tokens_of_spells hs, hread]

end Config

end BenchCheckout
