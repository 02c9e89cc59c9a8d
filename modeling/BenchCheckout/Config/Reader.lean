import BenchCheckout.Config.Basic
import BenchCheckout.Json.Reader

/-!
# Reading a config

Every structure of a config is a `Json.Record`. A draft holds the fields that the text gives; a
field that it does not give takes its default when the structure is built.
-/

namespace BenchCheckout

open Json (Field Reader Record)

/-- A field that is kept as an option in the draft. -/
def Json.Field.optional {σ α : Type} (name : String) (get : σ → Option α) (set : σ → α → σ)
    (read : Reader α) : Field σ where
  name := name
  required := false
  isSet draft := (get draft).isSome
  read ts := (read ts).map fun (x, ts) => ((set · x), ts)

def Json.Field.mandatory {σ α : Type} (name : String) (get : σ → Option α) (set : σ → α → σ)
    (read : Reader α) : Field σ :=
  { Field.optional name get set read with required := true }

/-! ## Tool commands -/

structure ToolCommand.Draft where
  program : Option String
  args : Option (List String)

/-- Arguments that are left out are no arguments, whatever the tool. -/
def ToolCommand.record : Record ToolCommand.Draft ToolCommand where
  name := "ToolCommand"
  fields := [
    .mandatory "program" (·.program) (fun d x => { d with program := some x }) Reader.string,
    .optional "args" (·.args) (fun d x => { d with args := some x }) (Reader.list Reader.string)]
  blank := ⟨none, none⟩
  build d := ⟨d.program.getD "", d.args.getD []⟩

/-! ## Patch rules and exclusions -/

structure PatchRule.Draft where
  line : Option String
  replacement : Option String

def PatchRule.record : Record PatchRule.Draft PatchRule where
  name := "PatchRule"
  fields := [
    .mandatory "line" (·.line) (fun d x => { d with line := some x }) Reader.string,
    .mandatory "replacement" (·.replacement) (fun d x => { d with replacement := some x })
      Reader.string]
  blank := ⟨none, none⟩
  build d := ⟨d.line.getD "", d.replacement.getD ""⟩

structure Exclusion.Draft where
  subject : Option String
  path : Option String

def Exclusion.record : Record Exclusion.Draft Exclusion where
  name := "Exclusion"
  fields := [
    .mandatory "subject" (·.subject) (fun d x => { d with subject := some x }) Reader.string,
    .mandatory "path" (·.path) (fun d x => { d with path := some x }) Reader.path]
  blank := ⟨none, none⟩
  build d := ⟨d.subject.getD "", d.path.getD ""⟩

/-! ## The build -/

structure BuildConfig.Draft where
  command : Option ToolCommand
  manifestFile : Option String
  retries : Option UInt32
  patches : Option (List PatchRule)

def BuildConfig.record : Record BuildConfig.Draft BuildConfig where
  name := "BuildConfig"
  fields := [
    .optional "command" (·.command) (fun d x => { d with command := some x })
      ToolCommand.record.read,
    .optional "manifest_file" (·.manifestFile) (fun d x => { d with manifestFile := some x })
      Reader.string,
    .optional "retries" (·.retries) (fun d x => { d with retries := some x }) Reader.word32,
    .optional "patches" (·.patches) (fun d x => { d with patches := some x })
      (Reader.list PatchRule.record.read)]
  blank := ⟨none, none, none, none⟩
  build d :=
    { command := d.command.getD BuildConfig.default.command
      manifestFile := d.manifestFile.getD BuildConfig.default.manifestFile
      retries := d.retries.getD BuildConfig.default.retries
      patches := d.patches.getD BuildConfig.default.patches }

/-! ## The instrumenter -/

structure InstrumenterConfig.Draft where
  command : Option ToolCommand
  jar : Option String
  classesDir : Option String
  supportClass : Option String

def InstrumenterConfig.record : Record InstrumenterConfig.Draft InstrumenterConfig where
  name := "InstrumenterConfig"
  fields := [
    .optional "command" (·.command) (fun d x => { d with command := some x })
      ToolCommand.record.read,
    .optional "jar" (·.jar) (fun d x => { d with jar := some x }) Reader.path,
    .optional "classes_dir" (·.classesDir) (fun d x => { d with classesDir := some x })
      Reader.path,
    .optional "support_class" (·.supportClass) (fun d x => { d with supportClass := some x })
      Reader.path]
  blank := ⟨none, none, none, none⟩
  build d :=
    { command := d.command.getD InstrumenterConfig.default.command
      jar := d.jar.getD InstrumenterConfig.default.jar
      classesDir := d.classesDir.getD InstrumenterConfig.default.classesDir
      supportClass := d.supportClass.getD InstrumenterConfig.default.supportClass }

/-! ## The whole config -/

structure Config.Draft where
  archiveBaseUrl : Option String
  archiveDir : Option String
  downloader : Option ToolCommand
  extractor : Option ToolCommand
  build : Option BuildConfig
  exclusions : Option (List Exclusion)
  instrumenter : Option InstrumenterConfig

def Config.record : Record Config.Draft Config where
  name := "Config"
  fields := [
    .optional "archive_base_url" (·.archiveBaseUrl) (fun d x => { d with archiveBaseUrl := some x })
      Reader.string,
    .optional "archive_dir" (·.archiveDir) (fun d x => { d with archiveDir := some x }) Reader.path,
    .optional "downloader" (·.downloader) (fun d x => { d with downloader := some x })
      ToolCommand.record.read,
    .optional "extractor" (·.extractor) (fun d x => { d with extractor := some x })
      ToolCommand.record.read,
    .optional "build" (·.build) (fun d x => { d with build := some x }) BuildConfig.record.read,
    .optional "exclusions" (·.exclusions) (fun d x => { d with exclusions := some x })
      (Reader.list Exclusion.record.read),
    .optional "instrumenter" (·.instrumenter) (fun d x => { d with instrumenter := some x })
      InstrumenterConfig.record.read]
  blank := ⟨none, none, none, none, none, none, none⟩
  build d :=
    { archiveBaseUrl := d.archiveBaseUrl.getD Config.default.archiveBaseUrl
      archiveDir := d.archiveDir.getD Config.default.archiveDir
      downloader := d.downloader.getD Config.default.downloader
      extractor := d.extractor.getD Config.default.extractor
      build := d.build.getD Config.default.build
      exclusions := d.exclusions.getD Config.default.exclusions
      instrumenter := d.instrumenter.getD Config.default.instrumenter }

/-- The config that a text describes. -/
def Config.parse (s : String) : Except Json.Fault Config := Json.readAll Config.record.read s

end BenchCheckout
