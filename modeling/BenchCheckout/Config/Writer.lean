import BenchCheckout.Config.Basic
import BenchCheckout.Json.Value

/-!
# Writing a config

Every field is written, in the order of its declaration, also where it has its default.
-/

namespace BenchCheckout

open Json (Value)

def ToolCommand.toJson (tool : ToolCommand) : Value :=
  .object [("program", .text tool.program), ("args", .list (tool.args.map .text))]

def PatchRule.toJson (rule : PatchRule) : Value :=
  .object [("line", .text rule.line), ("replacement", .text rule.replacement)]

def Exclusion.toJson (exclusion : Exclusion) : Value :=
  .object [("subject", .text exclusion.subject), ("path", .text exclusion.path)]

def BuildConfig.toJson (build : BuildConfig) : Value :=
  .object [("command", build.command.toJson), ("manifest_file", .text build.manifestFile),
    ("retries", .ofNat build.retries.toNat), ("patches", .list (build.patches.map (·.toJson)))]

def InstrumenterConfig.toJson (instrumenter : InstrumenterConfig) : Value :=
  .object [("command", instrumenter.command.toJson), ("jar", .text instrumenter.jar),
    ("classes_dir", .text instrumenter.classesDir),
    ("support_class", .text instrumenter.supportClass)]

def Config.toJson (config : Config) : Value :=
  .object [("archive_base_url", .text config.archiveBaseUrl),
    ("archive_dir", .text config.archiveDir), ("downloader", config.downloader.toJson),
    ("extractor", config.extractor.toJson), ("build", config.build.toJson),
    ("exclusions", .list (config.exclusions.map (·.toJson))),
    ("instrumenter", config.instrumenter.toJson)]

end BenchCheckout
