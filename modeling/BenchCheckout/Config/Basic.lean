import BenchCheckout.Manifest
import BenchCheckout.Template

/-!
# Configuration

What a config can set, and the values that stand where it sets nothing.
-/

namespace BenchCheckout

/-- An external program with a template for each argument. -/
structure ToolCommand where
  program : String
  args : List String
deriving DecidableEq, Inhabited

/-- The arguments with the placeholders filled in. -/
def ToolCommand.expandArgs (tool : ToolCommand) (bindings : List Template.Binding) : List String :=
  tool.args.map (Template.expand bindings)

structure BuildConfig where
  command : ToolCommand
  /-- The file that the patches change when a build fails, as seen from the checkout. -/
  manifestFile : String
  /-- Patches and repeated builds after the first build that fails. -/
  retries : UInt32
  patches : List PatchRule
deriving DecidableEq, Inhabited

/-- A path that checkouts of one subject leave out, as seen from the extracted project. -/
structure Exclusion where
  subject : String
  path : String
deriving DecidableEq, Inhabited

structure InstrumenterConfig where
  command : ToolCommand
  jar : String
  /-- The instrumenter's own compiled classes. -/
  classesDir : String
  /-- The class that is copied next to the instrumented ones, as seen from both class roots. -/
  supportClass : String
deriving DecidableEq, Inhabited

structure Config where
  /-- Where each subject has a repository of archives. -/
  archiveBaseUrl : String
  /-- Where downloaded archives are kept. -/
  archiveDir : String
  downloader : ToolCommand
  extractor : ToolCommand
  build : BuildConfig
  exclusions : List Exclusion
  instrumenter : InstrumenterConfig
deriving DecidableEq, Inhabited

/-! ## Defaults -/

def BuildConfig.default : BuildConfig where
  command := ⟨"mvn", ["compile"]⟩
  manifestFile := "pom.xml"
  retries := 1
  patches :=
    [⟨"<url>http://repo1.maven.org/maven2</url>", "<url>https://repo1.maven.org/maven2</url>"⟩]

def InstrumenterConfig.default : InstrumenterConfig where
  command :=
    ⟨"java", ["-cp", "\x7bjar\x7d", "kr.ac.unist.apr.InstrumentationMain",
      "\x7binstrumenter_classes\x7d", "\x7btarget_classes\x7d"]⟩
  jar := "/root/project/greybox-APR/build/libs/APR-instrumenter.jar"
  classesDir := "/root/project/greybox-APR/build/classes/java/main"
  supportClass := "kr/ac/unist/apr/GlobalStates.class"

def Config.default : Config where
  archiveBaseUrl := "https://github.com/ali-ghanbari"
  archiveDir := "."
  downloader := ⟨"wget", ["-q", "-O", "\x7boutput\x7d", "\x7burl\x7d"]⟩
  extractor := ⟨"tar", ["-xf", "\x7barchive\x7d"]⟩
  build := .default
  exclusions := [⟨"Lang", "src/test/java/org/apache/commons/lang3/reflect/TypeUtilsTest.java"⟩]
  instrumenter := .default

namespace Config

/-- The paths that checkouts of `subject` leave out, in the order of the config. -/
def exclusionsFor (config : Config) (subject : String) : List String :=
  (config.exclusions.filter (·.subject == subject)).map (·.path)

/-- The name of the config file in a directory. -/
def fileName : String := ".d4jrc.json"

/-! ## Environment -/

/-- The four settings that an environment variable overrides, even by an empty value. -/
def applyEnv (config : Config) (var : String → Option String) : Config :=
  { config with
    archiveBaseUrl := (var "D4J_ARCHIVE_BASE_URL").getD config.archiveBaseUrl
    archiveDir := (var "D4J_ARCHIVE_DIR").getD config.archiveDir
    instrumenter :=
      { config.instrumenter with
        jar := (var "D4J_INSTRUMENTER_JAR").getD config.instrumenter.jar
        classesDir := (var "D4J_INSTRUMENTER_CLASSES").getD config.instrumenter.classesDir } }

end Config

end BenchCheckout
