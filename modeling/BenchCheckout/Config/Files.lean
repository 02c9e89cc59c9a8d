import BenchCheckout.Action
import BenchCheckout.Config.Reader
import BenchCheckout.Config.Writer

/-!
# Config files

A config is read from a file that is named, or from the config file of a directory, where a missing
one means the defaults. `Config.init` writes the defaults to a directory and keeps a file that is
there already.
-/

namespace BenchCheckout.Config

/-- A value that was read, or its failure in the course of an activity. -/
def parsed (activity : Activity) : Except Json.Fault Config → Action Config
  | .ok config => pure config
  | .error fault => Action.fail (.during activity (.json fault))

/-- A config with the environment's values. -/
def overridden (config : Config) : Action Config :=
  fun host w => (.ok (config.applyEnv host.env), w)

/-- The config file of `dir`, or the defaults where there is none. -/
def loadFromDir (dir : String) : Action Config := do
  let path := Path.join dir fileName
  if ← Action.exists? path then
    let content ← Action.orFail (.reading path) (← Action.look (·.readText · path))
    parsed (.parsing path) (Config.parse content)
  else pure .default

/-- The config file of the working directory, under the environment's values. -/
def load : Action Config := do overridden (← loadFromDir ".")

/-- The config file at `path`, under the environment's values. -/
def loadFile (path : String) : Action Config := do
  let content ← Action.orFail (.readingConfigFile path) (← Action.look (·.readText · path))
  overridden (← parsed (.parsingConfigFile path) (Config.parse content))

/-- The config file that is named, or the one of the working directory. -/
def loadChosen : Option String → Action Config
  | some path => loadFile path
  | none => load

/-- The text of a config file with the defaults. -/
def defaultText : String := Config.default.toJson.pretty ++ "\n"

/-- Write the defaults to the config file of `dir`, unless there is one. -/
def init (dir : String) : Action Unit := do
  let path := Path.join dir fileName
  if ← Action.exists? path then
    Action.printLine ((← Action.painted (.hued .yellow) "!") ++ " " ++ fileName ++
      " already exists (skipping)")
  else
    Action.change (.writing path) (.write path defaultText)
    Action.printLine ((← Action.painted (.hued .green) "✓") ++ " Created " ++ fileName ++
      " with default configuration")

end BenchCheckout.Config
