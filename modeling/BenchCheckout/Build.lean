import BenchCheckout.Project
import BenchCheckout.Tool

/-!
# Building a checkout

A build that fails is followed by a patch pass over the manifest and another build, as often as the
config says. `build` tells how many builds it took.
-/

namespace BenchCheckout

/-- Patch the manifest at `path` in place, and tell how many lines were replaced. It is written back
also where no rule named a line. -/
def Manifest.patchFile (path : String) (rules : List PatchRule) : Action Nat := do
  let content ← Action.orFail (.readingManifest path) (← Action.look (·.readText · path))
  let (patched, count) := Manifest.applyRules content rules
  Action.change (.writingManifest path) (.write path patched)
  pure count

namespace Build

/-- Where the log lines of this module come from. -/
def area : String := "d4j_prep::checkout"

/-- What happens between a build that failed and the next one. -/
def patchPass (config : BuildConfig) (project : ProjectId) (dest : String) (attempt : Nat) :
    Action Unit := do
  Action.log ⟨.warn, area, "build failed, patching manifest and retrying",
    [("project", project.text), ("attempt", attempt.repr)]⟩
  let patched ← Manifest.patchFile (Path.join dest config.manifestFile) config.patches
  Action.printLine ("  " ++ (← Action.painted (.hued .yellow) "!") ++ " build failed, patched " ++
    patched.repr ++ " manifest line(s), retrying")

/-- The build `attempt`, and at most so many more after it. -/
def buildFrom (config : BuildConfig) (project : ProjectId) (dest : String) :
    (more attempt : Nat) → Action Nat
  | 0, attempt => do
    if ← config.command.tryRun "build" [] dest then pure attempt
    else Action.failWith (.buildFailed project.text attempt)
  | more + 1, attempt => do
    if ← config.command.tryRun "build" [] dest then pure attempt
    else
      patchPass config project dest attempt
      buildFrom config project dest more (attempt + 1)

end Build

/-- Build the checkout in `dest`, and tell how many builds it took. There is one build more than
retries; it is counted in 32 bits, so with the greatest number of retries none is left. -/
def build (config : Config) (project : ProjectId) (dest : String) : Action Nat :=
  match (config.build.retries + 1).toNat with
  | 0 => Action.failWith (.buildFailed project.text 0)
  | more + 1 => Build.buildFrom config.build project dest more 1

end BenchCheckout
