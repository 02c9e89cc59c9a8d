import BenchCheckout.Proofs.Checkout.Stages

/-!
# Builds and the patch passes between them

A `Round` is a build that fails and the patch pass behind it that succeeds. `Ends` is how a build
can end after so many rounds: it succeeds, it has failed as often as it may, it cannot be started,
or the manifest cannot be read or written.

* `Build.outcome_of_rounds`: the rounds that are possible are the ones that are made.
* `Build.outcome_eq_iff_ends`: what a build comes to is the one end that the rounds lead to.
* `Build.ends_of_build`: what this means for results, jobs and changes.
-/

namespace BenchCheckout

open BenchCheckout.Action

/-! ## Steps -/

/-- A tool that may fail is one job. -/
theorem ToolCommand.outcome_tryRun (tool : ToolCommand) (step : String)
    (bindings : List Template.Binding) (cwd : String) (host : Host) (t : FileTree) :
    (tool.tryRun step bindings cwd).outcome host t =
      ⟨((host.launch (tool.job bindings cwd) t).outcome.map (·.isSuccess)).mapError fun fault =>
          .ofCause (.notStarted step tool.program fault),
        (host.launch (tool.job bindings cwd) t).files,
        [.launched (tool.job bindings cwd) (host.launch (tool.job bindings cwd) t).outcome
          (host.launch (tool.job bindings cwd) t).files]⟩ := by
  unfold tryRun
  rw [outcome_bind, outcome_status]
  cases (host.launch (tool.job bindings cwd) t).outcome <;> rfl

namespace Build

variable (config : BuildConfig) (project : ProjectId) (dest : String) (host : Host)

/-- The job that a build is. -/
def buildJob : Job := config.command.job [] dest

/-- The manifest that is patched. -/
def manifest : String := Path.join dest config.manifestFile

/-- What a build makes of the files. -/
def run (t : FileTree) : Run := host.launch (buildJob config dest) t

def runEvent (t : FileTree) : Event :=
  .launched (buildJob config dest) (run config dest host t).outcome (run config dest host t).files

/-- The change that a patch pass makes to a manifest with this content. -/
def patching (content : String) : Call :=
  .write (manifest config dest) (Manifest.applyRules content config.patches).1

/-- The build ends, and without success. -/
def Fails (t : FileTree) : Prop :=
  ∃ status, (run config dest host t).outcome = .ok status ∧ status.isSuccess = false

/-- What the manifest reads as behind a build. -/
def contentAfter (t : FileTree) : Except Fault String :=
  (run config dest host t).files.readText host.cwd (manifest config dest)

/-- A patch pass is one reading and one change. -/
theorem outcome_patchPass (attempt : Nat) (t : FileTree) :
    (patchPass config project dest attempt).outcome host t =
      match t.readText host.cwd (manifest config dest) with
      | .error fault => .failure (.during (.readingManifest (manifest config dest)) (.file fault)) t
      | .ok content =>
        (change (.writingManifest (manifest config dest)) (patching config dest content)).outcome
          host t := by
  unfold patchPass Manifest.patchFile patching manifest
  rw [outcome_bind, outcome_log, Outcome.value_andThen, outcome_bind, outcome_bind, outcome_look,
    Outcome.value_andThen, outcome_bind, outcome_orFail]
  cases t.readText host.cwd (Path.join dest config.manifestFile) with
  | error fault => rfl
  | ok content =>
    simp only [Except.mapError, Outcome.ok_andThen]
    rw [outcome_bind, outcome_change]
    cases (Call.perform host.cwd (.write (Path.join dest config.manifestFile)
      (Manifest.applyRules content config.patches).1) t).1 <;> rfl

/-! ## The cases of one build -/

section Cases

variable {config project dest host} {t u : FileTree}

/-- A build that fails, and the patch pass behind it that succeeds. -/
inductive Round (config : BuildConfig) (dest : String) (host : Host) (t : FileTree) :
    List Event → FileTree → Prop where
  | mk {content : String} {u : FileTree} (fails : Fails config dest host t)
      (reads : contentAfter config dest host t = .ok content)
      (writes : (patching config dest content).perform host.cwd (run config dest host t).files =
        (.ok (), u)) :
      Round config dest host t
        [runEvent config dest host t, .changed (patching config dest content) (.ok ()) u] u

theorem outcome_of_success (more attempt : Nat)
    (h : (run config dest host t).outcome = .ok (.exited 0)) :
    (buildFrom config project dest more attempt).outcome host t =
      ⟨.ok attempt, (run config dest host t).files, [runEvent config dest host t]⟩ := by
  have hrun := ToolCommand.outcome_tryRun config.command "build" [] dest host t
  rw [show (host.launch (config.command.job [] dest) t).outcome = .ok (.exited 0) from h] at hrun
  cases more <;>
  · rw [buildFrom, outcome_bind, hrun, runEvent, h]
    rfl

theorem outcome_of_notStarted {fault : Fault} (more attempt : Nat)
    (h : (run config dest host t).outcome = .error fault) :
    (buildFrom config project dest more attempt).outcome host t =
      ⟨.error (.ofCause (.notStarted "build" config.command.program fault)),
        (run config dest host t).files, [runEvent config dest host t]⟩ := by
  have hrun := ToolCommand.outcome_tryRun config.command "build" [] dest host t
  rw [show (host.launch (config.command.job [] dest) t).outcome = .error fault from h] at hrun
  cases more <;>
  · rw [buildFrom, outcome_bind, hrun, runEvent, h]
    rfl

/-- A build that fails says so itself, or leaves it to what comes behind it. -/
theorem outcome_of_fails (h : Fails config dest host t) :
    (config.command.tryRun "build" [] dest).outcome host t =
      ⟨.ok false, (run config dest host t).files, [runEvent config dest host t]⟩ := by
  obtain ⟨status, hs, hf⟩ := h
  rw [ToolCommand.outcome_tryRun, runEvent, hs,
    show (host.launch (config.command.job [] dest) t).outcome = .ok status from hs, ← hf]
  rfl

theorem outcome_of_last (attempt : Nat) (h : Fails config dest host t) :
    (buildFrom config project dest 0 attempt).outcome host t =
      ⟨.error (.ofCause (.buildFailed project.text attempt)), (run config dest host t).files,
        [runEvent config dest host t]⟩ := by
  rw [buildFrom, outcome_bind, outcome_of_fails h]
  rfl

/-- Behind a build that fails and is not the last comes a patch pass, and then the next build. -/
theorem outcome_of_more (more attempt : Nat) (h : Fails config dest host t) :
    (buildFrom config project dest (more + 1) attempt).outcome host t =
      (⟨.ok (), (run config dest host t).files, [runEvent config dest host t]⟩ :
        Outcome Unit).andThen fun _ u =>
          ((patchPass config project dest attempt).outcome host u).andThen fun _ v =>
            (buildFrom config project dest more (attempt + 1)).outcome host v := by
  rw [buildFrom, outcome_bind, outcome_of_fails h, Outcome.ok_andThen, Outcome.ok_andThen,
    if_neg (by simp), outcome_bind]

theorem outcome_of_unreadable {fault : Fault} (more attempt : Nat) (h : Fails config dest host t)
    (hr : contentAfter config dest host t = .error fault) :
    (buildFrom config project dest (more + 1) attempt).outcome host t =
      ⟨.error (.during (.readingManifest (manifest config dest)) (.file fault)),
        (run config dest host t).files, [runEvent config dest host t]⟩ := by
  rw [outcome_of_more more attempt h, Outcome.ok_andThen, outcome_patchPass,
    show (run config dest host t).files.readText host.cwd (manifest config dest) = .error fault
      from hr]
  rfl

theorem outcome_of_unwritable {fault : Fault} {content : String} (more attempt : Nat)
    (h : Fails config dest host t) (hr : contentAfter config dest host t = .ok content)
    (hw : (patching config dest content).perform host.cwd (run config dest host t).files =
      (.error fault, u)) :
    (buildFrom config project dest (more + 1) attempt).outcome host t =
      ⟨.error (.during (.writingManifest (manifest config dest)) (.file fault)), u,
        [runEvent config dest host t,
          .changed (patching config dest content) (.error fault) u]⟩ := by
  rw [outcome_of_more more attempt h, Outcome.ok_andThen, outcome_patchPass,
    show (run config dest host t).files.readText host.cwd (manifest config dest) = .ok content
      from hr]
  simp only
  rw [outcome_change, hw]
  rfl

theorem outcome_of_round {events : List Event} (more attempt : Nat)
    (h : Round config dest host t events u) :
    (buildFrom config project dest (more + 1) attempt).outcome host t =
      (⟨.ok (), u, events⟩ : Outcome Unit).andThen fun _ v =>
        (buildFrom config project dest more (attempt + 1)).outcome host v := by
  obtain ⟨fails, reads, writes⟩ := h
  rename_i content
  rw [outcome_of_more more attempt fails, Outcome.ok_andThen, outcome_patchPass,
    show (run config dest host t).files.readText host.cwd (manifest config dest) = .ok content
      from reads]
  simp only
  rw [outcome_change, writes]
  rfl

end Cases

/-! ## Rounds -/

/-- So many rounds, one after the other. -/
inductive Rounds (config : BuildConfig) (dest : String) (host : Host) :
    Nat → FileTree → List Event → FileTree → Prop where
  | none (t : FileTree) : Rounds config dest host 0 t [] t
  | next {n : Nat} {t u v : FileTree} {before after : List Event}
      (round : Round config dest host t before u) (rounds : Rounds config dest host n u after v) :
      Rounds config dest host (n + 1) t (before ++ after) v

/-- How a build ends that may be made `allowed` times, and whose attempts count from `first`. -/
inductive Ends (config : BuildConfig) (project : ProjectId) (dest : String) (host : Host)
    (allowed first : Nat) (t : FileTree) : Outcome Nat → Prop where
  | success {n : Nat} {u : FileTree} {history : List Event}
      (rounds : Rounds config dest host n t history u) (le : n < allowed)
      (succeeds : (run config dest host u).outcome = .ok (.exited 0)) :
      Ends config project dest host allowed first t
        ⟨.ok (first + n), (run config dest host u).files, history ++ [runEvent config dest host u]⟩
  | gaveUp {n : Nat} {u : FileTree} {history : List Event}
      (rounds : Rounds config dest host n t history u) (last : n + 1 = allowed)
      (fails : Fails config dest host u) :
      Ends config project dest host allowed first t
        ⟨.error (.ofCause (.buildFailed project.text (first + n))),
          (run config dest host u).files, history ++ [runEvent config dest host u]⟩
  | notStarted {n : Nat} {u : FileTree} {history : List Event} {fault : Fault}
      (rounds : Rounds config dest host n t history u) (le : n < allowed)
      (starts : (run config dest host u).outcome = .error fault) :
      Ends config project dest host allowed first t
        ⟨.error (.ofCause (.notStarted "build" config.command.program fault)),
          (run config dest host u).files, history ++ [runEvent config dest host u]⟩
  | unreadable {n : Nat} {u : FileTree} {history : List Event} {fault : Fault}
      (rounds : Rounds config dest host n t history u) (more : n + 1 < allowed)
      (fails : Fails config dest host u) (reads : contentAfter config dest host u = .error fault) :
      Ends config project dest host allowed first t
        ⟨.error (.during (.readingManifest (manifest config dest)) (.file fault)),
          (run config dest host u).files, history ++ [runEvent config dest host u]⟩
  | unwritable {n : Nat} {u v : FileTree} {history : List Event} {fault : Fault} {content : String}
      (rounds : Rounds config dest host n t history u) (more : n + 1 < allowed)
      (fails : Fails config dest host u) (reads : contentAfter config dest host u = .ok content)
      (writes : (patching config dest content).perform host.cwd (run config dest host u).files =
        (.error fault, v)) :
      Ends config project dest host allowed first t
        ⟨.error (.during (.writingManifest (manifest config dest)) (.file fault)), v,
          history ++ [runEvent config dest host u,
            .changed (patching config dest content) (.error fault) v]⟩

section Ends

variable {config project dest host} {t u : FileTree} {n allowed first : Nat}
  {history : List Event} {o : Outcome Nat}

/-- Rounds that are possible are made, and the build goes on behind them. -/
theorem outcome_of_rounds (h : Rounds config dest host n t history u) (more first : Nat) :
    (buildFrom config project dest (n + more) first).outcome host t =
      (⟨.ok (), u, history⟩ : Outcome Unit).andThen fun _ v =>
        (buildFrom config project dest more (first + n)).outcome host v := by
  induction h generalizing first with
  | none t => simp [Outcome.ok_andThen]
  | @next n t u v before after round _ ih =>
    rw [show n + 1 + more = (n + more) + 1 by omega, outcome_of_round _ _ round,
      Outcome.ok_andThen, ih (first + 1), show first + 1 + n = first + (n + 1) by omega,
      Outcome.ok_andThen, Outcome.ok_andThen, List.append_assoc]

/-- One round more in front of all others. -/
theorem Ends.after {before : List Event} (h : Round config dest host t before u)
    (he : Ends config project dest host allowed (first + 1) u o) :
    Ends config project dest host (allowed + 1) first t
      ((⟨.ok (), u, before⟩ : Outcome Unit).andThen fun _ _ => o) := by
  have hcount (n : Nat) : first + 1 + n = first + (n + 1) := by omega
  cases he with
  | success rounds le succeeds =>
    rw [hcount, Outcome.ok_andThen, ← List.append_assoc]
    exact .success (.next h rounds) (by omega) succeeds
  | gaveUp rounds last fails =>
    rw [hcount, Outcome.ok_andThen, ← List.append_assoc]
    exact .gaveUp (.next h rounds) (by omega) fails
  | notStarted rounds le starts =>
    rw [Outcome.ok_andThen, ← List.append_assoc]
    exact .notStarted (.next h rounds) (by omega) starts
  | unreadable rounds more fails reads =>
    rw [Outcome.ok_andThen, ← List.append_assoc]
    exact .unreadable (.next h rounds) (by omega) fails reads
  | unwritable rounds more fails reads writes =>
    rw [Outcome.ok_andThen, ← List.append_assoc]
    exact .unwritable (.next h rounds) (by omega) fails reads writes

/-- A build that does not fail is the last one, however many are allowed. -/
theorem ends_of_not_fails (h : ¬ Fails config dest host t) (more first : Nat) :
    Ends config project dest host (more + 1) first t
      ((buildFrom config project dest more first).outcome host t) := by
  cases hrun : (run config dest host t).outcome with
  | error fault =>
    rw [outcome_of_notStarted _ _ hrun]
    exact .notStarted (.none t) (by omega) hrun
  | ok status =>
    have hs : status = .exited 0 := by
      by_contra hne
      exact h ⟨status, hrun, by simpa [ExitStatus.isSuccess] using hne⟩
    rw [outcome_of_success _ _ (hs ▸ hrun)]
    exact .success (.none t) (by omega) (hs ▸ hrun)

/-- Every build ends. The induction follows the builds that are left. -/
theorem ends (config : BuildConfig) (project : ProjectId) (dest : String) (host : Host)
    (more first : Nat) (t : FileTree) :
    Ends config project dest host (more + 1) first t
      ((buildFrom config project dest more first).outcome host t) := by
  induction more generalizing first t with
  | zero =>
    by_cases hf : Fails config dest host t
    · rw [outcome_of_last _ hf]
      exact .gaveUp (.none t) (by omega) hf
    · exact ends_of_not_fails hf 0 first
  | succ more ih =>
    by_cases hf : Fails config dest host t
    · cases hr : contentAfter config dest host t with
      | error fault =>
        rw [outcome_of_unreadable _ _ hf hr]
        exact .unreadable (.none t) (by omega) hf hr
      | ok content =>
        rcases hw : (patching config dest content).perform host.cwd
          (run config dest host t).files with ⟨fault | _, u⟩
        · rw [outcome_of_unwritable _ _ hf hr hw]
          exact .unwritable (.none t) (by omega) hf hr hw
        · rw [outcome_of_round _ _ (.mk hf hr hw)]
          exact (ih (first + 1) u).after (.mk hf hr hw)
    · exact ends_of_not_fails hf (more + 1) first

/-- There is only one end. -/
theorem Ends.outcome_eq {more : Nat} (h : Ends config project dest host (more + 1) first t o) :
    (buildFrom config project dest more first).outcome host t = o := by
  cases h with
  | @success n u history rounds le succeeds =>
    rw [show more = n + (more - n) by omega, outcome_of_rounds rounds, Outcome.ok_andThen,
      outcome_of_success _ _ succeeds]
  | @gaveUp n u history rounds last fails =>
    obtain rfl : n = more := by omega
    have hrounds : (buildFrom config project dest (n + 0) first).outcome host t = _ :=
      outcome_of_rounds rounds 0 first
    rwa [Outcome.ok_andThen, outcome_of_last _ fails] at hrounds
  | @notStarted n u history fault rounds le starts =>
    rw [show more = n + (more - n) by omega, outcome_of_rounds rounds, Outcome.ok_andThen,
      outcome_of_notStarted _ _ starts]
  | @unreadable n u history fault rounds le fails reads =>
    rw [show more = n + ((more - n - 1) + 1) by omega, outcome_of_rounds rounds, Outcome.ok_andThen,
      outcome_of_unreadable _ _ fails reads]
  | @unwritable n u v history fault content rounds le fails reads writes =>
    rw [show more = n + ((more - n - 1) + 1) by omega, outcome_of_rounds rounds, Outcome.ok_andThen,
      outcome_of_unwritable _ _ fails reads writes]

theorem outcome_eq_iff_ends (more : Nat) :
    (buildFrom config project dest more first).outcome host t = o ↔
      Ends config project dest host (more + 1) first t o :=
  ⟨fun h => h ▸ ends config project dest host more first t, Ends.outcome_eq⟩

end Ends

/-! ## What a history looks like -/

/-- Builds, and between a build and the next one patch pass that succeeds. -/
inductive ByTurns (config : BuildConfig) (dest : String) : List Event → Prop where
  | last (r : Except Fault ExitStatus) (u : FileTree) :
      ByTurns config dest [.launched (buildJob config dest) r u]
  | next {history : List Event} (status : ExitStatus) (content : String) (u v : FileTree)
      (rest : ByTurns config dest history) :
      ByTurns config dest (.launched (buildJob config dest) (.ok status) u ::
        .changed (patching config dest content) (.ok ()) v :: history)

/-- A build that fails, or a change that succeeds. -/
def GoesOn : Event → Prop
  | .launched _ r _ => ∃ status, r = .ok status ∧ status.isSuccess = false
  | .changed _ r _ => r = .ok ()

section Histories

variable {config : BuildConfig} {dest : String} {host : Host} {t u : FileTree} {n : Nat}
  {history : List Event}

theorem Rounds.byTurns (h : Rounds config dest host n t history u) :
    ByTurns config dest (history ++ [runEvent config dest host u]) := by
  induction h with
  | none t => exact .last _ _
  | next round _ ih =>
    obtain ⟨⟨status, hs, -⟩, -, -⟩ := round
    rw [List.append_assoc, runEvent, hs]
    exact .next _ _ _ _ ih

theorem Rounds.jobs_eq (h : Rounds config dest host n t history u) :
    history.filterMap (·.job?) = List.replicate n (buildJob config dest) := by
  induction h with
  | none t => rfl
  | next round _ ih =>
    obtain ⟨-, -, -⟩ := round
    rw [List.filterMap_append, ih]
    rfl

theorem Rounds.length_calls (h : Rounds config dest host n t history u) :
    (history.filterMap (·.call?)).length = n := by
  induction h with
  | none t => rfl
  | next round _ ih =>
    obtain ⟨-, -, -⟩ := round
    rw [List.filterMap_append, List.length_append, ih, Nat.add_comm]
    rfl

theorem Rounds.goesOn (h : Rounds config dest host n t history u) : ∀ e ∈ history, GoesOn e := by
  induction h with
  | none t => nofun
  | next round _ ih =>
    obtain ⟨fails, -, -⟩ := round
    intro e he
    rcases List.mem_append.mp he with he | he
    · rcases List.mem_cons.mp he with rfl | he
      · exact fails
      · rw [List.mem_singleton.mp he]
        rfl
    · exact ih e he

theorem Rounds.call_eq (h : Rounds config dest host n t history u) :
    ∀ c ∈ history.filterMap (·.call?), ∃ content, c = patching config dest content := by
  induction h with
  | none t => nofun
  | next round _ ih =>
    obtain ⟨-, -, -⟩ := round
    intro c hc
    rw [List.filterMap_append, List.mem_append] at hc
    rcases hc with hc | hc
    · exact ⟨_, List.mem_singleton.mp hc⟩
    · exact ih c hc

/-- A build changes nothing itself but the manifest. -/
theorem Ends.call_eq {project : ProjectId} {allowed first : Nat} {o : Outcome Nat}
    (h : Ends config project dest host allowed first t o) :
    ∀ c ∈ o.calls, ∃ content, c = patching config dest content := by
  cases h with
  | success rounds | gaveUp rounds | notStarted rounds | unreadable rounds =>
    intro c hc
    rw [Outcome.calls, List.filterMap_append, List.mem_append] at hc
    exact hc.elim (rounds.call_eq c) nofun
  | unwritable rounds =>
    intro c hc
    rw [Outcome.calls, List.filterMap_append, List.mem_append] at hc
    exact hc.elim (rounds.call_eq c) fun hc => ⟨_, List.mem_singleton.mp hc⟩

end Histories

/-! ## Main statement -/

/-- The greatest number of retries leaves no build. With any other the first build is followed by as
many as there are retries. -/
theorem outcome_build_cases (config : Config) (project : ProjectId) (dest : String) (host : Host)
    (t : FileTree) :
    ((config.build.retries + 1).toNat = 0 ∧ (build config project dest).outcome host t =
        .failure (.ofCause (.buildFailed project.text 0)) t) ∨
      ∃ more, (config.build.retries + 1).toNat = more + 1 ∧
        (build config project dest).outcome host t =
          (buildFrom config.build project dest more 1).outcome host t := by
  unfold build
  cases (config.build.retries + 1).toNat with
  | zero => exact .inl ⟨rfl, rfl⟩
  | succ more => exact .inr ⟨more, rfl, rfl⟩

/-- A build that may be repeated `retries` times comes to the one end that its rounds lead to. It
takes `k` builds exactly if the build `k` is the first to succeed and the patch passes before it
succeed, and it gives up exactly if as many builds as are allowed fail. A program that cannot be
started or a manifest that cannot be read is the end at once. Builds and patch passes take turns;
only a patch pass that cannot write comes last. -/
theorem ends_of_build (config : Config) (project : ProjectId) (dest : String) (host : Host)
    (t : FileTree) (hretries : config.build.retries < 4294967295) :
    let allowed := (config.build.retries + 1).toNat
    let o := (build config project dest).outcome host t
    (∀ o', o = o' ↔ Ends config.build project dest host allowed 1 t o') ∧
    (∀ k, o.result = .ok k ↔ 1 ≤ k ∧ k ≤ allowed ∧ ∃ history u,
      Rounds config.build dest host (k - 1) t history u ∧
        (run config.build dest host u).outcome = .ok (.exited 0)) ∧
    (∀ attempts, o.result = .error (.ofCause (.buildFailed project.text attempts)) ↔
      attempts = allowed ∧ ∃ history u,
        Rounds config.build dest host config.build.retries.toNat t history u ∧
          Fails config.build dest host u) ∧
    (o.result = .error (.ofCause (.buildFailed project.text allowed)) ↔
      o.jobs.length = allowed ∧ o.calls.length = config.build.retries.toNat ∧
        ∀ e ∈ o.history, GoesOn e) ∧
    (∀ n history u fault, Rounds config.build dest host n t history u → n < allowed →
      (run config.build dest host u).outcome = .error fault →
        o = ⟨.error (.ofCause (.notStarted "build" config.build.command.program fault)),
          (run config.build dest host u).files,
          history ++ [runEvent config.build dest host u]⟩) ∧
    (∀ n history u fault, Rounds config.build dest host n t history u → n + 1 < allowed →
      Fails config.build dest host u → contentAfter config.build dest host u = .error fault →
        o = ⟨.error (.during (.readingManifest (manifest config.build dest)) (.file fault)),
          (run config.build dest host u).files,
          history ++ [runEvent config.build dest host u]⟩) ∧
    ∃ before after, o.history = before ++ after ∧ ByTurns config.build dest before ∧
      (after = [] ∨ ∃ content fault v,
        after = [.changed (patching config.build dest content) (.error fault) v] ∧
          o.result = .error (.during (.writingManifest (manifest config.build dest))
            (.file fault))) := by
  intro allowed o
  have hallowed : allowed = config.build.retries.toNat + 1 := by
    have hlt := UInt32.lt_iff_toNat_lt.mp hretries
    have hmod : allowed = (config.build.retries.toNat + 1) % 4294967296 := UInt32.toNat_add _ _
    rw [show (4294967295 : UInt32).toNat = 4294967295 from rfl] at hlt
    omega
  have hbuild : o = (buildFrom config.build project dest config.build.retries.toNat 1).outcome host
      t := by
    rcases outcome_build_cases config project dest host t with ⟨h, -⟩ | ⟨more, h, ho⟩
    · omega
    · rwa [show more = config.build.retries.toNat by omega] at ho
  have hiff (o' : Outcome Nat) :
      o = o' ↔ Ends config.build project dest host allowed 1 t o' := by
    rw [hallowed, hbuild]
    exact outcome_eq_iff_ends config.build.retries.toNat
  have hends := (hiff o).mp rfl
  refine ⟨hiff, fun k => ⟨fun h => ?_, ?_⟩, fun attempts => ⟨fun h => ?_, ?_⟩, ⟨fun h => ?_, ?_⟩,
    ?_, ?_, ?_⟩
  · clear_value o
    cases hends with
    | @success n u history rounds le succeeds =>
      obtain rfl : 1 + n = k := Except.ok.inj h
      exact ⟨by omega, by omega, history, u, by simpa using rounds, succeeds⟩
    | _ => cases h
  · rintro ⟨hk, hle, history, u, rounds, succeeds⟩
    rw [(hiff _).mpr (.success rounds (by omega) succeeds), show 1 + (k - 1) = k by omega]
  · clear_value o
    cases hends with
    | @gaveUp n u history rounds last fails =>
      have hn : n = config.build.retries.toNat := by omega
      have hcause := (Failure.mk.inj (Except.error.inj h)).2
      exact ⟨by have := (Cause.buildFailed.inj hcause).2; omega, history, u, hn ▸ rounds, fails⟩
    | _ => cases h
  · rintro ⟨rfl, history, u, rounds, fails⟩
    rw [(hiff _).mpr (.gaveUp rounds hallowed.symm fails), show 1 + config.build.retries.toNat =
      allowed by omega]
  · clear_value o
    cases hends with
    | @gaveUp n u history rounds last fails =>
      refine ⟨?_, ?_, ?_⟩
      · rw [Outcome.jobs, List.filterMap_append, rounds.jobs_eq, List.length_append,
          List.length_replicate]
        exact last
      · rw [Outcome.calls, List.filterMap_append, List.length_append, rounds.length_calls]
        show n + 0 = _
        omega
      · intro e he
        rcases List.mem_append.mp he with he | he
        · exact rounds.goesOn e he
        · rw [List.mem_singleton.mp he]
          exact fails
    | _ => cases h
  · rintro ⟨hjobs, hcalls, hgoes⟩
    clear_value o
    cases hends with
    | @success n u history rounds le succeeds =>
      obtain ⟨status, hs, hf⟩ := hgoes (runEvent config.build dest host u) (by simp)
      obtain rfl := Except.ok.inj (hs.symm.trans succeeds)
      cases hf
    | @gaveUp n u history rounds last fails => rw [show 1 + n = allowed by omega]
    | @notStarted n u history fault rounds le starts =>
      obtain ⟨status, hs, -⟩ := hgoes (runEvent config.build dest host u) (by simp)
      cases hs.symm.trans starts
    | @unreadable n u history fault rounds more fails reads =>
      rw [Outcome.jobs, List.filterMap_append, rounds.jobs_eq, List.length_append,
        List.length_replicate] at hjobs
      exact absurd hjobs (Nat.ne_of_lt more)
    | @unwritable n u v history fault content rounds more fails reads writes =>
      cases hgoes (.changed (patching config.build dest content) (.error fault) v) (by simp)
  · intro n history u fault rounds lt starts
    exact (hiff _).mpr (.notStarted rounds lt starts)
  · intro n history u fault rounds lt fails reads
    exact (hiff _).mpr (.unreadable rounds lt fails reads)
  · clear_value o
    cases hends with
    | success rounds | gaveUp rounds | notStarted rounds | unreadable rounds =>
      exact ⟨_, [], (List.append_nil _).symm, rounds.byTurns, .inl rfl⟩
    | unwritable rounds =>
      exact ⟨_, _, (List.append_cons _ _ _), rounds.byTurns, .inr ⟨_, _, _, rfl, rfl⟩⟩

/-- A build that succeeds once the manifest reads `b`. -/
def pickyHost : Host :=
  .plain fun _ t =>
    ⟨.ok (if (t.readText [] "m").toOption = some "b" then .exited 0 else .exited 1), t, "", ""⟩

/-- One patch pass writes `b` for `a`. -/
def pickyConfig : Config :=
  { Config.default with build := ⟨⟨"build", []⟩, "m", 1, [⟨"a", "b"⟩]⟩ }

theorem second_build_succeeds :
    pickyConfig.build.retries < 4294967295 ∧
      ∃ history u,
        Rounds pickyConfig.build "" pickyHost 1
          (FileTree.empty.put [] "m" (.file "a".toUTF8 false none)) history u ∧
        (run pickyConfig.build "" pickyHost u).outcome = .ok (.exited 0) := by
  have hok : ((build pickyConfig lang10 "").outcome pickyHost
      (FileTree.empty.put [] "m" (.file "a".toUTF8 false none))).result = .ok 2 := by decide +kernel
  obtain ⟨-, hsuccess, -⟩ := ends_of_build pickyConfig lang10 "" pickyHost
    (FileTree.empty.put [] "m" (.file "a".toUTF8 false none)) (by decide)
  exact ⟨by decide, ((hsuccess 2).mp hok).2.2⟩

end Build

end BenchCheckout
