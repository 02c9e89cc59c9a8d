import BenchCheckout.Proofs.Files.Landing
import BenchCheckout.Proofs.Instrument.Ending

/-!
# What the support class's copy holds

* `Instrument.supportClass_copied`: where instrumenting succeeds, the copy has the bytes that the
  support class had when the instrumenter ended, and so has the support class, unless the two are
  one file.
* `Instrument.supportClass_lost`: copied onto itself, the support class is empty.
-/

namespace BenchCheckout

open FileTree

namespace Instrument

variable {host : Host} {t : FileTree} {source dest : String}

/-- A copy that succeeds is one change of a file, after some directories were added. -/
theorem copyInto_ok (h : ((copyInto source dest).outcome host t).result = .ok (.ok ())) :
    ∃ u, AddsDirectories (fun _ => True) t u ∧
      u.copy host.cwd source dest = .ok ((copyInto source dest).outcome host t).files := by
  have hcopied {u : FileTree} (h : (copied host u source dest).result = .ok (.ok ())) :
      u.copy host.cwd source dest = .ok (copied host u source dest).files := by
    simp only [copied, Call.perform_copy] at h ⊢
    cases hcopy : u.copy host.cwd source dest with
    | error fault => rw [hcopy] at h; cases h
    | ok v => rfl
  rw [outcome_copyInto] at h ⊢
  cases hparent : Path.parent? dest with
  | none =>
    rw [hparent] at h
    exact ⟨t, .refl _ t, hcopied h⟩
  | some dir =>
    rw [hparent] at h
    simp only at h ⊢
    split at h
    · cases h
    · rename_i hmade
      rw [hmade]
      exact ⟨_, createDirs_adds t host.cwd dir, hcopied h⟩

/-- **The support class is copied byte for byte, unless it is copied onto itself.** Where
instrumenting succeeds, the support class is the file that its path leads to in the end. With
`bytes` in it when the instrumenter ended, its copy and itself have `bytes`; but if the two paths
lead to one file, nothing is left in that file. -/
theorem supportClass_copied (config : Config) (raw workspace : String) (host : Host)
    (t : FileTree) {dest : String}
    (h : ((instrument config raw workspace).outcome host t).result = .ok dest) :
    let u := ((instrument config raw workspace).outcome host t).files
    ∃ s : Setup config.instrumenter raw workspace host t,
      s.run.outcome = .ok (.exited 0) ∧ dest = s.dest ∧
      ∃ file bytes executable number,
        s.run.files.get? file = some (.file bytes executable number) ∧
        (∀ held, s.run.files.read host.cwd s.source = .ok held → held = bytes) ∧
        u.locate host.cwd s.source = .ok file ∧
        let left := if u.isOneFile host.cwd s.source dest then ByteArray.empty else bytes
        u.read host.cwd dest = .ok left ∧ u.read host.cwd s.source = .ok left := by
  have hend := ending config raw workspace host t
  generalize (instrument config raw workspace).outcome host t = o at h hend
  cases hend with
  | copied s succeeded hcopy =>
    cases h
    obtain ⟨v, hadds, hv⟩ := copyInto_ok hcopy
    obtain ⟨file, bytes, executable, number, hfind, hfile, hleft⟩ := FileTree.copied hv
    have hbytes : s.run.files.get? file = some (.file bytes executable number) := by
      rcases hadds file with hsame | ⟨-, -, hdir⟩
      · rw [← hsame, (find_eq_ok.mp hfind).2]
      · cases hdir.symm.trans (find_eq_ok.mp hfind).2
    refine ⟨s, succeeded, rfl, file, bytes, executable, number, hbytes, fun held hheld => ?_, hfile,
      hleft⟩
    obtain ⟨l, x, n, hl, he⟩ := read_eq_ok.mp hheld
    have hgrows : s.run.files.Grows v := .of_get? fun k e hk => hadds.get?_of_some hk
    obtain rfl : l = file := by
      have hfound := locate_eq_ok.mpr (find_eq_ok.mp hfind).1
      exact Except.ok.inj ((locate_grows hgrows hl).symm.trans hfound)
    obtain ⟨rfl, -⟩ := Entry.file.inj (Option.some.inj (he.symm.trans hbytes))
    rfl
  | invalidProject => cases h
  | missingClasses => cases h
  | unresolvable => cases h
  | notStarted => cases h
  | unsuccessful => cases h
  | notCopied => cases h

/-! ## Two runs -/

/-- Compiled classes of `Lang_10` in `/home/u/w`, with a class `S` there and another in `/home/c`. -/
def suppliedTree : FileTree :=
  ((compiledTree.put ["home"] "c" .directory).put ["home", "c"] "S.class"
    (.file "supplied".toUTF8 false none)).put ["home", "u", "w", "Lang_10", "target", "classes"]
      "S.class" (.file "compiled".toUTF8 false none)

/-- The instrumenter's own classes are in `classesDir`, and its support class is `S`. -/
def suppliedConfig (classesDir : String) : Config :=
  { Config.default with
    instrumenter :=
      { InstrumenterConfig.default with classesDir := classesDir, supportClass := "S.class" } }

theorem supportClass_supplied :
    let o := (instrument (suppliedConfig "../c") "Lang_10" "w").outcome homeHost suppliedTree
    o.result = .ok "/home/u/w/Lang_10/target/classes/S.class" ∧
      o.files.read homeHost.cwd "/home/u/w/Lang_10/target/classes/S.class" =
        .ok "supplied".toUTF8 ∧
      o.files.read homeHost.cwd "/home/u/../c/S.class" = .ok "supplied".toUTF8 := by
  intro o
  have hrun : o.result = .ok "/home/u/w/Lang_10/target/classes/S.class" ∧
      o.files.isOneFile homeHost.cwd "/home/u/../c/S.class"
        "/home/u/w/Lang_10/target/classes/S.class" = false := by decide +kernel
  obtain ⟨hresult, hone⟩ := hrun
  obtain ⟨s, -, -, file, bytes, x, n, -, hheld, -, hleft⟩ :=
    supportClass_copied (suppliedConfig "../c") "Lang_10" "w" homeHost suppliedTree hresult
  have hown : suppliedTree.absolute homeHost.cwd "../c" = .ok "/home/u/../c" := by decide +kernel
  have hs : s.source = "/home/u/../c/S.class" := by
    unfold Setup.source
    rw [← Except.ok.inj (hown.symm.trans s.own_eq)]
    decide +kernel
  have hread : suppliedTree.read homeHost.cwd "/home/u/../c/S.class" = .ok "supplied".toUTF8 := by
    decide +kernel
  rw [hs] at hheld hleft
  obtain rfl := hheld _ hread
  have hbytes : (if o.files.isOneFile homeHost.cwd "/home/u/../c/S.class"
      "/home/u/w/Lang_10/target/classes/S.class" then ByteArray.empty else "supplied".toUTF8) =
        "supplied".toUTF8 := by rw [hone]; rfl
  exact ⟨hresult, hleft.1.trans (congrArg _ hbytes), hleft.2.trans (congrArg _ hbytes)⟩

/-- With the checkout's own classes for the instrumenter's, the support class is copied onto itself:
instrumenting succeeds, and the class is empty. -/
theorem supportClass_lost :
    let o := (instrument (suppliedConfig "w/Lang_10/target/classes") "Lang_10" "w").outcome homeHost
      suppliedTree
    (∀ job, (homeHost.launch job suppliedTree).files = suppliedTree) ∧
    suppliedTree.read homeHost.cwd "w/Lang_10/target/classes/S.class" = .ok "compiled".toUTF8 ∧
    o.result = .ok "/home/u/w/Lang_10/target/classes/S.class" ∧
    o.files.read homeHost.cwd "/home/u/w/Lang_10/target/classes/S.class" = .ok .empty :=
  ⟨fun _ => rfl, by decide +kernel⟩

end Instrument

end BenchCheckout
