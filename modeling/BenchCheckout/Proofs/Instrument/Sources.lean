import BenchCheckout.Proofs.Files.Regular
import BenchCheckout.Proofs.Instrument.Copying

/-!
# What instrumenting goes by

The jar and the support class are there before instrumenting begins. Their absolute paths lead to
them from everywhere, and as nothing that a copy does takes anything away, they lead there to the
end.

* `Instrument.grows_of_copyInto`: a copy takes nothing away.
* `Instrument.copyInto_cases`: where the source of a copy is a file, only the destination can be in
  the way.
* `Instrument.Setup.uses`: an instrumenter that leaves the files alone, and the copy behind it, go
  by the jar and the support class that were there before.
-/

namespace BenchCheckout

open FileTree

namespace Instrument

variable {config : InstrumenterConfig} {raw workspace : String} {host : Host} {t : FileTree}

/-! ## Copies -/

theorem grows_perform_copy (cwd : Location) (t : FileTree) (source dest : String) :
    t.Grows (Call.perform cwd (.copy source dest) t).2 := by
  rw [Call.perform_copy]
  cases hcopy : t.copy cwd source dest with
  | error fault => exact .refl t
  | ok u =>
    obtain ⟨a, b, bytes, x, n, -, hl, rfl⟩ := copy_eq_ok hcopy
    exact grows_fill hl

theorem grows_createDirs (cwd : Location) (t : FileTree) (dir : String) :
    t.Grows (Call.perform cwd (.createDirs dir) t).2 :=
  .of_get? fun _ _ hk => (createDirs_adds t cwd dir).get?_of_some hk

/-- A copy takes nothing away, however far it gets. -/
theorem grows_of_copyInto (host : Host) (t : FileTree) (source dest : String) :
    ∀ e ∈ ((copyInto source dest).outcome host t).history, t.Grows e.files := by
  rw [outcome_copyInto]
  cases Path.parent? dest with
  | none =>
    intro e he
    rw [List.mem_singleton.mp he]
    exact grows_perform_copy host.cwd t source dest
  | some dir =>
    have hmade := grows_createDirs host.cwd t dir
    simp only
    split
    · intro e he
      rw [List.mem_singleton.mp he]
      exact hmade
    · intro e he
      rcases List.mem_cons.mp he with rfl | he
      · exact hmade
      · rw [List.mem_singleton.mp he]
        exact hmade.trans (grows_perform_copy host.cwd _ source dest)

/-- A copy to `dest` cannot be made from the files `t` on, whatever is copied. -/
inductive IsRefused (cwd : Location) (dest : String) (t : FileTree) : Fault → Prop where
  | above {dir : String} {fault : Fault} (parent_eq : Path.parent? dest = some dir)
    (h : (Call.perform cwd (.createDirs dir) t).1 = .error fault) : IsRefused cwd dest t fault
  | dest {u : FileTree} {fault : Fault} (grows : t.Grows u)
    (h : u.landing cwd dest = .error fault) : IsRefused cwd dest t fault

theorem copied_cases {u : FileTree} {source dest : String} {l : Location} (htu : t.Grows u)
    (h : t.fileAt host.cwd source = some l) :
    (copied host u source dest).result = .ok (.ok ()) ∨
      ∃ fault, (copied host u source dest).result = .ok (.error fault) ∧
        IsRefused host.cwd dest t fault := by
  obtain ⟨bytes, x, n, hf⟩ := fileAt_eq_some_iff.mp (fileAt_grows htu h)
  simp only [copied, Call.perform_copy]
  cases hcopy : u.copy host.cwd source dest with
  | ok v => exact .inl rfl
  | error fault => exact .inr ⟨fault, rfl, .dest htu (landing_of_copy_eq_error hf hcopy)⟩

/-- Where the source of a copy is a file, only the destination can be in the way. -/
theorem copyInto_cases {source : String} {l : Location} (dest : String)
    (h : t.fileAt host.cwd source = some l) :
    ((copyInto source dest).outcome host t).result = .ok (.ok ()) ∨
      ∃ fault, ((copyInto source dest).outcome host t).result = .ok (.error fault) ∧
        IsRefused host.cwd dest t fault := by
  rw [outcome_copyInto]
  cases hparent : Path.parent? dest with
  | none => exact copied_cases (.refl t) h
  | some dir =>
    simp only
    split
    · rename_i fault hmade
      exact .inr ⟨fault, rfl, .above hparent hmade⟩
    · exact copied_cases (grows_createDirs host.cwd t dir) h

/-! ## Runs -/

/-- All that a run has at some time, from the files `t` on. -/
def Seen (t : FileTree) (o : Outcome String) (u : FileTree) : Prop :=
  u = t ∨ ∃ e ∈ o.history, u = e.files

namespace Setup

/-- There is one way to set up instrumenting at most. -/
instance : Subsingleton (Setup config raw workspace host t) := by
  refine ⟨fun ⟨p, j, o, hp, _, hj, ho⟩ ⟨p', j', o', hp', _, hj', ho'⟩ => ?_⟩
  obtain rfl := Option.some.inj (hp.symm.trans hp')
  obtain rfl := Except.ok.inj (hj.symm.trans hj')
  obtain rfl := Except.ok.inj (ho.symm.trans ho')
  rfl

/-- What a run with an instrumenter that does nothing uses: the jar and the support class that are
there from the beginning, wherever they are looked for, as long as the absolute paths to them are
within the system's limits. Then nothing but its destination is in the way of a copy. -/
structure Uses (s : Setup config raw workspace host t) (o : Outcome String) : Prop where
  jobs_eq : o.jobs = [s.job]
  jar : Path.IsUsable s.jar → ∀ u, Seen t o u → ∀ dir,
    u.fileAt dir s.jar = t.fileAt host.cwd config.jar
  source : Path.IsUsable s.source → ∀ u, Seen t o u → ∀ dir,
    u.fileAt dir s.source = t.fileAt host.cwd (Path.join config.classesDir config.supportClass)
  copies : ∀ source dest, .copy source dest ∈ o.calls → source = s.source ∧ dest = s.dest
  ends : Path.IsUsable s.source → o.result = .ok s.dest ∨
    ∃ fault, o.result = .error (.ofCause (.supportCopyFailed s.project.text fault)) ∧
      IsRefused host.cwd s.dest t fault

theorem jobs_eq (config : Config) (s : Setup config.instrumenter raw workspace host t) :
    ((instrument config raw workspace).outcome host t).jobs = [s.job] := by
  rcases (ending config raw workspace host t).jobs_cases with ⟨hempty, -⟩ | ⟨s', hjobs, -⟩
  · exact hempty.elim s
  · rw [hjobs, Subsingleton.elim s' s]

theorem uses (config : Config) (s : Setup config.instrumenter raw workspace host t)
    (hcwd : ∀ n ∈ host.cwd, IsName n) (hexits : s.run.outcome = .ok (.exited 0))
    (hleaves : s.run.files = t) (hjar : t.isFile host.cwd config.instrumenter.jar)
    (hsource : t.isFile host.cwd
      (Path.join config.instrumenter.classesDir config.instrumenter.supportClass)) :
    s.Uses ((instrument config raw workspace).outcome host t) := by
  obtain ⟨j, hj⟩ := exists_fileAt hjar
  obtain ⟨k, hk⟩ := exists_fileAt hsource
  have hcopying : s.copying = (copyInto s.source s.dest).outcome host t := by
    rw [copying, hleaves]
  obtain ⟨r, hr⟩ := (calls_copyInto host t s.source s.dest).1
  have ho := s.outcome_of_success config hexits ((congrArg Outcome.result hcopying).trans hr)
  have hgrows (u : FileTree) (hu : Seen t ((instrument config raw workspace).outcome host t) u) :
      t.Grows u := by
    rcases hu with rfl | ⟨e, he, rfl⟩
    · exact .refl u
    rw [ho] at he
    rcases List.mem_cons.mp he with rfl | he
    · rw [show s.event.files = t from hleaves]
      exact .refl t
    · rw [hcopying] at he
      exact grows_of_copyInto host t s.source s.dest e he
  have hsourceAt (husable : Path.IsUsable s.source) (dir : Location) :
      t.fileAt dir s.source = some k :=
    fileAt_join_absolute hcwd hk (absolute_eq_ok_iff.mp s.own_eq).1 husable dir
  refine ⟨s.jobs_eq config, fun husable u hu dir => ?_, fun husable u hu dir => ?_,
    fun source dest hcopy => ?_, fun husable => ?_⟩
  · rw [hj, fileAt_grows (hgrows u hu)
      (fileAt_absolute hcwd hj (absolute_eq_ok_iff.mp s.jar_eq).1 husable dir)]
  · rw [hk, fileAt_grows (hgrows u hu) (hsourceAt husable dir)]
  · rcases (ending config raw workspace host t).calls_cases with hcalls | ⟨s', -, -, hcalls⟩
    · rw [hcalls] at hcopy
      cases hcopy
    · rw [Subsingleton.elim s' s] at hcalls
      simpa [copyCalls] using hcalls.subset hcopy
  · rw [ho]
    rcases copyInto_cases s.dest (hsourceAt husable host.cwd) with h | ⟨fault, h, hrefused⟩
    · obtain rfl := Except.ok.inj (hr.symm.trans h)
      exact .inl rfl
    · obtain rfl := Except.ok.inj (hr.symm.trans h)
      exact .inr ⟨fault, rfl, hrefused⟩

end Setup

end Instrument

end BenchCheckout
