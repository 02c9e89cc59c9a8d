import BenchCheckout.Action

/-!
# What an action comes to

`a.outcome host t` is what the action `a` comes to when it starts on the files `t`: its result, the
files that it leaves, and its own events. What was printed and logged is left out.

An action is `Memoryless` if it goes by the files alone, and not by what happened before it. All
actions of the program are; instances follow the shape of an action, and only a `match` needs its
own.

* `Action.outcome_bind`: the outcome of two actions in a row is the one `andThen` the other.
* `Action.outcome_change`, `Action.outcome_launch`: the two actions that touch files.
* `Action.runOn_of_quiet`: actions that have nothing but a result.
-/

namespace BenchCheckout

/-- A host at the root with nothing in the environment. -/
def Host.plain (launch : Job → FileTree → Run) : Host where
  cwd := []
  env := fun _ => none
  launch := launch
  colours := false
  log := ⟨.ofVariable none, "", false⟩

structure Outcome (α : Type) where
  result : Except Failure α
  files : FileTree
  history : List Event

namespace Outcome

variable {α β γ : Type}

/-- Nothing happened but that a value was found. -/
def value (a : α) (t : FileTree) : Outcome α := ⟨.ok a, t, []⟩

/-- Nothing happened but a failure. -/
def failure (f : Failure) (t : FileTree) : Outcome α := ⟨.error f, t, []⟩

/-- Go on from a success. A failure is the end. -/
def andThen (o : Outcome α) (next : α → FileTree → Outcome β) : Outcome β :=
  match o.result with
  | .ok a =>
    ⟨(next a o.files).result, (next a o.files).files, o.history ++ (next a o.files).history⟩
  | .error f => ⟨.error f, o.files, o.history⟩

/-- The changes that the program made itself, in order. -/
def calls (o : Outcome α) : List Call := o.history.filterMap (·.call?)

/-- The programs that it started or tried to start, in order. -/
def jobs (o : Outcome α) : List Job := o.history.filterMap (·.job?)

@[simp]
theorem value_andThen (a : α) (t : FileTree) (next : α → FileTree → Outcome β) :
    (value a t).andThen next = next a t := by
  simp [value, andThen]

@[simp]
theorem failure_andThen (f : Failure) (t : FileTree) (next : α → FileTree → Outcome β) :
    (failure f t).andThen next = failure f t := rfl

@[simp]
theorem andThen_value (o : Outcome α) : (o.andThen value) = o := by
  obtain ⟨r, t, history⟩ := o
  cases r <;> simp [andThen, value]

theorem eq_of_result {o : Outcome α} {r : Except Failure α} (h : o.result = r) :
    o = ⟨r, o.files, o.history⟩ := by
  rw [← h]

theorem ok_andThen (a : α) (t : FileTree) (history : List Event)
    (next : α → FileTree → Outcome β) :
    (⟨.ok a, t, history⟩ : Outcome α).andThen next =
      ⟨(next a t).result, (next a t).files, history ++ (next a t).history⟩ := rfl

theorem error_andThen (f : Failure) (t : FileTree) (history : List Event)
    (next : α → FileTree → Outcome β) :
    (⟨.error f, t, history⟩ : Outcome α).andThen next = ⟨.error f, t, history⟩ := rfl

theorem andThen_assoc (o : Outcome α) (f : α → FileTree → Outcome β)
    (g : β → FileTree → Outcome γ) :
    (o.andThen f).andThen g = o.andThen fun a t => (f a t).andThen g := by
  obtain ⟨r, t, history⟩ := o
  cases r with
  | error e => rfl
  | ok a =>
    cases h : (f a t).result with
    | error e => simp [andThen, h]
    | ok b => simp [andThen, h]

/-- A success in the end is a success on the way. -/
theorem andThen_eq_ok {o : Outcome α} {next : α → FileTree → Outcome β} {b : β} {u : FileTree}
    {history : List Event} (h : o.andThen next = ⟨.ok b, u, history⟩) :
    ∃ a t before after, o = ⟨.ok a, t, before⟩ ∧ next a t = ⟨.ok b, u, after⟩ ∧
      history = before ++ after := by
  obtain ⟨r, t, before⟩ := o
  cases r with
  | error e => simp [andThen] at h
  | ok a =>
    rw [ok_andThen] at h
    obtain ⟨hr, hf, hh⟩ := Outcome.mk.inj h
    exact ⟨a, t, before, (next a t).history, rfl, by rw [← hr, ← hf], hh.symm⟩

/-- Every event is `good`, a success ends as `post` says, and a failure leaves files that are
`left`. -/
structure Meets (good : Event → Prop) (left : FileTree → Prop) (post : α → FileTree → Prop)
    (o : Outcome α) : Prop where
  events : ∀ e ∈ o.history, good e
  ok : ∀ a, o.result = .ok a → post a o.files
  error : ∀ f, o.result = .error f → left o.files

theorem Meets.andThen {good : Event → Prop} {left : FileTree → Prop} {mid : α → FileTree → Prop}
    {post : β → FileTree → Prop} {o : Outcome α} {next : α → FileTree → Outcome β}
    (h : o.Meets good left mid)
    (hnext : ∀ a u, mid a u → (next a u).Meets good left post) :
    (o.andThen next).Meets good left post := by
  obtain ⟨r, t, history⟩ := o
  cases r with
  | error f =>
    rw [error_andThen]
    exact ⟨h.events, fun b hb => (by cases hb), fun f' _ => h.error f rfl⟩
  | ok a =>
    have hn := hnext a t (h.ok a rfl)
    rw [ok_andThen]
    refine ⟨fun e he => ?_, hn.ok, hn.error⟩
    rcases List.mem_append.mp he with he | he
    · exact h.events e he
    · exact hn.events e he

/-- Two outcomes with one result and the same jobs, that leave files which `R` relates. -/
structure Agrees (R : FileTree → FileTree → Prop) (o o' : Outcome α) : Prop where
  result_eq : o.result = o'.result
  jobs_eq : o.jobs = o'.jobs
  files : R o.files o'.files

theorem Agrees.refl {R : FileTree → FileTree → Prop} {o : Outcome α} (h : R o.files o.files) :
    o.Agrees R o := ⟨rfl, rfl, h⟩

theorem Agrees.andThen {R : FileTree → FileTree → Prop} {o o' : Outcome α}
    {next next' : α → FileTree → Outcome β} (h : o.Agrees R o')
    (hnext : ∀ a t u, o.result = .ok a → R t u → (next a t).Agrees R (next' a u)) :
    (o.andThen next).Agrees R (o'.andThen next') := by
  obtain ⟨r, t, history⟩ := o
  obtain ⟨r', u, history'⟩ := o'
  obtain rfl : r = r' := h.result_eq
  cases r with
  | error f => exact ⟨rfl, h.jobs_eq, h.files⟩
  | ok a =>
    have hn := hnext a t u rfl h.files
    have hbefore : history.filterMap (·.job?) = history'.filterMap (·.job?) := h.jobs_eq
    have hafter := hn.jobs_eq
    rw [jobs, jobs] at hafter
    refine ⟨hn.result_eq, ?_, hn.files⟩
    rw [ok_andThen, ok_andThen, jobs, jobs, List.filterMap_append, List.filterMap_append, hbefore,
      hafter]

end Outcome

namespace Action

variable {α β : Type}

def outcome (a : Action α) (host : Host) (t : FileTree) : Outcome α :=
  ⟨(a.runOn host (.ofFiles t)).1, (a.runOn host (.ofFiles t)).2.files,
    (a.runOn host (.ofFiles t)).2.history⟩

/-- What the action does depends on the files alone, and its events come behind those before. -/
class Memoryless (a : Action α) : Prop where
  runOn_eq : ∀ host w,
    (a.runOn host w).1 = (a.outcome host w.files).result ∧
    (a.runOn host w).2.files = (a.outcome host w.files).files ∧
    (a.runOn host w).2.history = w.history ++ (a.outcome host w.files).history

/-! ## Actions in a row -/

theorem runOn_bind (a : Action α) (f : α → Action β) (host : Host) (w : World) :
    (a >>= f).runOn host w =
      match a.runOn host w with
      | (.ok x, w') => (f x).runOn host w'
      | (.error e, w') => (.error e, w') := by
  show (StateT.bind (a host) (ExceptT.bindCont fun x => f x host)) w = _
  unfold StateT.bind runOn
  simp only [bind]
  obtain ⟨r, w'⟩ := a host w
  cases r <;> rfl

theorem outcome_bind_of (a : Action α) (f : α → Action β) (host : Host) (t : FileTree)
    (hf : ∀ x, Memoryless (f x)) :
    (a >>= f).outcome host t =
      (a.outcome host t).andThen fun x u => (f x).outcome host u := by
  unfold outcome
  rw [runOn_bind]
  obtain ⟨r, w⟩ := a.runOn host (.ofFiles t)
  cases r with
  | error e => rfl
  | ok x =>
    obtain ⟨hr, hu, hh⟩ := (hf x).runOn_eq host w
    simp only [Outcome.ok_andThen, hr, hu, hh]
    rfl

theorem outcome_bind (a : Action α) (f : α → Action β) [hf : ∀ x, Memoryless (f x)] (host : Host)
    (t : FileTree) :
    (a >>= f).outcome host t =
      (a.outcome host t).andThen fun x u => (f x).outcome host u :=
  outcome_bind_of a f host t hf

@[simp]
theorem outcome_pure (x : α) (host : Host) (t : FileTree) :
    (pure x : Action α).outcome host t = .value x t := rfl

instance (x : α) : Memoryless (pure x : Action α) :=
  ⟨fun _ w => ⟨rfl, rfl, (List.append_nil w.history).symm⟩⟩

theorem Memoryless.bind {a : Action α} {f : α → Action β} (ha : Memoryless a)
    (hf : ∀ x, Memoryless (f x)) : Memoryless (a >>= f) := by
  refine ⟨fun host w => ?_⟩
  obtain ⟨hr, hu, hh⟩ := ha.runOn_eq host w
  rw [outcome_bind, runOn_bind]
  generalize a.runOn host w = ended at hr hu hh ⊢
  generalize a.outcome host w.files = o at hr hu hh ⊢
  obtain ⟨r, w'⟩ := ended
  obtain ⟨r', t, history⟩ := o
  simp only at hr hu hh
  subst hr hu
  cases r with
  | error e => exact ⟨rfl, rfl, hh⟩
  | ok x =>
    obtain ⟨hr, hu, hh'⟩ := (hf x).runOn_eq host w'
    exact ⟨hr, hu, by rw [Outcome.ok_andThen, ← List.append_assoc, ← hh]; exact hh'⟩

instance (a : Action α) (f : α → Action β) [ha : Memoryless a] [hf : ∀ x, Memoryless (f x)] :
    Memoryless (a >>= f) := ha.bind hf

instance (c : Prop) [Decidable c] (a b : Action α) [Memoryless a] [Memoryless b] :
    Memoryless (if c then a else b) := by
  split <;> infer_instance

/-! ## Steps that touch no file -/

@[simp]
theorem outcome_fail (f : Failure) (host : Host) (t : FileTree) :
    (fail f : Action α).outcome host t = .failure f t := rfl

@[simp]
theorem outcome_failWith (cause : Cause) (host : Host) (t : FileTree) :
    (failWith cause : Action α).outcome host t = .failure (.ofCause cause) t := rfl

@[simp]
theorem outcome_look (question : FileTree → Location → α) (host : Host) (t : FileTree) :
    (look question).outcome host t = .value (question t host.cwd) t := rfl

@[simp]
theorem outcome_isFile (path : String) (host : Host) (t : FileTree) :
    (isFile path).outcome host t = .value (t.isFile host.cwd path) t := rfl

@[simp]
theorem outcome_isDirectory (path : String) (host : Host) (t : FileTree) :
    (isDirectory path).outcome host t = .value (t.isDirectory host.cwd path) t := rfl

@[simp]
theorem outcome_exists? (path : String) (host : Host) (t : FileTree) :
    (exists? path).outcome host t = .value (t.exists? host.cwd path) t := rfl

@[simp]
theorem outcome_print (text : String) (host : Host) (t : FileTree) :
    (print text).outcome host t = .value () t := rfl

@[simp]
theorem outcome_printLine (text : String) (host : Host) (t : FileTree) :
    (printLine text).outcome host t = .value () t := rfl

@[simp]
theorem outcome_painted (style : Console.Style) (text : String) (host : Host) (t : FileTree) :
    (painted style text).outcome host t = .value (style.paint host.colours text) t := rfl

@[simp]
theorem outcome_log (e : Log.Entry) (host : Host) (t : FileTree) :
    (log e).outcome host t = .value () t := rfl

@[simp]
theorem outcome_ofExcept (r : Except Failure α) (host : Host) (t : FileTree) :
    (ofExcept r).outcome host t = ⟨r, t, []⟩ := by
  cases r <;> rfl

@[simp]
theorem outcome_orFail (activity : Activity) (r : Except Fault α) (host : Host) (t : FileTree) :
    (orFail activity r).outcome host t =
      ⟨r.mapError fun fault => .during activity (.file fault), t, []⟩ := by
  cases r <;> rfl

instance (f : Failure) : Memoryless (fail f : Action α) :=
  ⟨fun _ w => ⟨rfl, rfl, (List.append_nil w.history).symm⟩⟩

instance (cause : Cause) : Memoryless (failWith cause : Action α) :=
  ⟨fun _ w => ⟨rfl, rfl, (List.append_nil w.history).symm⟩⟩

instance (question : FileTree → Location → α) : Memoryless (look question) :=
  ⟨fun _ w => ⟨rfl, rfl, (List.append_nil w.history).symm⟩⟩

instance (path : String) : Memoryless (isFile path) :=
  inferInstanceAs (Memoryless (look _))

instance (path : String) : Memoryless (isDirectory path) :=
  inferInstanceAs (Memoryless (look _))

instance (path : String) : Memoryless (exists? path) :=
  inferInstanceAs (Memoryless (look _))

instance (text : String) : Memoryless (print text) :=
  ⟨fun _ w => ⟨rfl, rfl, (List.append_nil w.history).symm⟩⟩

instance (text : String) : Memoryless (printLine text) :=
  inferInstanceAs (Memoryless (print _))

instance (style : Console.Style) (text : String) : Memoryless (painted style text) :=
  ⟨fun _ w => ⟨rfl, rfl, (List.append_nil w.history).symm⟩⟩

instance (e : Log.Entry) : Memoryless (log e) :=
  ⟨fun _ w => ⟨rfl, rfl, (List.append_nil w.history).symm⟩⟩

instance (r : Except Failure α) : Memoryless (ofExcept r) := by
  cases r
  · exact inferInstanceAs (Memoryless (fail _))
  · exact inferInstanceAs (Memoryless (pure _))

instance (activity : Activity) (r : Except Fault α) : Memoryless (orFail activity r) := by
  cases r
  · exact inferInstanceAs (Memoryless (fail _))
  · exact inferInstanceAs (Memoryless (pure _))

/-! ## Steps that touch files -/

@[simp]
theorem outcome_attemptCall (call : Call) (host : Host) (t : FileTree) :
    (attemptCall call).outcome host t =
      ⟨.ok (call.perform host.cwd t).1, (call.perform host.cwd t).2,
        [.changed call (call.perform host.cwd t).1 (call.perform host.cwd t).2]⟩ := rfl

@[simp]
theorem outcome_launch (job : Job) (host : Host) (t : FileTree) :
    (launch job).outcome host t =
      ⟨.ok (host.launch job t).outcome, (host.launch job t).files,
        [.launched job (host.launch job t).outcome (host.launch job t).files]⟩ := rfl

instance (call : Call) : Memoryless (attemptCall call) :=
  ⟨fun _ _ => ⟨rfl, rfl, rfl⟩⟩

instance (job : Job) : Memoryless (launch job) :=
  ⟨fun _ _ => ⟨rfl, rfl, rfl⟩⟩

instance (activity : Activity) (call : Call) : Memoryless (change activity call) :=
  inferInstanceAs (Memoryless (attemptCall call >>= _))

theorem outcome_change (activity : Activity) (call : Call) (host : Host) (t : FileTree) :
    (change activity call).outcome host t =
      ⟨(call.perform host.cwd t).1.mapError fun fault => .during activity (.file fault),
        (call.perform host.cwd t).2,
        [.changed call (call.perform host.cwd t).1 (call.perform host.cwd t).2]⟩ := by
  unfold change
  rw [outcome_bind]
  simp [Outcome.ok_andThen]

theorem outcome_attempt (a : Action α) (host : Host) (t : FileTree) :
    (attempt a).outcome host t =
      ⟨.ok (a.outcome host t).result, (a.outcome host t).files, (a.outcome host t).history⟩ := rfl

instance (a : Action α) [h : Memoryless a] : Memoryless (attempt a) := by
  refine ⟨fun host w => ?_⟩
  obtain ⟨hr, hu, hh⟩ := h.runOn_eq host w
  exact ⟨congrArg Except.ok hr, hu, hh⟩

/-! ## Actions that leave everything as it is -/

/-- The action has a result and does nothing. -/
class Quiet (a : Action α) : Prop where
  runOn_eq : ∀ host w, (a.runOn host w).2 = w

instance (a : Action α) (f : α → Action β) [ha : Quiet a] [hf : ∀ x, Quiet (f x)] :
    Quiet (a >>= f) := by
  refine ⟨fun host w => ?_⟩
  have hw := ha.runOn_eq host w
  rw [runOn_bind]
  generalize a.runOn host w = ended at hw ⊢
  obtain ⟨r, w'⟩ := ended
  cases r with
  | error f => exact hw
  | ok x => exact ((hf x).runOn_eq host w').trans hw

instance (x : α) : Quiet (pure x : Action α) := ⟨fun _ _ => rfl⟩

instance (f : Failure) : Quiet (fail f : Action α) := ⟨fun _ _ => rfl⟩

instance (question : FileTree → Location → α) : Quiet (look question) := ⟨fun _ _ => rfl⟩

instance (path : String) : Quiet (exists? path) := inferInstanceAs (Quiet (look _))

instance (activity : Activity) (r : Except Fault α) : Quiet (orFail activity r) := by
  cases r
  · exact inferInstanceAs (Quiet (fail _))
  · exact inferInstanceAs (Quiet (pure _))

instance (c : Prop) [Decidable c] (a b : Action α) [Quiet a] [Quiet b] :
    Quiet (if c then a else b) := by
  split <;> infer_instance

theorem runOn_of_quiet (a : Action α) [hm : Memoryless a] [hq : Quiet a] (host : Host)
    (w : World) : a.runOn host w = ((a.outcome host w.files).result, w) :=
  Prod.ext (hm.runOn_eq host w).1 (hq.runOn_eq host w)

theorem runOn_change (activity : Activity) (call : Call) (host : Host) (w : World) :
    (change activity call).runOn host w =
      ((call.perform host.cwd w.files).1.mapError fun fault => .during activity (.file fault),
        { w with
          files := (call.perform host.cwd w.files).2
          history := w.history ++ [.changed call (call.perform host.cwd w.files).1
            (call.perform host.cwd w.files).2] }) := by
  have hcall : (attemptCall call).runOn host w = (.ok (call.perform host.cwd w.files).1,
      { w with
        files := (call.perform host.cwd w.files).2
        history := w.history ++ [.changed call (call.perform host.cwd w.files).1
          (call.perform host.cwd w.files).2] }) := rfl
  unfold change
  rw [runOn_bind, hcall]
  simp only [runOn_of_quiet, outcome_orFail]

end Action

end BenchCheckout
