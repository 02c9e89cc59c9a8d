import BenchCheckout.Proofs.CommandLine.Words

/-!
# The grammar of the command line

`Sentence` says which words make which invocation, without regard to how they are read: a config
option in front of the subcommand, and behind it a config option, a flag and the positional
arguments in any order, with an escape in front of positional arguments.

* `Reading.wordsOf_sound`, `Reading.wordsOf_complete`: the words behind a subcommand.
* `read_eq_ok_iff`: the words that are read are the sentences.
-/

namespace BenchCheckout.CommandLine

/-! ## Sentences -/

/-- The words of a config option, and its value. -/
inductive ConfigOption : List String → String → Prop where
  | attached {w value : String} (word : Attached w value) (ne_empty : value ≠ "") :
      ConfigOption [w] value
  | apart {w value : String} (word : w = "-c" ∨ w = "--config") (free : IsFreeWord value)
      (ne_empty : value ≠ "") : ConfigOption [w, value] value

/-- The words in front of a subcommand, and the config that they name. -/
inductive Front : List String → Option String → Prop where
  | none : Front [] none
  | config {words : List String} {value : String} (option : ConfigOption words value) :
      Front words (some value)

/-- The words behind a subcommand: the config that they name, whether the flag is among them, and
the positional arguments. -/
inductive Behind (verb : Verb) : List String → Option String → Bool → List String → Prop where
  | nil : Behind verb [] none false []
  | config {words rest : List String} {value : String} {noCache : Bool} {values : List String}
      (option : ConfigOption words value) (behind : Behind verb rest none noCache values) :
      Behind verb (words ++ rest) (some value) noCache values
  | noCache {rest : List String} {config : Option String} {values : List String}
      (checkout : verb = .checkout) (behind : Behind verb rest config false values) :
      Behind verb ("--no-cache" :: rest) config true values
  | positional {w : String} {rest : List String} {config : Option String} {noCache : Bool}
      {values : List String} (free : IsFreeWord w)
      (behind : Behind verb rest config noCache values) :
      Behind verb (w :: rest) config noCache (w :: values)
  | escape (values : List String) : Behind verb ("--" :: values) none false values

/-- The positional arguments of a subcommand, and the command that they make. -/
inductive Fits : Verb → List String → Bool → Command → Prop where
  | checkout {project path : String} {noCache : Bool} (ne_empty : path ≠ "") :
      Fits .checkout [project, path] noCache (.checkout project path noCache)
  | fetch {project path : String} {noCache : Bool} (ne_empty : path ≠ "") :
      Fits .fetch [project, path] noCache (.fetch project path)
  | instrument {project path : String} {noCache : Bool} (ne_empty : path ≠ "") :
      Fits .instrument [project, path] noCache (.instrument project path)
  | doctor {noCache : Bool} : Fits .doctor [] noCache .doctor
  | init {noCache : Bool} : Fits .init [] noCache .init
  | completions {noCache : Bool} (shell : Shell) :
      Fits .completions [shell.name] noCache (.completions shell)

/-- Words that make an invocation. -/
inductive Sentence : List String → Invocation → Prop where
  | mk {before words values : List String} {outer inner : Option String} {verb : Verb}
      {noCache : Bool} {command : Command} (front : Front before outer)
      (behind : Behind verb words inner noCache values) (fits : Fits verb values noCache command) :
      Sentence (before ++ verb.name :: words) ⟨inner.or outer, command⟩

/-! ## Positional arguments -/

/-- Words for the first of some positions, each one fit for its position. -/
def Fills : List Positional → List String → Prop
  | _, [] => True
  | [], _ :: _ => False
  | p :: ps, w :: ws => Reading.checkPositional p w = .ok () ∧ Fills ps ws

theorem fills_drop_cons {positions : List Positional} {n : Nat} {p : Positional} {w : String}
    {ws : List String} (h : positions[n]? = some p) :
    Fills (positions.drop n) (w :: ws) ↔
      Reading.checkPositional p w = .ok () ∧ Fills (positions.drop (n + 1)) ws := by
  obtain ⟨hn, rfl⟩ := List.getElem?_eq_some_iff.mp h
  rw [List.drop_eq_getElem_cons hn, Fills]

theorem Fills.exists_position {positions : List Positional} {n : Nat} {w : String}
    {ws : List String} (h : Fills (positions.drop n) (w :: ws)) : ∃ p, positions[n]? = some p := by
  cases hp : positions[n]? with
  | some p => exact ⟨p, rfl⟩
  | none =>
    rw [List.drop_eq_nil_of_le (List.getElem?_eq_none_iff.mp hp)] at h
    exact h.elim

theorem Shell.ofName?_eq_some_iff {s : String} {shell : Shell} :
    Shell.ofName? s = some shell ↔ s = shell.name := by
  constructor
  · intro h
    have hname := List.find?_some (p := fun v : Shell => v.name == s) h
    exact (eq_of_beq hname).symm
  · rintro rfl
    cases shell <;> rfl

theorem checkPositional_path_iff {w : String} :
    Reading.checkPositional .path w = .ok () ↔ w ≠ "" := by
  unfold Reading.checkPositional
  split <;> simp_all

theorem checkPositional_shell_iff {w : String} :
    Reading.checkPositional .shell w = .ok () ↔ ∃ shell : Shell, w = shell.name := by
  simp only [Reading.checkPositional]
  constructor
  · intro h
    split at h
    · rename_i hs
      obtain ⟨shell, hshell⟩ := Option.isSome_iff_exists.mp hs
      exact ⟨shell, Shell.ofName?_eq_some_iff.mp hshell⟩
    · cases h
  · rintro ⟨shell, rfl⟩
    rw [if_pos (by rw [Shell.ofName?_eq_some_iff.mpr rfl]; rfl)]

/-- A project and a path fill their positions. -/
theorem fills_project_path_iff {values : List String} :
    (Fills [.project, .path] values ∧ [Positional.project, .path].drop values.length = []) ↔
      ∃ project path, path ≠ "" ∧ values = [project, path] := by
  constructor
  · rintro ⟨hfills, hdrop⟩
    match values with
    | [] | [_] => cases hdrop
    | [project, path] => exact ⟨project, path, checkPositional_path_iff.mp hfills.2.1, rfl⟩
    | _ :: _ :: _ :: _ => exact hfills.2.2.elim
  · rintro ⟨project, path, hpath, rfl⟩
    exact ⟨⟨rfl, checkPositional_path_iff.mpr hpath, trivial⟩, rfl⟩

/-- Positions that are all filled make the command of the subcommand. -/
theorem fits_iff {verb : Verb} {r : Reading} {c : Command} :
    Fits verb r.values r.noCache c ↔
      Fills verb.positionals r.values ∧ r.unfilled (.inner verb) = [] ∧ c = command verb r := by
  obtain ⟨config, noCache, values, pending, given, escaped⟩ := r
  constructor
  · intro h
    cases h with
    | checkout ne_empty | fetch ne_empty | instrument ne_empty =>
      obtain ⟨hfills, hdrop⟩ := fills_project_path_iff.mpr ⟨_, _, ne_empty, rfl⟩
      exact ⟨hfills, hdrop, rfl⟩
    | doctor | init => exact ⟨trivial, rfl, rfl⟩
    | completions shell =>
      refine ⟨⟨checkPositional_shell_iff.mpr ⟨shell, rfl⟩, trivial⟩, rfl, ?_⟩
      cases shell <;> rfl
  · rintro ⟨hfills, hdrop, rfl⟩
    cases verb with
    | checkout =>
      obtain ⟨project, path, hpath, rfl⟩ := fills_project_path_iff.mp ⟨hfills, hdrop⟩
      exact .checkout hpath
    | fetch =>
      obtain ⟨project, path, hpath, rfl⟩ := fills_project_path_iff.mp ⟨hfills, hdrop⟩
      exact .fetch hpath
    | instrument =>
      obtain ⟨project, path, hpath, rfl⟩ := fills_project_path_iff.mp ⟨hfills, hdrop⟩
      exact .instrument hpath
    | doctor =>
      cases values with
      | nil => exact .doctor
      | cons => exact hfills.elim
    | init =>
      cases values with
      | nil => exact .init
      | cons => exact hfills.elim
    | completions =>
      match values with
      | [] => cases hdrop
      | [value] =>
        obtain ⟨shell, rfl⟩ := checkPositional_shell_iff.mp hfills.1
        rw [command, show (Shell.ofName? _).getD _ = shell by cases shell <;> rfl]
        exact .completions shell
      | _ :: _ :: _ => exact hfills.2.elim

/-! ## The words behind a subcommand -/

namespace Reading

variable {verb : Verb} {r r' s : Reading} {config : Option String} {noCache : Bool}
  {words values : List String}

/-- What a reading comes to that goes on from the settled reading `s` with these arguments. -/
structure Adds (verb : Verb) (s : Reading) (config : Option String) (noCache : Bool)
    (values : List String) (r' : Reading) : Prop where
  config_first : s.config = none ∨ config = none
  config_eq : r'.config = config.or s.config
  noCache_first : s.noCache = false ∨ noCache = false
  noCache_eq : r'.noCache = (s.noCache || noCache)
  fills : Fills (verb.positionals.drop s.values.length) values
  values_eq : r'.values = s.values ++ values

theorem Adds.refl (verb : Verb) (s : Reading) : Adds verb s none false [] s where
  config_first := .inr rfl
  config_eq := rfl
  noCache_first := .inr rfl
  noCache_eq := (Bool.or_false _).symm
  fills := by cases verb.positionals.drop s.values.length <;> trivial
  values_eq := (List.append_nil _).symm

theorem Adds.of_config {value : String} {given : List Argument} (hs : s.config = none)
    (h : Adds verb { s with config := some value, given := given } config noCache values r') :
    config = none ∧ Adds verb s (some value) noCache values r' := by
  have hc : config = none := h.config_first.resolve_left nofun
  exact ⟨hc, .inl hs, by rw [h.config_eq, hc]; rfl, h.noCache_first, h.noCache_eq, h.fills,
    h.values_eq⟩

theorem Adds.of_noCache {given : List Argument} (hs : s.noCache = false)
    (h : Adds verb { s with noCache := true, given := given } config noCache values r') :
    noCache = false ∧ Adds verb s config true values r' := by
  have hn : noCache = false := h.noCache_first.resolve_left nofun
  exact ⟨hn, h.config_first, h.config_eq, .inl hs, by rw [h.noCache_eq]; simp, h.fills,
    h.values_eq⟩

theorem Adds.of_positional {w : String} {p : Positional} {given : List Argument}
    (hp : verb.positionals[s.values.length]? = some p) (hw : checkPositional p w = .ok ())
    (h : Adds verb { s with values := s.values ++ [w], given := given } config noCache values r') :
    Adds verb s config noCache (w :: values) r' where
  config_first := h.config_first
  config_eq := h.config_eq
  noCache_first := h.noCache_first
  noCache_eq := h.noCache_eq
  fills := (fills_drop_cons hp).mpr ⟨hw, by simpa using h.fills⟩
  values_eq := by simp [h.values_eq]

/-- Behind the escape every word is a positional argument. -/
theorem wordsOf_escaped_sound (he : r.escaped = true)
    (h : wordsOf (.inner verb) r values = .ok r') :
    ∃ s, r.settle (.inner verb) = .ok s ∧ Adds verb s none false values r' := by
  induction values generalizing r with
  | nil => exact ⟨r', h, .refl verb r'⟩
  | cons w ws ih =>
    rw [wordsOf, word, if_pos he] at h
    cases hw : r.position (.inner verb) w with
    | error e =>
      rw [hw] at h
      cases h
    | ok r₁ =>
      rw [hw] at h
      obtain ⟨s, p, hs, hp, rfl⟩ := position_eq_ok_iff.mp hw
      obtain ⟨hpending, hescaped, -⟩ := settled hs
      obtain ⟨s₁, hs₁, hadds⟩ := ih (by exact hescaped.trans he) h
      obtain ⟨hcheck, rfl⟩ := (settle_positional_iff hpending).mp hs₁
      exact ⟨s, hs, hadds.of_positional hp hcheck⟩

theorem wordsOf_escaped_complete (he : r.escaped = true) (hs : r.settle (.inner verb) = .ok s)
    (hfills : Fills (verb.positionals.drop s.values.length) values) :
    ∃ r', wordsOf (.inner verb) r values = .ok r' := by
  induction values generalizing r s with
  | nil => exact ⟨s, hs⟩
  | cons w ws ih =>
    obtain ⟨p, hp⟩ := hfills.exists_position
    obtain ⟨hcheck, hrest⟩ := (fills_drop_cons hp).mp hfills
    obtain ⟨hpending, hescaped, -⟩ := settled hs
    rw [wordsOf, word, if_pos he, position_eq_ok_iff.mpr ⟨s, p, hs, hp, rfl⟩]
    exact ih (hescaped.trans he) ((settle_positional_iff hpending).mpr ⟨hcheck, rfl⟩)
      (by simpa using hrest)

/-- The escape does not change what is settled. -/
theorem settle_escape_iff {level : Level} :
    { r with escaped := true }.settle level = .ok s ↔
      ∃ s₀, r.settle level = .ok s₀ ∧ s = { s₀ with escaped := true } := by
  obtain ⟨config, noCache, values, pending, given, escaped⟩ := r
  match pending with
  | none => simp [settle, eq_comm]
  | some ⟨.config, none⟩ => simp [settle]
  | some ⟨.config, some value⟩ =>
    simp only [settle, setConfig]
    split
    · simp
    split
    · simp
    · simp [eq_comm]
  | some ⟨.noCache, value⟩ =>
    simp only [settle, setNoCache]
    split
    · simp
    · simp [eq_comm]
  | some ⟨.help, value⟩ | some ⟨.version, value⟩ => simp [settle, eq_comm]
  | some ⟨.positional p, value⟩ =>
    simp only [settle]
    split
    · simp
    · simp [eq_comm]

theorem wordsOf_cons_eq_ok {level : Level} {w : String} {ws : List String} (he : r.escaped = false)
    (h : wordsOf level r (w :: ws) = .ok r') :
    ∃ r₁, Step level r w r₁ ∧ wordsOf level r₁ ws = .ok r' := by
  rw [wordsOf] at h
  cases hw : r.word level w with
  | error e =>
    rw [hw] at h
    cases h
  | ok r₁ =>
    rw [hw] at h
    exact ⟨r₁, (word_eq_ok_iff he).mp hw, h⟩

/-- The word behind a config option that waits for its value is the value. -/
theorem wordsOf_await (hs : s.escaped = false)
    (h : wordsOf (.inner verb) { s with pending := some ⟨.config, none⟩ } words = .ok r') :
    ∃ value rest, words = value :: rest ∧ IsFreeWord value ∧
      wordsOf (.inner verb) { s with pending := some ⟨.config, some value⟩ } rest = .ok r' := by
  cases words with
  | nil => exact absurd h settle_await
  | cons value rest =>
    obtain ⟨r₁, hstep, hrest⟩ := wordsOf_cons_eq_ok (by exact hs) h
    cases hstep with
    | escape =>
      obtain ⟨s₁, hs₁, -⟩ := wordsOf_escaped_sound (by rfl) hrest
      obtain ⟨s₂, hs₂, -⟩ := settle_escape_iff.mp hs₁
      exact absurd hs₂ settle_await
    | noCache _ settles | await _ settles | attach _ settles | position _ _ settles =>
      exact absurd settles settle_await
    | value word => exact ⟨value, rest, rfl, word, hrest⟩

/-- The words that are read behind a subcommand are of its grammar. The recursion takes a config
option and its value in one go. -/
theorem wordsOf_sound (words : List String) (r : Reading) (he : r.escaped = false)
    (ha : r.awaitsValue = false) (h : wordsOf (.inner verb) r words = .ok r') :
    ∃ s config noCache values, r.settle (.inner verb) = .ok s ∧
      Behind verb words config noCache values ∧ Adds verb s config noCache values r' := by
  match words with
  | [] => exact ⟨r', none, false, [], h, .nil, .refl verb r'⟩
  | w :: ws =>
    obtain ⟨r₁, hstep, hrest⟩ := wordsOf_cons_eq_ok he h
    cases hstep with
    | escape =>
      obtain ⟨s₁, hs₁, hadds⟩ := wordsOf_escaped_sound rfl hrest
      obtain ⟨s, hs, rfl⟩ := settle_escape_iff.mp hs₁
      exact ⟨s, none, false, ws, hs, .escape ws, ⟨hadds.config_first, hadds.config_eq,
        hadds.noCache_first, hadds.noCache_eq, hadds.fills, hadds.values_eq⟩⟩
    | @noCache s checkout settles first =>
      obtain ⟨hpending, hescaped, -⟩ := settled settles
      obtain ⟨s₁, c, n, vs, hs₁, hbehind, hadds⟩ :=
        wordsOf_sound ws _ (by exact hescaped.trans he) (by simp [awaitsValue, hpending]) hrest
      obtain rfl := eq_of_settle hs₁ hpending
      obtain ⟨rfl, hall⟩ := hadds.of_noCache first
      exact ⟨s, c, true, vs, settles, .noCache (by simpa using checkout) hbehind, hall⟩
    | @await s w word settles =>
      obtain ⟨hpending, hescaped, -⟩ := settled settles
      obtain ⟨value, rest, rfl, hfree, hrest⟩ := wordsOf_await (hescaped.trans he) hrest
      obtain ⟨s₁, c, n, vs, hs₁, hbehind, hadds⟩ :=
        wordsOf_sound rest _ (by exact hescaped.trans he) (by simp [awaitsValue]) hrest
      obtain ⟨first, ne_empty, rfl⟩ := (settle_config_iff hpending).mp hs₁
      obtain ⟨rfl, hall⟩ := hadds.of_config first
      exact ⟨s, some value, n, vs, settles, .config (.apart word hfree ne_empty) hbehind, hall⟩
    | @attach s w value word settles first ne_empty =>
      obtain ⟨hpending, hescaped, -⟩ := settled settles
      obtain ⟨s₁, c, n, vs, hs₁, hbehind, hadds⟩ :=
        wordsOf_sound ws _ (by exact hescaped.trans he) (by simp [awaitsValue, hpending]) hrest
      obtain rfl := eq_of_settle hs₁ hpending
      obtain ⟨rfl, hall⟩ := hadds.of_config first
      exact ⟨s, some value, n, vs, settles, .config (.attached word ne_empty) hbehind, hall⟩
    | value word awaits => exact absurd awaits (by simp [ha])
    | @position s w p word awaits settles free =>
      obtain ⟨hpending, hescaped, -⟩ := settled settles
      obtain ⟨s₁, c, n, vs, hs₁, hbehind, hadds⟩ :=
        wordsOf_sound ws _ (by exact hescaped.trans he) (by simp [awaitsValue]) hrest
      obtain ⟨hcheck, rfl⟩ := (settle_positional_iff hpending).mp hs₁
      exact ⟨s, c, n, w :: vs, settles, .positional word hbehind, hadds.of_positional free hcheck⟩
termination_by words.length

theorem wordsOf_of_step {level : Level} {r₁ : Reading} {w : String} {ws : List String}
    (he : r.escaped = false) (h : Step level r w r₁) :
    wordsOf level r (w :: ws) = wordsOf level r₁ ws := by
  rw [wordsOf, (word_eq_ok_iff he).mpr h]

/-- The words of the grammar of a subcommand are read behind it. The induction follows the grammar.
-/
theorem wordsOf_complete (h : Behind verb words config noCache values) (he : r.escaped = false)
    (ha : r.awaitsValue = false) (hs : r.settle (.inner verb) = .ok s)
    (hconfig : s.config = none ∨ config = none) (hnoCache : s.noCache = false ∨ noCache = false)
    (hfills : Fills (verb.positionals.drop s.values.length) values) :
    ∃ r', wordsOf (.inner verb) r words = .ok r' ∧ Adds verb s config noCache values r' := by
  induction h generalizing r s with
  | nil => exact ⟨s, hs, .refl verb s⟩
  | @config words rest value noCache values option _ ih =>
    have first : s.config = none := hconfig.resolve_right nofun
    obtain ⟨hpending, hescaped, -⟩ := settled hs
    cases option with
    | @attached w _ word ne_empty =>
      have hstep : Step (.inner verb) r w _ := .attach word hs first ne_empty
      have hs₁ : ({ s with config := some value, given := s.given ++ [.config] } : Reading).settle
        (.inner verb) = .ok _ := settle_of_pending hpending
      obtain ⟨r', hr', hadds⟩ := ih (by exact hescaped.trans he) (by simp [awaitsValue, hpending])
        hs₁ (.inr rfl) hnoCache hfills
      exact ⟨r', (wordsOf_of_step he hstep).trans hr', (hadds.of_config first).2⟩
    | @apart w _ word free ne_empty =>
      have hstep : Step (.inner verb) r w _ := .await word hs
      have hvalue : Step (.inner verb) { s with pending := some ⟨.config, none⟩ } value _ :=
        .value free (by simp [awaitsValue, hescaped, he])
      obtain ⟨r', hr', hadds⟩ := ih (by exact hescaped.trans he) (by simp [awaitsValue])
        ((settle_config_iff hpending).mpr ⟨first, ne_empty, rfl⟩) (.inr rfl) hnoCache hfills
      exact ⟨r', ((wordsOf_of_step he hstep).trans
        (wordsOf_of_step (by exact hescaped.trans he) hvalue)).trans hr', (hadds.of_config first).2⟩
  | @noCache rest config values checkout _ ih =>
    have first : s.noCache = false := hnoCache.resolve_right nofun
    obtain ⟨hpending, hescaped, -⟩ := settled hs
    have hstep : Step (.inner verb) r "--no-cache" _ := .noCache (checkout ▸ rfl) hs first
    have hs₁ : ({ s with noCache := true, given := s.given ++ [.noCache] } : Reading).settle
      (.inner verb) = .ok _ := settle_of_pending hpending
    obtain ⟨r', hr', hadds⟩ := ih (by exact hescaped.trans he) (by simp [awaitsValue, hpending])
      hs₁ hconfig (.inr rfl) hfills
    exact ⟨r', (wordsOf_of_step he hstep).trans hr', (hadds.of_noCache first).2⟩
  | @positional w rest config noCache values free _ ih =>
    obtain ⟨p, hp⟩ := hfills.exists_position
    obtain ⟨hcheck, hrest⟩ := (fills_drop_cons hp).mp hfills
    obtain ⟨hpending, hescaped, -⟩ := settled hs
    have hstep : Step (.inner verb) r w _ := .position free ha hs hp
    obtain ⟨r', hr', hadds⟩ := ih (by exact hescaped.trans he) (by simp [awaitsValue])
      ((settle_positional_iff hpending).mpr ⟨hcheck, rfl⟩) hconfig hnoCache (by simpa using hrest)
    exact ⟨r', (wordsOf_of_step he hstep).trans hr', hadds.of_positional hp hcheck⟩
  | escape values =>
    have hs₁ := settle_escape_iff.mpr ⟨s, hs, rfl⟩
    obtain ⟨r', hr'⟩ := wordsOf_escaped_complete (by rfl) hs₁ hfills
    obtain ⟨s₁, hs₂, hadds⟩ := wordsOf_escaped_sound (by rfl) hr'
    obtain rfl := Except.ok.inj (hs₂.symm.trans hs₁)
    exact ⟨r', (wordsOf_of_step he .escape).trans hr', ⟨hadds.config_first, hadds.config_eq,
      hadds.noCache_first, hadds.noCache_eq, hadds.fills, hadds.values_eq⟩⟩

end Reading

/-! ## The subcommand -/

theorem Verb.ofName?_eq_some_iff {s : String} {verb : Verb} :
    Verb.ofName? s = some verb ↔ s = verb.name := by
  constructor
  · intro h
    have hname := List.find?_some (p := fun v : Verb => v.name == s) h
    exact (eq_of_beq hname).symm
  · rintro rfl
    cases verb <;> rfl

/-- Behind a subcommand stand its arguments, and what stands in front of it has to settle. -/
theorem readInner_eq_ok_iff {outer : Reading} {verb : Verb} {words : List String}
    {i : Invocation} :
    readInner outer verb words = .ok i ↔
      ∃ config noCache values o, Behind verb words config noCache values ∧
        Fits verb values noCache i.command ∧ outer.settle .top = .ok o ∧
        i.config = config.or o.config := by
  unfold readInner
  constructor
  · intro h
    cases hr : Reading.wordsOf (.inner verb) .blank words with
    | error e =>
      rw [hr] at h
      cases h
    | ok r =>
      obtain ⟨s, c, n, vs, hs, hbehind, hadds⟩ := Reading.wordsOf_sound words .blank rfl rfl hr
      obtain rfl := Reading.eq_of_settle hs rfl
      simp only [hr] at h
      split at h
      · rename_i hun
        split at h
        · cases h
        · rename_i o ho
          obtain rfl := Except.ok.inj h
          have hvalues : r.values = vs := hadds.values_eq
          have hnoCache : r.noCache = n := by rw [hadds.noCache_eq]; rfl
          have hconfig : r.config = c := by rw [hadds.config_eq]; exact Option.or_none
          subst hvalues hnoCache hconfig
          exact ⟨_, _, _, o, hbehind, fits_iff.mpr ⟨hadds.fills, hun, rfl⟩, ho, rfl⟩
      · cases h
  · rintro ⟨c, n, vs, o, hbehind, hfits, ho, hconfig⟩
    have hfills : Fills verb.positionals vs :=
      (fits_iff (r := ⟨none, n, vs, none, [], false⟩).mp hfits).1
    obtain ⟨r, hr, hadds⟩ := Reading.wordsOf_complete hbehind (r := .blank) (s := .blank) rfl rfl rfl
      (.inl rfl) (.inl rfl) hfills
    have hvalues : r.values = vs := hadds.values_eq
    have hnoCache : r.noCache = n := by rw [hadds.noCache_eq]; rfl
    have hinner : r.config = c := by rw [hadds.config_eq]; exact Option.or_none
    subst hvalues hnoCache hinner
    obtain ⟨-, hun, hcommand⟩ := fits_iff.mp hfits
    obtain ⟨config, cmd⟩ := i
    obtain rfl : cmd = command verb r := hcommand
    obtain rfl : config = r.config.or o.config := hconfig
    simp only [hr, hun, ho]

/-! ## The words in front of it -/

section Outer

variable {outer r₁ : Reading} {verb : Verb} {w : String} {words : List String} {i : Invocation}

/-- No subcommand stands behind an escape. -/
theorem readOuter_escaped (he : outer.escaped = true) : readOuter outer words ≠ .ok i := by
  induction words generalizing outer with
  | nil =>
    rw [readOuter]
    split <;> nofun
  | cons w ws ih =>
    intro h
    simp only [readOuter, he, Bool.true_or, if_true, not_true_eq_false, false_and, and_false,
      if_false, Reading.word] at h
    split at h
    · cases h
    · rename_i hposition
      obtain ⟨_, _, _, hfree, -⟩ := Reading.position_eq_ok_iff.mp hposition
      cases hfree

theorem readOuter_verb (he : outer.escaped = false) (ha : outer.awaitsValue = false) :
    readOuter outer (verb.name :: words) = readInner outer verb words := by
  simp only [readOuter, he, ha, Bool.or_false, Bool.false_eq_true, if_false,
    Verb.ofName?_eq_some_iff.mpr rfl]

theorem readOuter_cons_eq_ok (he : outer.escaped = false)
    (h : readOuter outer (w :: words) = .ok i) :
    (outer.awaitsValue = false ∧ ∃ verb : Verb, w = verb.name ∧
      readInner outer verb words = .ok i) ∨
    ∃ r₁, Reading.Step .top outer w r₁ ∧ readOuter r₁ words = .ok i := by
  rw [readOuter] at h
  simp only [he, Bool.false_or] at h
  split at h
  · rename_i verb hverb
    split at hverb
    · cases hverb
    · exact .inl ⟨eq_false_of_ne_true ‹_›, verb, Verb.ofName?_eq_some_iff.mp hverb, h⟩
  · split at h
    · cases h
    split at h
    · cases h
    · exact .inr ⟨_, (Reading.word_eq_ok_iff he).mp ‹_›, h⟩

theorem readOuter_of_step (he : outer.escaped = false) (hstep : Reading.Step .top outer w r₁)
    (hw : outer.awaitsValue = true ∨ w.toList.head? = some '-') :
    readOuter outer (w :: words) = readOuter r₁ words := by
  have hverb : (if outer.awaitsValue = true then none else Verb.ofName? w) = none := by
    rcases hw with ha | hw
    · rw [if_pos ha]
    split
    · rfl
    cases hv : Verb.ofName? w with
    | none => rfl
    | some verb =>
      obtain rfl := Verb.ofName?_eq_some_iff.mp hv
      cases verb <;> exact absurd hw (by decide)
  have hhelp : ¬ (w = helpWord ∧ ¬ outer.escaped = true ∧ ¬ outer.awaitsValue = true) := by
    rintro ⟨rfl, -, ha⟩
    exact absurd (hw.resolve_left ha) (by decide)
  rw [readOuter]
  simp only [he, Bool.false_or]
  simp only [he] at hhelp
  rw [hverb, if_neg hhelp, (Reading.word_eq_ok_iff he).mpr hstep]

/-- The word behind a config option that waits for its value is the value. -/
theorem readOuter_await (hs : outer.escaped = false)
    (h : readOuter { outer with pending := some ⟨.config, none⟩ } words = .ok i) :
    ∃ value rest, words = value :: rest ∧ IsFreeWord value ∧
      readOuter { outer with pending := some ⟨.config, some value⟩ } rest = .ok i := by
  cases words with
  | nil => cases h
  | cons value rest =>
    rcases readOuter_cons_eq_ok (by exact hs) h with ⟨ha, -⟩ | ⟨r₁, hstep, hrest⟩
    · simp [Reading.awaitsValue, hs] at ha
    cases hstep with
    | escape => exact absurd hrest (readOuter_escaped rfl)
    | noCache _ settles | await _ settles | attach _ settles | position _ _ settles =>
      exact absurd settles Reading.settle_await
    | value word => exact ⟨value, rest, rfl, word, hrest⟩

/-- The words that are read are a sentence, whose config option in front may have been read before.
-/
theorem readOuter_sound (words : List String) (outer : Reading) (he : outer.escaped = false)
    (ha : outer.awaitsValue = false) (h : readOuter outer words = .ok i) :
    ∃ s config before verb rest inner noCache values, outer.settle .top = .ok s ∧
      (s.config = none ∨ config = none) ∧ Front before config ∧
      words = before ++ verb.name :: rest ∧ Behind verb rest inner noCache values ∧
      Fits verb values noCache i.command ∧ i.config = inner.or (config.or s.config) := by
  match words with
  | [] =>
    rw [readOuter] at h
    split at h <;> cases h
  | w :: ws =>
    rcases readOuter_cons_eq_ok he h with ⟨-, verb, rfl, hinner⟩ | ⟨r₁, hstep, hrest⟩
    · obtain ⟨inner, n, vs, s, hbehind, hfits, hs, hconfig⟩ := readInner_eq_ok_iff.mp hinner
      exact ⟨s, none, [], verb, ws, inner, n, vs, hs, .inr rfl, .none, rfl, hbehind, hfits, hconfig⟩
    cases hstep with
    | escape => exact absurd hrest (readOuter_escaped rfl)
    | noCache checkout => cases checkout
    | @await s w word settles =>
      obtain ⟨hpending, hescaped, -⟩ := Reading.settled settles
      obtain ⟨value, rest, rfl, hfree, hrest⟩ := readOuter_await (hescaped.trans he) hrest
      obtain ⟨s₁, c, before, verb, behind, inner, n, vs, hs₁, hfirst, hfront, hwords, hbehind,
        hfits, hconfig⟩ :=
        readOuter_sound rest _ (by exact hescaped.trans he) (by simp [Reading.awaitsValue]) hrest
      obtain ⟨first, ne_empty, rfl⟩ := (Reading.settle_config_iff hpending).mp hs₁
      obtain rfl : c = none := hfirst.resolve_left nofun
      cases hfront
      obtain rfl : rest = verb.name :: behind := hwords
      exact ⟨s, some value, [w, value], verb, behind, inner, n, vs, settles, .inl first,
        .config (.apart word hfree ne_empty), rfl, hbehind, hfits, hconfig⟩
    | @attach s w value word settles first ne_empty =>
      obtain ⟨hpending, hescaped, -⟩ := Reading.settled settles
      obtain ⟨s₁, c, before, verb, behind, inner, n, vs, hs₁, hfirst, hfront, hwords, hbehind,
        hfits, hconfig⟩ :=
        readOuter_sound ws _ (by exact hescaped.trans he) (by simp [Reading.awaitsValue, hpending])
          hrest
      obtain rfl := Reading.eq_of_settle hs₁ hpending
      obtain rfl : c = none := hfirst.resolve_left nofun
      cases hfront
      obtain rfl : ws = verb.name :: behind := hwords
      exact ⟨s, some value, [w], verb, behind, inner, n, vs, settles, .inl first,
        .config (.attached word ne_empty), rfl, hbehind, hfits, hconfig⟩
    | value word awaits => exact absurd awaits (by simp [ha])
    | position _ _ _ free => cases free
termination_by words.length

end Outer

/-- A config option in front of the subcommand is read, and waits to be settled. -/
theorem readOuter_config {before : List String} {value : String} (h : ConfigOption before value)
    (words : List String) :
    ∃ outer s : Reading, outer.escaped = false ∧ outer.awaitsValue = false ∧
      outer.settle .top = .ok s ∧ s.config = some value ∧
      readOuter .blank (before ++ words) = readOuter outer words := by
  cases h with
  | @attached w _ word ne_empty =>
    have hdash : w.toList.head? = some '-' := by cases word <;> simp
    exact ⟨_, _, rfl, rfl, rfl, rfl,
      readOuter_of_step rfl (.attach word rfl rfl ne_empty) (.inr hdash)⟩
  | @apart w _ word free ne_empty =>
    have hdash : w.toList.head? = some '-' := by rcases word with rfl | rfl <;> rfl
    have hsettle : ({ Reading.blank with pending := some ⟨.config, some value⟩ }).settle .top =
        .ok _ := (Reading.settle_config_iff rfl).mpr ⟨rfl, ne_empty, rfl⟩
    exact ⟨_, _, rfl, rfl, hsettle, rfl,
      (readOuter_of_step rfl (.await word rfl) (.inr hdash)).trans
        (readOuter_of_step rfl (.value free rfl) (.inl rfl))⟩

/-! ## Main statement -/

/-- The words that are read are the sentences, and they are read as what the sentence says. -/
theorem read_eq_ok_iff {words : List String} {i : Invocation} :
    read words = .ok i ↔ Sentence words i := by
  constructor
  · intro h
    obtain ⟨s, c, before, verb, rest, inner, n, vs, hs, -, hfront, rfl, hbehind, hfits, hconfig⟩ :=
      readOuter_sound words .blank rfl rfl h
    obtain rfl := Reading.eq_of_settle hs rfl
    obtain ⟨config, command⟩ := i
    obtain rfl : config = inner.or (c.or none) := hconfig
    rw [Option.or_none]
    exact .mk hfront hbehind hfits
  · rintro ⟨hfront, hbehind, hfits⟩
    cases hfront with
    | none =>
      rw [read, List.nil_append, readOuter_verb rfl rfl]
      exact readInner_eq_ok_iff.mpr ⟨_, _, _, _, hbehind, hfits, rfl, rfl⟩
    | config option =>
      obtain ⟨outer, s, he, ha, hs, hconfig, hread⟩ := readOuter_config option _
      rw [read, hread, readOuter_verb he ha]
      exact readInner_eq_ok_iff.mpr ⟨_, _, _, s, hbehind, hfits, hs, by rw [hconfig]⟩

example : read ["-c=a", "checkout", "p", "--no-cache", "--", "--no-cache"] =
    .ok ⟨some "a", .checkout "p" "--no-cache" true⟩ := by rfl

end BenchCheckout.CommandLine
