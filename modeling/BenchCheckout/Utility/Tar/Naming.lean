import BenchCheckout.Shell.Pattern
import BenchCheckout.Utility.Tar.Source

/-!
# Which members are meant, and what they are called

A `Choice` has the operands and the patterns of what is left out. A member is meant if it is an
operand or below one. `placed` gives the name that a member is extracted under, which never leads
out of the directory that it is extracted into.
-/

namespace BenchCheckout.Utility.Tar

/-- What holds for a name on the command line. -/
structure Setting where
  /-- The directories that are gone to, one after the other. -/
  steps : List String
  excluded : List (List Char)
  recursive : Bool

structure Operand where
  name : String
  setting : Setting

structure Choice where
  operands : List Operand
  /-- What holds behind the last operand. -/
  last : Setting
  wildcards : Bool

namespace Choice

open Work

/-! ## Reading -/

/-- The lines of a text, without one that is empty at its end. -/
def linesOf (text : String) : List String :=
  let lines := (Path.cut '\n' text.toList).map String.ofList
  if lines.getLast? = some "" then lines.dropLast else lines

/-- The lines of a file. `what` cannot be done if there is none. -/
def readList (path : String) (missing : Fault → String) : Work (List String) := do
  match ← (Step.readWord path : Step _) with
  | .ok text => pure (linesOf text)
  | .error .isDirectory => do
    cannot path "read" .isDirectory
    throw .fatal
  | .error fault => fatal (missing fault)

/-- The operands that lines are. A line can name a directory that is gone to. -/
def operandsOf : List String → Setting → List Operand × Setting
  | [], setting => ([], setting)
  | line :: lines, setting =>
    if line = "" then operandsOf lines setting
    else if line.startsWith "-C" then
      let path := String.ofList ((line.toList.drop 2).dropWhile Octets.isBlank)
      operandsOf lines { setting with steps := setting.steps ++ [path] }
    else
      let (others, last) := operandsOf lines setting
      (⟨line, setting⟩ :: others, last)

/-- The patterns in lines, without blanks behind them. -/
def patternsOf (lines : List String) : List (List Char) :=
  (lines.map fun l => (l.toList.reverse.dropWhile Octets.isSpace).reverse).filter (· ≠ [])

/-- The operands among items, and what holds behind the last one. -/
def operandsIn : List Item → Setting → Work (List Operand × Setting)
  | [], setting => pure ([], setting)
  | .directory path :: items, setting =>
    operandsIn items { setting with steps := setting.steps ++ [path] }
  | .recursion isOn :: items, setting => operandsIn items { setting with recursive := isOn }
  | .excluded p :: items, setting =>
    operandsIn items { setting with excluded := setting.excluded ++ [p.toList] }
  | .excludedIn path :: items, setting => do
    let lines ← readList path fun fault => shown path ++ ": " ++ fault.summary
    operandsIn items { setting with excluded := setting.excluded ++ patternsOf lines }
  | .name text :: items, setting => do
    let (others, last) ← operandsIn items setting
    pure (⟨text, setting⟩ :: others, last)
  | .namesIn path :: items, setting => do
    let lines ← readList path fun fault => shown path ++ ": Cannot stat: " ++ fault.summary
    let (found, setting) := operandsOf lines setting
    let (others, last) ← operandsIn items setting
    pure (found ++ others, last)

def ofRequest (r : Request) : Work Choice := do
  let (operands, last) ← operandsIn r.items ⟨[], [], true⟩
  pure ⟨operands, last, r.wildcards⟩

/-! ## Matching -/

/-- The text itself, and what is in front of each of its slashes. -/
def heads (s : List Char) : List (List Char) :=
  s :: ((List.range s.length).filter fun i => s[i]? == some '/').map s.take

/-- The text itself, and what is behind each of its slashes. -/
def tails (s : List Char) : List (List Char) :=
  s :: ((List.range s.length).filter fun i => s[i]? == some '/').map fun i => s.drop (i + 1)

/-- A name is left out by a pattern that it fits, or that what is above it fits. -/
def isExcluded (patterns : List (List Char)) (name : String) : Bool :=
  patterns.any fun p => (tails name.toList).any fun s => (heads s).any (Shell.Pattern.fits p)

/-- A member belongs to an operand. -/
def belongsTo (c : Choice) (name : List Char) (o : Operand) : Bool :=
  let p := (Names.withoutSlashes o.name).toList
  let candidates := if o.setting.recursive then heads name else [name]
  p ≠ [] && (if c.wildcards then candidates.any (Shell.Pattern.fits p) else candidates.contains p)

/-- The first operand is empty, and everything belongs to it. -/
def takesAll (c : Choice) : Bool := (c.operands.head?.map Operand.name) == some ""

/-- Whether a member is meant. The directory of its operand is gone to. -/
def means (c : Choice) (name : String) : Work Bool := do
  let isLeft := isExcluded c.last.excluded name
  if c.operands.isEmpty then do
    if c.last.steps ≠ [] then goTo c.last.steps
    pure !isLeft
  else if c.takesAll then do
    goTo ((c.operands.head?.map fun o => o.setting.steps).getD [])
    pure !isLeft
  else
    match c.operands.findIdx? (c.belongsTo name.toList) with
    | none => pure false
    | some i => do
      modify fun t => { t with found := i :: t.found }
      goTo ((c.operands[i]?.map fun o => o.setting.steps).getD [])
      pure !isLeft

/-- Complain about operands that nothing belongs to. -/
def checkFound (c : Choice) : Work Unit := do
  if !c.takesAll then
    let found := (← get : Trip).found
    let missing := (c.operands.zipIdx.filter fun (o, i) => o.name ≠ "" && i ∉ found).map (·.1.name)
    forEach (complainOf missing) missing
where
  isPattern (name : String) : Bool := name.toList.any (· ∈ ['*', '?', '[', '\\'])
  complainOf (missing : List String) (name : String) : Work Unit := do
    if !c.wildcards ∧ isPattern name ∧ missing.find? isPattern = some name then
      warn "Pattern matching characters used in file names"
      warn ("Use --wildcards to enable pattern matching, or --no-wildcards to suppress this " ++
        "warning")
    complain (shown (Names.withoutSlashes name) ++ ": Not found in archive")

end Choice

/-! ## Names -/

namespace Naming

open Work

def hasDots (name : String) : Bool := (Path.pieces name).contains ".."

/-- How much of a name leads up or to the root: all up to its last two dots, and the slashes
behind. -/
def unsafeLength (name : List Char) : Nat :=
  let upTo := go 0 0 (Path.cut '/' name)
  upTo + ((name.drop upTo).takeWhile (· = '/')).length
where
  go (passed best : Nat) : List (List Char) → Nat
    | [] => best
    | piece :: pieces =>
      let next := passed + piece.length
      go (next + 1) (if piece = ['.', '.'] then next else best) pieces

/-- A name, or the target of a hard link, without what leads up or to the root. What was removed is
told once. -/
def safe (absolute isTarget : Bool) (name : String) : Work String := do
  let cs := name.toList
  let n := if absolute then 0 else unsafeLength cs
  let removed := String.ofList (cs.take n)
  let told := (← get : Trip).removed
  if 0 < n ∧ (isTarget, removed) ∉ told then
    modify fun t => { t with removed := (isTarget, removed) :: t.removed }
    warn ("Removing leading `" ++ removed ++ "' from " ++
      (if isTarget then "hard link targets" else "member names"))
  if n < cs.length then pure (String.ofList (cs.drop n))
  else
    if n = 0 then
      warn ("Substituting `.' for empty " ++ (if isTarget then "hard link target" else "member name"))
    pure "."

/-- A name without so many of its first components; without all of them it is empty. -/
def stripped : Nat → List Char → List Char
  | 0, cs => cs
  | n + 1, cs =>
    let rest := (cs.dropWhile (· = '/')).dropWhile (· ≠ '/')
    match rest with
    | [] => []
    | _ :: rest => if n = 0 then rest else stripped n rest

def withStripped (n : Nat) (name : String) : String := String.ofList (stripped n name.toList)

/-- The directory that everything is put into, called after the archive. -/
def topOf (r : Request) : Option String :=
  r.top.map fun name? => name?.getD <|
    let base := Names.base r.archive
    let ends := Source.endings.flatMap fun (e, _) => [".tar." ++ e, "." ++ e]
    let found := (ends ++ [".tar"]).find? fun e => e.toList.isSuffixOf base.toList
    String.ofList (base.toList.take (base.length - (found.elim 0 String.length)))

/-- A name in the directory that everything is put into. -/
def inTop (r : Request) (name : String) : String :=
  match topOf r with
  | none => name
  | some top =>
    match name.toList.dropWhile fun c => c = '/' ∨ c = '.' with
    | [] => top
    | cs =>
      if (Choice.heads cs).contains top.toList then name
      else
        let pieces := (Path.pieces name).filter fun p => !Path.isIdle p
        String.intercalate "/" (top :: pieces)

/-- A name after the transforms that are for its kind of names. -/
def transformed (ts : List Transform) (isFor : Transform → Bool) (name : String) : String :=
  (ts.filter isFor).foldl (fun name t => t.apply name) name

/-- The name that a member is extracted under. -/
def placed (r : Request) (name : String) : Work String := do
  let name := transformed r.transforms Transform.names (Names.withoutSlashes name)
  let name ← safe r.absolute false name
  pure (inTop r (withStripped r.stripped name))

/-- The target of a hard link, as a name that something was extracted under. -/
def placedTarget (r : Request) (target : String) : Work String := do
  let target ← safe r.absolute true (transformed r.transforms Transform.hardLinks target)
  pure (withStripped r.stripped target)

end Naming

end BenchCheckout.Utility.Tar
