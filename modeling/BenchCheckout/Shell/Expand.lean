import BenchCheckout.Shell.Arithmetic
import BenchCheckout.Shell.Field

/-!
# Expanding words

What the parts of a word stand for: values of parameters, the output of commands, numbers and home
directories. `Manner` says what a word is expanded for. The output of a command is given by the
interpreter of commands, as a parameter of the functions here.
-/

namespace BenchCheckout.Shell

/-- What a word is expanded for. -/
structure Manner where
  /-- The word is to be cut into fields. -/
  splits : Bool
  /-- A tilde at the start stands for a home directory. -/
  tilde : Bool
  /-- The word is an assignment: tildes may follow its equals sign, and colons. -/
  assigns : Bool
  /-- An equals sign has been passed. -/
  pastSign : Bool
  /-- The word stands behind the operator of a parameter. -/
  isInner : Bool
  isQuoted : Bool

namespace Manner

/-- An argument of a command. -/
def argument : Manner := ⟨true, true, false, false, false, false⟩

def assignment : Manner := ⟨false, false, true, false, false, false⟩

/-- A text that stays whole. -/
def whole : Manner := ⟨false, true, false, false, false, false⟩

/-- A text that stays whole, and in which a tilde is nothing but itself. -/
def plain : Manner := ⟨false, false, false, false, false, false⟩

/-- A text of a redirection. -/
def document : Manner := ⟨false, false, false, false, false, true⟩

/-- The word behind the operator of a parameter that is expanded in this manner. -/
def inner (m : Manner) : Manner := { m with tilde := true, isInner := true }

def quotedIf (isQuoted : Bool) (m : Manner) : Manner :=
  { m with isQuoted := m.isQuoted || isQuoted }

/-- Characters of the word itself separate fields. -/
def cutsText (m : Manner) : Bool := m.isInner && !m.isQuoted

end Manner

namespace State

/-! ## Parameters -/

/-- The options, in the order in which they are shown. -/
def optionLetters : List Char :=
  ['u', 'b', 'a', 'C', 'E', 'V', 'v', 'x', 's', 'n', 'm', 'i', 'I', 'f', 'e']

/-- The value of a parameter that is one text. -/
def parameter? (s : State) (name : String) : Option String :=
  match name.toList with
  | ['$'] => some s.mainProcess.repr
  | ['?'] => some s.status.repr
  | ['#'] => some s.args.length.repr
  | ['!'] => s.lastBackground.map (·.repr)
  | ['-'] => some (String.ofList (optionLetters.filter (· ∈ s.options)))
  | ds =>
    if ds.all Char.isDigit ∧ ds ≠ [] then
      match Number.decimal ds with
      | 0 => some s.name
      | n + 1 => s.args[n]?
    else s.value? name

/-- What stands between two arguments, if anything does. -/
def argumentSeparator (s : State) (name : String) (m : Manner) : Option Char :=
  if m.splits && (!m.isQuoted || name = "@") then
    if m.isQuoted ∨ (s.value? "IFS").isSome then some Glyph.divider else some ' '
  else
    match s.value? "IFS" with
    | some ifs => ifs.toList.head?
    | none => some ' '

/-- The characters of a parameter's value, if it has one. -/
def parameterChars? (s : State) (name : String) (m : Manner) : Option (List Char) :=
  if name = "@" ∨ name = "*" then
    let separator := (s.argumentSeparator name m).toList
    some ((s.args.map String.toList).intersperse separator).flatten
  else (s.parameter? name).map String.toList

/-! ## Home directories -/

def home? (s : State) (user : String) : Option String :=
  match user with
  | "" => s.value? "HOME"
  | "root" => some "/root"
  | _ => none

end State

/-- The name behind a tilde, if nothing in it is quoted. -/
def userName (assigns : Bool) : List Part → Option (List Char)
  | [] => some []
  | .plain '/' :: _ => some []
  | .plain c :: ps =>
    if assigns ∧ c = ':' then some [] else (userName assigns ps).map (c :: ·)
  | _ => none

/-- A tilde at the start of parts: the directory that it stands for, and the number of parts that
name it. -/
def homeAt (s : State) (assigns : Bool) (ps : List Part) : Option (String × Nat) :=
  match ps with
  | .plain '~' :: rest => do
    let user ← userName assigns rest
    let home ← s.home? (String.ofList user)
    some (home, user.length)
  | _ => none

/-! ## Cutting values -/

/-- The characters in front of the first divider. -/
def firstArgument (value : List Char) : List Char := value.takeWhile (· ≠ Glyph.divider)

/-- A value without the start or the end that fits a pattern. Where dividers are in it, all that
matters of a part is what stands in front of the first one; from the left only the first argument is
looked at, while a cut takes away whatever is on its side. -/
def trimmed (edit : Edit) (p : Pattern) (value : List Char) : List Char :=
  let fits (part : List Char) : Bool := p.fits (firstArgument part)
  let fromRight := (List.range (value.length + 1)).reverse
  let fromLeft := List.range ((firstArgument value).length + 1)
  match edit with
  | .cutStart longest =>
    let found := (if longest then fromRight else fromLeft).find? fun n => fits (value.take n)
    value.drop (found.getD 0)
  | .cutEnd longest =>
    let found := (if longest then fromLeft else fromRight).find? fun n => fits (value.drop n)
    value.take (found.getD value.length)
  | _ => value

namespace Turn

/-! ## Parts of words -/

/-- Complain about a parameter that has no value. -/
def unset {α : Type} (name text : String) : Turn α := fault (name ++ ": " ++ text)

/-- The complaint about a parameter that has to have a value. -/
def missingText (orEmpty : Bool) (word : Word) (text : String) : String :=
  if word.isEmpty then "parameter not set" ++ (if orEmpty then " or null" else "") else text

/-- Note the stretch of a parameter's value as one to be cut. -/
def recorded (name : String) (m : Manner) (start : Nat) (e : Expanded) : Turn Expanded := do
  if m.isQuoted then
    if name = "@" ∧ (← get).args ≠ [] then pure (e.record start true) else pure e
  else pure (e.record start false)

/-- The value of a parameter behind what is expanded already. -/
def pushValue (name : String) (m : Manner) (value : List Char) (e : Expanded) : Turn Expanded :=
  recorded name m e.size (e.pushText m.isQuoted value)

/-- Where a walk through the parts of a word is. -/
structure Walk where
  inQuotes : Bool
  /-- Where the run of plain characters starts that the last parts are. -/
  start : Nat
  /-- A tilde here stands for a directory. -/
  tilde : Bool
  /-- The number of parts that are passed over. -/
  passed : Nat

namespace Walk

def begin (m : Manner) (e : Expanded) : Walk := ⟨false, e.size, m.tilde, 0⟩

/-- The walk behind a part that is no plain character. -/
def behind (w : Walk) (e : Expanded) : Walk := { w with start := e.size, tilde := false }

/-- Plain characters of the word itself are cut if the manner is so. -/
def closeRun (w : Walk) (m : Manner) (e : Expanded) : Expanded :=
  if m.cutsText && !w.inQuotes && w.start < e.size then e.record w.start false else e

end Walk

/-- The arguments in quotes, and nothing else there. -/
def areArguments (ps : List Part) : Bool :=
  match ps with
  | .parameter "@" .bare false [] :: .mark :: _ => true
  | _ => false

variable (output : Command → Turn String)

mutual

/-- What a part stands for. -/
def expandPart (m : Manner) (e : Expanded) : Part → Turn Expanded
  | .plain c => pure (e.push (.plain c))
  | .quoted c => pure (e.push (.quoted c))
  | .mark => pure (e.push .mark)
  | .output script => do
    let text ← output script
    let e' := e.pushText m.isQuoted text.toList
    pure (if m.isQuoted then e' else e'.record e.size false)
  | .number expression => do
    let inside ← expandFrom .plain (.begin .plain .empty) .empty expression
    let n ← Arithmetic.value inside.text
    let e' := e.pushText m.isQuoted (Number.text n).toList
    pure (if m.isQuoted then e' else e'.record e.size false)
  | .parameter name edit orEmpty word => do
    if edit = .malformed then fault "Bad substitution"
    else
      let s ← get
      let value := (s.parameterChars? name m).filter fun v => !(orEmpty && v.isEmpty)
      let noteUnset : Turn Unit :=
        if value.isNone ∧ s.has 'u' then unset name "parameter not set" else pure ()
      let expanded (m : Manner) (e : Expanded) : Turn Expanded := expandFrom m (.begin m e) e word
      match edit, value with
      | .bare, value => do
        noteUnset
        pushValue name m (value.getD []) e
      | .length, value => do
        noteUnset
        let e' := e.pushText m.isQuoted (value.getD []).length.repr.toList
        recorded name m e.size e'
      | .default, none | .alternative, some _ => expanded m.inner e
      | .alternative, none => recorded name m e.size e
      | .default, some v | .assign, some v | .require, some v => pushValue name m v e
      | .assign, none => do
        let inside ← expanded .whole .empty
        assignNamed name (some inside.text) false false
        pushValue name m (((← get).parameterChars? name m).getD []) e
      | .require, none => do
        let inside ← expanded .whole .empty
        unset name (missingText orEmpty word inside.text)
      | _, none => do
        noteUnset
        pure e
      | edit, some v => do
        let inside ← expanded .whole .empty
        pushValue name m (trimmed edit (Glyph.pattern true inside.glyphs.toList) v) e

/-- Expand parts one after the other. -/
def expandFrom (m : Manner) (w : Walk) (e : Expanded) : List Part → Turn Expanded
  | [] => pure (w.closeRun m e)
  | p :: ps => do
    match w.passed with
    | n + 1 => expandFrom m { w with passed := n } e ps
    | 0 =>
      let s ← get
      match (if w.tilde then homeAt s m.assigns (p :: ps) else none) with
      | some (home, passed) =>
        let e := (w.closeRun m e).pushText true home.toList
        expandFrom m { w.behind e with passed } e ps
      | none =>
        match p with
        | .plain c =>
          let e := e.push (.plain c)
          let isSign := m.assigns && c == '=' && !m.pastSign
          let tilde := isSign || (m.assigns && c == ':')
          expandFrom { m with pastSign := m.pastSign || isSign } { w with tilde } e ps
        | .mark =>
          let e := w.closeRun m e
          if !w.inQuotes && areArguments ps then
            let m' := m.quotedIf true
            let e ← pushValue "@" m' (((← get).parameterChars? "@" m').getD []) e
            expandFrom m { w.behind e with passed := 2 } e ps
          else
            let e := e.push .mark
            expandFrom m { w.behind e with inQuotes := !w.inQuotes } e ps
        | p => do
          let e ← expandPart (m.quotedIf w.inQuotes) (w.closeRun m e) p
          expandFrom m (w.behind e) e ps

end

/-- Expand a word. -/
def expand (m : Manner) (w : Word) : Turn Expanded :=
  expandFrom output m (.begin m .empty) .empty w

/-- The text that a word stands for. -/
def textOf (m : Manner) (w : Word) : Turn String := do return (← expand output m w).text

/-- The fields of a word, with patterns replaced by the paths that fit. -/
def fieldsOf (w : Word) : Turn (List String) := do
  let e ← expand output .argument w
  let s ← get
  pure <| (e.fields s.separators).flatMap fun gs =>
    if s.has 'f' then [Glyph.text gs] else Glyph.paths s.scene gs

/-- The pattern that a word stands for. -/
def patternOf (w : Word) : Turn Pattern := do
  return Glyph.pattern true (← expand output .whole w).glyphs.toList

end Turn

end BenchCheckout.Shell
