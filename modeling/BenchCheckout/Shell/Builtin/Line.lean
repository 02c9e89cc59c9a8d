import BenchCheckout.Shell.Builtin.Basic
import BenchCheckout.Shell.Field

/-!
# Reading a line

`read` takes a line from the input and cuts it into fields for variables. A backslash takes the
meaning of the character behind it, and a line feed behind it away, unless the line is read raw.
-/

namespace BenchCheckout.Shell.Builtin

open Turn

/-- A line while it is being read. -/
structure LineDraft where
  text : Expanded
  /-- Where the stretch starts that is to be cut. -/
  start : Nat
  /-- A backslash takes the meaning of the next character. -/
  isEscaping : Bool

/-- Read a line; whether its end was found, and what is left. -/
def readLineFrom (raw : Bool) (d : LineDraft) : List Char → LineDraft × Bool × List Char
  | [] => (d, false, [])
  | c :: cs =>
    let closed (e : Expanded) : LineDraft :=
      let e' := { e with regions := e.regions.push ⟨d.start, d.text.size, false⟩ }
      ⟨e', e'.size, false⟩
    if c = '\x00' then readLineFrom raw d cs
    else if d.isEscaping then
      readLineFrom raw (closed (if c = '\n' then d.text else d.text.push (.quoted c))) cs
    else if c = '\\' && !raw then readLineFrom raw { d with isEscaping := true } cs
    else if c = '\n' then (d, true, cs)
    else readLineFrom raw { d with text := d.text.push (.plain c) } cs

/-- Give fields to variables; those without a field become empty. -/
def assignFields : List String → List String → Turn Unit
  | [], _ => pure ()
  | name :: names, fields => do
    assignNamed name (some (fields.headD "")) false false
    assignFields names (fields.drop 1)

def readLine (args : List String) : Turn Nat := do
  let (found, names) ← options ['r'] ['p'] args
  if names.isEmpty then fault "arg count"
  let s ← get
  let index := s.descriptors.get? 0
  let available := (index.bind fun i => (s.machine.read i none).toOption).getD (.empty, s.machine)
  let raw := found.any (·.1 == 'r')
  let (d, isWhole, rest) := readLineFrom raw ⟨.empty, 0, false⟩
    (Octets.ofBytes available.1).toList
  let machine := match index with
    | some i => available.2.giveBack i (Octets.toBytes (String.ofList rest))
    | none => available.2
  set { s with machine }
  let e := d.text.record d.start false
  let fields := e.fieldsUpTo (some names.length) s.separators
  assignFields names (fields.map Glyph.text)
  pure (if isWhole then 0 else 1)

end BenchCheckout.Shell.Builtin
