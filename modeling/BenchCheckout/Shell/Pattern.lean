import BenchCheckout.Machine.Scene

/-!
# Patterns of names

A pattern is a text in which a star stands for any text, a question mark for any character, and a
bracket for one of a set; a backslash takes its meaning from the next character. `Pattern.fits`
compares a text with a pattern and `Pattern.paths` lists the paths that a pattern stands for.
-/

namespace BenchCheckout.Shell

abbrev Pattern := List Char

namespace Pattern

/-! ## Sets of characters -/

/-- The order of bytes in a range of a set, where those above 127 come first. -/
def rank (c : Char) : Int := if c.toNat < 128 then c.toNat else (c.toNat : Int) - 256

/-- The class that is named behind a bracket inside of a set, and what follows. -/
def classAt (p : Pattern) : Option ((Char → Bool) × Pattern) :=
  Octets.classes.findSome? fun (name, isIn) =>
    let mark := (":" ++ name ++ ":]").toList
    if mark.isPrefixOf p then some (isIn, p.drop mark.length) else none

/-- Whether a character is in the set whose next sign is `c`, and what follows the set. A set without
an end is none. -/
def setFrom (chr : Char) : Nat → Bool → Char → Pattern → Option (Bool × Pattern)
  | 0, _, _, _ => none
  | n + 1, found, c, p =>
    let goOn (found : Bool) (p : Pattern) : Option (Bool × Pattern) :=
      match p with
      | [] => none
      | ']' :: p => some (found, p)
      | c :: p => setFrom chr n found c p
    let single (c : Char) (p : Pattern) : Option (Bool × Pattern) :=
      match p with
      | '-' :: d :: rest =>
        if d = ']' then goOn (found || chr == c) p
        else
          let upTo (d : Char) (rest : Pattern) :=
            goOn (found || (rank c ≤ rank chr && rank chr ≤ rank d)) rest
          match d, rest with
          | '\\', e :: rest => upTo e rest
          | d, rest => upTo d rest
      | p => goOn (found || chr == c) p
    if c = '[' then
      match classAt p with
      | some (isIn, p) => goOn (found || isIn chr) p
      | none => single c p
    else if c = '\\' then
      match p with
      | [] => none
      | c :: p => single c p
    else single c p

/-- The set behind an opening bracket: whether a character is one of it, and what follows. -/
def setAt (chr : Char) (p : Pattern) : Option (Bool × Pattern) :=
  let (inverted, p) := match p with
    | '!' :: p => (true, p)
    | p => (false, p)
  match p with
  | [] => none
  | c :: p => (setFrom chr (p.length + 1) false c p).map fun (found, p) => (found != inverted, p)

/-! ## Fitting -/

/-- A text and what is left of it after each of its characters. -/
def suffixes : List Char → List (List Char)
  | [] => [[]]
  | c :: s => (c :: s) :: suffixes s

def fitsFrom : Nat → Pattern → List Char → Bool
  | 0, _, _ => false
  | _ + 1, [], s => s.isEmpty
  | n + 1, c :: p, s =>
    let literal (c : Char) (p : Pattern) : Bool :=
      match s with
      | d :: s => c == d && fitsFrom n p s
      | [] => false
    match c with
    | '\\' =>
      match p with
      | d :: p => literal d p
      | [] => literal '\\' []
    | '?' => match s with
      | _ :: s => fitsFrom n p s
      | [] => false
    | '*' =>
      match p.dropWhile (· = '*') with
      | [] => true
      | p => (suffixes s).any (fitsFrom n p)
    | '[' =>
      match s with
      | [] => false
      | d :: rest =>
        match setAt d p with
        | some (found, p) => found && fitsFrom n p rest
        | none => literal '[' p
    | c => literal c p

/-- The whole text fits the pattern. -/
def fits (p : Pattern) (s : List Char) : Bool := fitsFrom (p.length + 1) p s

/-! ## Paths -/

/-- Some sign of it may stand for others. -/
def isActive (p : Pattern) : Bool := p.any (· ∈ ['*', '?', '['])

/-- The characters that a text without active signs stands for. -/
def unescaped : Pattern → List Char
  | '\\' :: c :: p => c :: unescaped p
  | c :: p => c :: unescaped p
  | [] => []

/-- A set behind an opening bracket ends in front of the next slash. -/
def closesSet : Nat → Pattern → Bool
  | 0, _ => false
  | n + 1, p =>
    let p := match p with
      | '\\' :: p => p
      | p => p
    match p with
    | [] | '/' :: _ => false
    | _ :: ']' :: _ => true
    | _ :: p => closesSet n p

def startsSet (p : Pattern) : Bool :=
  match p with
  | '!' :: p => closesSet (p.length + 1) p
  | p => closesSet (p.length + 1) p

/-- A pattern cut at its first name with active signs: what stands before, the name, and what
follows the slash behind it. -/
structure Cut where
  before : Pattern
  name : Pattern
  after : Option Pattern

/-- `before` and `name` have their characters in reverse. -/
def cutFrom (before name : Pattern) (active : Bool) : Pattern → Option Cut
  | [] => if active then some ⟨before.reverse, name.reverse, none⟩ else none
  | '\\' :: '/' :: p =>
    if active then some ⟨before.reverse, name.reverse, some p⟩
    else cutFrom ('/' :: '\\' :: name ++ before) [] false p
  | '\\' :: c :: p => cutFrom before (c :: '\\' :: name) active p
  | '/' :: p =>
    if active then some ⟨before.reverse, name.reverse, some p⟩
    else cutFrom ('/' :: name ++ before) [] false p
  | c :: p =>
    let active := active || c == '*' || c == '?' || (c == '[' && startsSet p)
    cutFrom before (c :: name) active p

/-- A name that starts with a dot fits only a pattern that does. -/
def fitsName (p : Pattern) (name : String) : Bool :=
  let matchesDot := match p with
    | '.' :: _ | '\\' :: '.' :: _ => true
    | _ => false
  (matchesDot || !name.startsWith ".") && fits p name.toList

/-- The paths in `dir` that a pattern stands for. -/
def pathsIn (scene : Scene) : Nat → (dir : String) → Pattern → List String
  | 0, _, _ => []
  | n + 1, dir, p =>
    match cutFrom [] [] false p with
    | none =>
      if dir = "" then []
      else
        let path := dir ++ String.ofList (unescaped p)
        if (scene.findLink path).toBool then [path] else []
    | some cut =>
      let dir := dir ++ String.ofList (unescaped cut.before)
      match scene.list (if dir = "" then "." else dir) with
      | .error _ => []
      | .ok names =>
        (("." :: ".." :: names).filter (fitsName cut.name)).flatMap fun name =>
          match cut.after with
          | none => [dir ++ name]
          | some p => pathsIn scene n (dir ++ name ++ "/") p

/-- The paths that a pattern stands for, in order. -/
def paths (scene : Scene) (p : Pattern) : List String :=
  (pathsIn scene (p.length + 1) "" p).mergeSort (· ≤ ·)

end Pattern

end BenchCheckout.Shell
