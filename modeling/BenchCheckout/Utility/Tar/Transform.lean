import BenchCheckout.Regex.Reader

/-!
# Transformed names

A `Transform` replaces what matches an expression in a name. It is written as a letter and three
texts between four equal signs: the expression, its replacement and letters that say more.
-/

namespace BenchCheckout.Utility.Tar

/-- How letters of a replacement are changed, up to the next change. -/
inductive Casing where
  | asItIs
  | lower
  | upper
deriving DecidableEq, Repr

inductive Piece where
  | text (s : List Char)
  /-- What a group has matched; the group 0 is all of it. -/
  | group (number : Nat)
  | casing (c : Casing)
  /-- For the first letter only. -/
  | nextCasing (c : Casing)

structure Transform where
  regex : Regex
  replacement : List Piece
  isGlobal : Bool
  /-- The first match that is replaced. -/
  number : Nat
  names : Bool
  hardLinks : Bool
  symbolicLinks : Bool

namespace Transform

/-! ## Reading -/

/-- The text up to a sign that no backslash stands in front of, and what is behind the sign. -/
def upTo (sign : Char) : List Char → Option (List Char × List Char)
  | [] => none
  | '\\' :: c :: cs => (upTo sign cs).map fun (s, rest) => ('\\' :: c :: s, rest)
  | c :: cs =>
    if c = sign then some ([], cs) else (upTo sign cs).map fun (s, rest) => (c :: s, rest)

/-- The character that a letter stands for behind a backslash. -/
def escape? (c : Char) : Option Char :=
  match c with
  | '\\' => some '\\'
  | '&' => some '&'
  | 'a' => some '\x07'
  | 'f' => some '\x0c'
  | 'n' => some '\n'
  | 'r' => some '\r'
  | 't' => some '\t'
  | 'v' => some '\x0b'
  | _ => none

/-- The pieces of a replacement. So many characters are left at most. -/
def pieces : Nat → List Char → List Piece
  | 0, _ | _, [] => []
  | n + 1, '\\' :: c :: cs =>
    if c.isDigit then
      let ds := (c :: cs).takeWhile Char.isDigit
      .group (ds.foldl (fun n d => 10 * n + (d.toNat - '0'.toNat)) 0) ::
        pieces n ((c :: cs).drop ds.length)
    else
      let piece : Piece := match escape? c with
        | some d => .text [d]
        | none =>
          match c with
          | 'L' => .casing .lower
          | 'U' => .casing .upper
          | 'E' => .casing .asItIs
          | 'l' => .nextCasing .lower
          | 'u' => .nextCasing .upper
          | c => .text ['\\', c]
      piece :: pieces n cs
  | n + 1, '&' :: cs => .group 0 :: pieces n cs
  | n + 1, c :: cs =>
    let s := (c :: cs).takeWhile fun d => d ≠ '\\' && d ≠ '&'
    if s.isEmpty then .text [c] :: pieces n cs else .text s :: pieces n ((c :: cs).drop s.length)

/-- The greatest group that a replacement refers to. -/
def greatestGroup (ps : List Piece) : Nat :=
  ps.foldl (fun n p => match p with
    | .group k => max n k
    | _ => n) 0

structure Letters where
  isGlobal : Bool
  folds : Bool
  extended : Bool
  number : Nat
  names : Bool
  hardLinks : Bool
  symbolicLinks : Bool

/-- What a letter says about the kinds of names that are transformed. -/
def kinds? (c : Char) (l : Letters) : Option Letters :=
  match c with
  | 'r' => some { l with names := true }
  | 'R' => some { l with names := false }
  | 'h' => some { l with hardLinks := true }
  | 'H' => some { l with hardLinks := false }
  | 's' => some { l with symbolicLinks := true }
  | 'S' => some { l with symbolicLinks := false }
  | _ => none

/-- The letters up to a semicolon, and what is behind it. -/
def letters : List Char → Letters → Except String (Letters × List Char)
  | [], l => .ok (l, [])
  | c :: cs, l =>
    if c = ';' then .ok (l, cs)
    else if c = 'g' then letters cs { l with isGlobal := true }
    else if c = 'i' then letters cs { l with folds := true }
    else if c = 'x' then letters cs { l with extended := true }
    else if c.isDigit then letters cs { l with number := 10 * l.number + (c.toNat - '0'.toNat) }
    else match kinds? c l with
      | some l => letters cs l
      | none => .error ("Unknown flag in transform expression: " ++ c.toString)

/-- The letters that hold for all transforms behind them. -/
def commonLetters : List Char → Letters → Except String (Letters × List Char)
  | [], l => .ok (l, [])
  | c :: cs, l =>
    if c = ';' then .ok (l, cs)
    else match kinds? c l with
      | some l => commonLetters cs l
      | none => .error ("Unknown transform flag: " ++ c.toString)

def plainLetters : Letters := ⟨false, false, false, 0, true, true, true⟩

/-- The transform at the start of a text that is none of letters alone, and what is behind it. -/
def one (common : Letters) : List Char → Except String (Transform × List Char)
  | 's' :: sign :: cs => do
    let some (source, cs) := upTo sign cs | .error "Invalid transform expression"
    let some (target, cs) := upTo sign cs | .error "Invalid transform expression"
    let (l, rest) ← letters cs common
    match Regex.readGrouped ⟨l.extended, l.folds⟩ source with
    | .error flaw => .error ("Invalid transform expression: " ++ flaw.text)
    | .ok (regex, groups) =>
      let replacement := pieces (target.length + 1) target
      if groups < greatestGroup replacement then
        .error "Invalid transform replacement: back reference out of range"
      else
        let isBound := source.head? = some '^' ∨ source.getLast? = some '$'
        .ok (⟨regex, replacement, l.isGlobal && !isBound, l.number, l.names, l.hardLinks,
          l.symbolicLinks⟩, rest)
  | _ => .error "Invalid transform expression"

/-- The transforms in a text, one behind the other. -/
def read : Nat → Letters → List Char → Except String (List Transform)
  | 0, _, _ | _, _, [] => .ok []
  | n + 1, common, cs =>
    let mark := "flags=".toList
    if mark.isPrefixOf cs then do
      let (common, rest) ← commonLetters (cs.drop mark.length)
        { plainLetters with names := false, hardLinks := false, symbolicLinks := false }
      read n common rest
    else do
      let (t, rest) ← one common cs
      return t :: (← read n common rest)

def ofText (s : String) : Except String (List Transform) :=
  match s.toList with
  | [] => .error "Invalid transform expression"
  | cs => read (cs.length + 1) plainLetters cs

/-! ## Replacing -/

/-- Of two places at one position, the one whose first groups reach farther. -/
def isBetter (p q : Regex.Place) : Bool :=
  if p.position ≠ q.position then q.position < p.position
  else
    let endOf (r : Regex.Place) (n : Nat) : Nat :=
      ((r.stretches.find? (·.1 == n)).map fun (_, _, stop) => stop + 1).getD 0
    let numbers := (p.stretches ++ q.stretches).map (·.1)
    match (List.range (numbers.foldl max 0 + 1)).find? fun n => endOf p n ≠ endOf q n with
    | some n => endOf q n < endOf p n
    | none => false

/-- The first match, as long as it can be: where it starts, and the place where it ends. -/
def firstMatch (r : Regex) (s : Array Char) : Option (Nat × Regex.Place) :=
  (List.range (s.size + 1)).findSome? fun start =>
    match r.reach s [⟨start, []⟩] with
    | [] => none
    | p :: ps => some (start, ps.foldl (fun best q => if isBetter q best then q else best) p)

def cased : Casing → List Char → List Char
  | .asItIs, s => s
  | .lower, s => s.map Char.toLower
  | .upper, s => s.map Char.toUpper

/-- The text of a replacement. `all`: for all letters; `next`: for the first one. -/
def replaced (s : Array Char) (start : Nat) (p : Regex.Place) :
    Casing → Option Casing → List Piece → List Char
  | _, _, [] => []
  | all, next, piece :: ps =>
    let put (cs : List Char) : List Char :=
      let shown := match next, cs with
        | some c, d :: ds => cased c [d] ++ cased all ds
        | _, cs => cased all cs
      shown ++ replaced s start p all (if cs.isEmpty then next else none) ps
    match piece with
    | .text cs => put cs
    | .group n =>
      let stretch? := if n = 0 then some (0, start, p.position)
        else p.stretches.find? (·.1 == n)
      match stretch? with
      | some (_, a, b) => put (s.extract a b).toList
      | none => replaced s start p all next ps
    | .casing c => replaced s start p c next ps
    | .nextCasing c => replaced s start p all (some c) ps

/-- Replace what matches in a text. So many matches may be left; `seen` were passed. -/
def applyFrom (t : Transform) : Nat → Nat → List Char → List Char
  | 0, _, cs => cs
  | n + 1, seen, cs =>
    if cs.isEmpty then []
    else
      let s := cs.toArray
      match firstMatch t.regex s with
      | none => cs
      | some (start, p) =>
        let rest := cs.drop p.position
        if seen + 1 < t.number then cs.take p.position ++ applyFrom t n (seen + 1) rest
        else
          let front := cs.take start ++ replaced s start p .asItIs none t.replacement
          front ++ if t.isGlobal then applyFrom t n (seen + 1) rest else rest

def apply (t : Transform) (name : String) : String :=
  String.ofList (applyFrom t (name.length + 1) 0 name.toList)

end Transform

end BenchCheckout.Utility.Tar
