import BenchCheckout.Shell.State

/-!
# What built-in commands share

Their options, the numbers among their arguments, and how they show a text so that it can be read as
a script again.
-/

namespace BenchCheckout.Shell.Builtin

open Turn

/-- The letters of a word of options; the last one may need the next word. -/
def letters (plain valued : List Char) : List Char → Turn (List (Char × String) × Option Char)
  | [] => pure ([], none)
  | c :: cs => do
    if c ∈ valued then
      if cs.isEmpty then pure ([], some c) else pure ([(c, String.ofList cs)], none)
    else if c ∈ plain then
      let (found, open?) ← letters plain valued cs
      pure ((c, "") :: found, open?)
    else fault ("Illegal option -" ++ c.toString)

/-- The options at the start of arguments, in order, and the other arguments. -/
def options (plain valued : List Char) : List String → Turn (List (Char × String) × List String)
  | [] => pure ([], [])
  | "--" :: ws => pure ([], ws)
  | w :: ws => do
    match w.toList with
    | '-' :: c :: cs =>
      match ← letters plain valued (c :: cs) with
      | (found, none) =>
        let (more, words) ← options plain valued ws
        pure (found ++ more, words)
      | (found, some c) =>
        match ws with
        | v :: ws => do
          let (more, words) ← options plain valued ws
          pure (found ++ (c, v) :: more, words)
        | [] => fault ("No arg for -" ++ c.toString ++ " option")
    | _ => pure ([], w :: ws)

/-- The arguments behind options, of which there are none. -/
def plainWords (ws : List String) : Turn (List String) := do return (← options [] [] ws).2

/-- A number that counts something. -/
def count (w : String) : Turn Nat :=
  match Number.count? w with
  | some n => pure n
  | none => fault ("Illegal number: " ++ w)

/-- A text in quotes: single ones, and double ones around the single ones in it. -/
def inQuotes (s : String) : String :=
  String.ofList (go (s.length + 1) s.toList)
where
  go : Nat → List Char → List Char
    | 0, _ => []
    | n + 1, s =>
      let plain := s.takeWhile (· ≠ '\'')
      let rest := s.dropWhile (· ≠ '\'')
      let quotes := rest.takeWhile (· = '\'')
      let head := '\'' :: plain ++ ['\'']
      if quotes.isEmpty then head
      else
        let rest := rest.dropWhile (· = '\'')
        head ++ '"' :: quotes ++ ['"'] ++ if rest.isEmpty then [] else go n rest

end BenchCheckout.Shell.Builtin
