import BenchCheckout.Shell.Token

/-!
# Reading commands

`Source.nextCommand` reads the commands up to the end of a line, because a line is run before the
next one is read: what is wrong with a later line is only told when the lines in front of it have
been run.
-/

namespace BenchCheckout.Shell

/-- The commands that a script can define no function in place of. -/
def specialNames : List String :=
  [":", ".", "break", "continue", "eval", "exec", "exit", "export", "local", "readonly", "return",
    "set", "shift", "times", "trap", "unset"]

namespace Reading

def check (checks : Checks) : Reading Unit := modify ({ · with checks })

def putTokenBack : Reading Unit := modify ({ · with again := true })

def lastToken : Reading Token := fun s => (.ok s.last, s)

def lastWord : Reading Word := fun s => (.ok s.lastWord, s)

def lineNumber : Reading Nat := fun s => (.ok s.line, s)

/-- The last token has no place where it stands. -/
def misplaced {α : Type} (wanted : Option Token) : Reading α := do
  throw (.unexpected (← lastToken).shown (wanted.map (·.shown)))

def misplacedFor {α : Type} (keyword : String) : Reading α := misplaced (some (.keyword keyword))

/-- Where a list of commands ends. -/
inductive ListEnd where
  | line
  /-- What ends it is left; it has at least one command. -/
  | inside
  /-- What ends it is left. -/
  | insideOrEmpty
deriving DecidableEq, Repr

def joined (first : Option Command) (second : Command) : Command :=
  match first with
  | none => second
  | some c => .sequence c second

/-- A command that is not waited for. -/
def inBackground (c : Command) : Command :=
  match c with
  | .pipeline cs _ => .pipeline cs false
  | .redirected line body rs => .background line body rs
  | c => .background 0 c []

/-- The target of a redirection to a descriptor. -/
def copyAim (w : Word) : Aim :=
  match w with
  | [.plain '-'] => .closed
  | [.plain c] => if c.isDigit then .copyOf (c.toNat - '0'.toNat) else .copyNamed w
  | w => .copyNamed w

/-- A redirection behind its arrow. -/
def redirect (list : Reading Command) (descriptor : Nat) (arrow : Arrow) : Reading Redirect := do
  if let .here _ := arrow then check { Checks.none with stop := true }
  match ← token list with
  | .word w isQuoted =>
    match arrow with
    | .file kind => pure (.to descriptor (.file kind w))
    | .copy => pure (.to descriptor (copyAim w))
    | .here tabs => do
      let s ← get
      let number := s.documents.size
      set { s with
        documents := s.documents.push []
        heres := s.heres ++ [HereText.mk number w.unquoted tabs isQuoted] }
      pure (.to descriptor (.document number))
  | _ => misplaced none

/-- Redirections, as long as there are any. -/
def redirects (list : Reading Command) : Nat → Reading (List Redirect)
  | 0 => throw .tooDeep
  | n + 1 => do
    match ← token list with
    | .arrow descriptor arrow => do
      let r ← redirect list descriptor arrow
      return r :: (← redirects list n)
    | _ => do
      putTokenBack
      pure []

/-- The words up to the next token that is none. -/
def wordsWhile (list : Reading Command) : Nat → Reading (List Word)
  | 0 => throw .tooDeep
  | n + 1 => do
    match ← token list with
    | .word w _ => return w :: (← wordsWhile list n)
    | _ => pure []

/-- Patterns up to the parenthesis that ends them. The first of them has been read. -/
def patterns (list : Reading Command) : Nat → Reading (List Word)
  | 0 => throw .tooDeep
  | n + 1 => do
    let w ← lastWord
    match ← token list with
    | .bar => do
      let _ ← token list
      return w :: (← patterns list n)
    | .closing => pure [w]
    | _ => misplaced (some .closing)

/-- A command with the redirections behind it. -/
def withRedirects (line : Nat) (c : Command) (rs : List Redirect) : Command :=
  match c, rs with
  | c, [] => c
  | .subshell line body _, rs => .subshell line body rs
  | c, rs => .redirected line c rs

/-- The size of what is left, as a bound for the tokens in it. -/
def sizeLeft : Reading Nat := do
  let s ← get
  let replaced := s.aliases.foldl (fun n a => n + a.2.length + 1) 1
  return (s.rest.length + 2) * replaced + 8

mutual

/-- Commands one after the other. -/
def list : Nat → ListEnd → Option Command → Reading (Option Command)
  | 0, _, _ => throw .tooDeep
  | n + 1, ending, before => do
    let readList : Reading Command := (list n .insideOrEmpty none).map (·.getD .nothing)
    check (if ending = .line then Checks.command else Checks.laterCommand)
    let t ← token readList
    match t with
    | .newline => do
      -- Only where a line ends the list: elsewhere line feeds are skipped.
      takeHeres readList
      pure before
    | .endOfFile => do
      takeHeres readList
      putTokenBack
      modify ({ · with last := .endOfFile })
      pure before
    | t => do
      putTokenBack
      let mayEnd := match ending with
        | .insideOrEmpty => true
        | .inside => before.isSome
        | .line => false
      if mayEnd && t.endsList then pure before
      else
        let c ← andOr n
        let t ← token readList
        let c := match t with
          | .ampersand => inBackground c
          | _ => c
        let all := joined before c
        match t with
        | .newline | .endOfFile => do
          putTokenBack
          list n ending (some all)
        | .ampersand | .semicolon => list n ending (some all)
        | _ => do
          if ending = .line then misplaced none
          putTokenBack
          pure (some all)

def andOr : Nat → Reading Command
  | 0 => throw .tooDeep
  | n + 1 => do
    let c ← pipeline n
    andOrFrom n c

def andOrFrom : Nat → Command → Reading Command
  | 0, _ => throw .tooDeep
  | n + 1, c => do
    let readList : Reading Command := (list n .insideOrEmpty none).map (·.getD .nothing)
    match ← token readList with
    | .andAnd => do
      check .laterCommand
      let d ← pipeline n
      andOrFrom n (.both c d)
    | .orOr => do
      check .laterCommand
      let d ← pipeline n
      andOrFrom n (.either c d)
    | _ => do
      putTokenBack
      pure c

def pipeline : Nat → Reading Command
  | 0 => throw .tooDeep
  | n + 1 => do
    let readList : Reading Command := (list n .insideOrEmpty none).map (·.getD .nothing)
    let t ← token readList
    let isNegated := t.isKeyword "!"
    if isNegated then check .command else putTokenBack
    let c ← command n
    let more ← pipelineFrom n
    let c := if more.isEmpty then c else .pipeline (c :: more) true
    pure (if isNegated then .negate c else c)

def pipelineFrom : Nat → Reading (List Command)
  | 0 => throw .tooDeep
  | n + 1 => do
    let readList : Reading Command := (list n .insideOrEmpty none).map (·.getD .nothing)
    match ← token readList with
    | .bar => do
      check .laterCommand
      let c ← command n
      return c :: (← pipelineFrom n)
    | _ => do
      putTokenBack
      pure []

/-- Commands inside of another one; there has to be one. -/
def body : Nat → Reading Command
  | 0 => throw .tooDeep
  | n + 1 => (list n .inside none).map (·.getD .nothing)

/-- Read a keyword. -/
def keyword : Nat → String → Reading Unit
  | 0, _ => throw .tooDeep
  | n + 1, name => do
    let readList : Reading Command := (list n .insideOrEmpty none).map (·.getD .nothing)
    let t ← token readList
    if t.isKeyword name then pure () else misplacedFor name

/-- A choice behind its `if` or `elif`. -/
def branch : Nat → Reading Command
  | 0 => throw .tooDeep
  | n + 1 => do
    let readList : Reading Command := (list n .insideOrEmpty none).map (·.getD .nothing)
    let condition ← body n
    keyword n "then"
    let first ← body n
    let t ← token readList
    if t.isKeyword "elif" then return .branch condition first (← branch n)
    else if t.isKeyword "else" then return .branch condition first (← body n)
    else
      putTokenBack
      pure (.branch condition first .nothing)

/-- The arms of a choice up to its end. -/
def arms : Nat → Reading (List Arm)
  | 0 => throw .tooDeep
  | n + 1 => do
    let readList : Reading Command := (list n .insideOrEmpty none).map (·.getD .nothing)
    check { Checks.none with newline := true, keyword := true }
    let t ← token readList
    if t.isKeyword "esac" then pure []
    else
      if let .opening := t then
        let _ ← token readList
      let ps ← patterns readList (← sizeLeft)
      let c := (← list n .insideOrEmpty none).getD .nothing
      check { Checks.none with newline := true, keyword := true }
      let t ← token readList
      if t.isKeyword "esac" then pure [.case ps c]
      else match t with
        | .endCase => return .case ps c :: (← arms n)
        | _ => misplaced (some .endCase)

/-- A loop over words behind its `for`. -/
def each : Nat → Nat → Reading Command
  | 0, _ => throw .tooDeep
  | n + 1, line => do
    let readList : Reading Command := (list n .insideOrEmpty none).map (·.getD .nothing)
    match ← token readList with
    | .word w false =>
      match w.plain? with
      | none => throw .badLoopVariable
      | some name =>
        if !isName name then throw .badLoopVariable
        check .laterCommand
        let t ← token readList
        let items ← do
          if t.isKeyword "in" then
            let ws ← wordsWhile readList (← sizeLeft)
            match ← lastToken with
            | .newline | .semicolon => pure ws
            | _ => misplaced none
          else
            match t with
            | .semicolon => pure [Word.arguments]
            | _ => do
              putTokenBack
              pure [Word.arguments]
        check .laterCommand
        keyword n "do"
        let c ← body n
        return .each line (String.ofList name) items c
    | _ => throw .badLoopVariable

def command : Nat → Reading Command
  | 0 => throw .tooDeep
  | n + 1 => do
    let readList : Reading Command := (list n .insideOrEmpty none).map (·.getD .nothing)
    let line ← lineNumber
    let ended (c : Command) : Reading Command := do
      check .command
      return withRedirects line c (← redirects readList (← sizeLeft))
    let t ← token readList
    match t with
    | .keyword "if" => do
      let c ← branch n
      keyword n "fi"
      ended c
    | .keyword "while" | .keyword "until" => do
      let condition ← body n
      keyword n "do"
      let c ← body n
      keyword n "done"
      ended (.repeated (t.isKeyword "while") condition c)
    | .keyword "for" => do
      let c ← each n line
      keyword n "done"
      ended c
    | .keyword "case" => do
      match ← token readList with
      | .word subject _ => do
        check .laterCommand
        keyword n "in"
        let as ← arms n
        ended (.choice line subject as)
      | _ => throw (.unexpected (← lastToken).shown (some "word"))
    | .keyword "\x7b" => do
      let c ← body n
      keyword n "\x7d"
      ended c
    | .opening => do
      let c ← body n
      match ← token readList with
      | .closing => ended (.subshell line c [])
      | _ => misplaced (some .closing)
    | .word .. | .arrow .. => do
      putTokenBack
      simple n (← lineNumber) { Checks.none with aliased := true } [] [] []
    | _ => misplaced none

/-- A command of words, with what has been read of it. -/
def simple : Nat → Nat → Checks → List Word → List Word → List Redirect → Reading Command
  | 0, _, _, _, _, _ => throw .tooDeep
  | n + 1, line, checks, assigned, words, rs => do
    let readList : Reading Command := (list n .insideOrEmpty none).map (·.getD .nothing)
    check checks
    match ← token readList with
    | .word w _ =>
      if checks.aliased && w.isAssignment then simple n line checks (assigned ++ [w]) words rs
      else simple n line .none assigned (words ++ [w]) rs
    | .arrow descriptor arrow => do
      let r ← redirect readList descriptor arrow
      simple n line checks assigned words (rs ++ [r])
    | .opening =>
      match words, assigned, rs with
      | [w], [], [] => do
        match ← token readList with
        | .closing => do
          let name := w.plain?.getD []
          if !isName name ∨ String.ofList name ∈ specialNames then throw .badFunctionName
          check .laterCommand
          let definedAt ← lineNumber
          let c ← command n
          return .define definedAt (String.ofList name) c
        | _ => misplaced (some .closing)
      | _, _, _ => do
        putTokenBack
        return .simple line assigned words rs
    | _ => do
      putTokenBack
      return .simple line assigned words rs

end

end Reading

namespace Source

/-- The commands up to the end of the next line; an empty line has none, and neither has the end of
the script, where `isOver` holds. -/
structure Line where
  command : Option Command
  isOver : Bool

/-- The next line of a script, or what is wrong with it. -/
def nextLine (s : Source) : Except Flaw Line × Source :=
  let s := { s with again := false, checks := .none, heres := [] }
  let replaced := s.aliases.foldl (fun n a => n + a.2.length + 1) 1
  let fuel := 16 * (s.rest.length + 2) * replaced + 64
  let (r, s) := Reading.list fuel .line none s
  (r.map fun c => ⟨c, c.isNone && s.isAtEnd⟩, s)

/-- A text that is read as if it stood in double quotes. -/
def quotedText (s : Source) : Except Flaw Word × Source :=
  let fuel := 16 * (s.rest.length + 2) + 64
  let readList : Reading Command := (Reading.list fuel .insideOrEmpty none).map (·.getD .nothing)
  let reading : Reading Word := do
    return (← Reading.wordFrom readList (some ⟨['\x00'], false⟩) .double (← Reading.nextJoined)).1
  reading s

end Source

end BenchCheckout.Shell
