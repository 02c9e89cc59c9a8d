import BenchCheckout.Shell.Command

/-!
# Tokens of shell scripts

A `Source` is a script that is being read. `Reading.token` reads its next token: an operator, a
redirection or a word. A word is read by a walk through its characters with a stack of frames, one
for each text that is enclosed in another: between braces, or between the parentheses of an
expression. What is wrong with a script is a `Flaw`.
-/

namespace BenchCheckout.Shell

/-- Why a script cannot be read. -/
inductive Flaw where
  | unexpected (token : String) (wanted : Option String)
  | openExpression
  | openQuote
  | openBrace
  | openBackquote
  | badLoopVariable
  | badFunctionName
  | badDescriptor
  /-- The nesting is too deep to be read. -/
  | tooDeep
deriving DecidableEq, Repr

def Flaw.text : Flaw → String
  | unexpected token none => token ++ " unexpected"
  | unexpected token (some wanted) => token ++ " unexpected (expecting " ++ wanted ++ ")"
  | openExpression => "Missing '))'"
  | openQuote => "Unterminated quoted string"
  | openBrace => "Missing '\x7d'"
  | openBackquote => "EOF in backquote substitution"
  | badLoopVariable => "Bad for loop variable"
  | badFunctionName => "Bad function name"
  | badDescriptor => "Bad fd number"
  | tooDeep => "Maximum nesting exceeded"

/-- How the text of a redirection is read: as it stands, or with parameters in it. -/
structure HereText where
  number : Nat
  stop : List Char
  tabs : Bool
  isQuoted : Bool

/-- A redirection whose word is still to be read. -/
inductive Arrow where
  | file (kind : OpenKind)
  | copy
  | here (tabs : Bool)
deriving DecidableEq, Repr

inductive Token where
  | endOfFile
  | newline
  | semicolon
  | ampersand
  | andAnd
  | orOr
  | bar
  | opening
  | closing
  | endCase
  | word (w : Word) (isQuoted : Bool)
  | arrow (descriptor : Nat) (arrow : Arrow)
  | keyword (name : String)

namespace Token

/-- The words with a meaning of their own where a command starts. -/
def keywords : List String :=
  ["!", "case", "do", "done", "elif", "else", "esac", "fi", "for", "if", "in", "then", "until",
    "while", "\x7b", "\x7d"]

def quoted (s : String) : String := "\"" ++ s ++ "\""

/-- A token in a complaint. -/
def shown : Token → String
  | endOfFile => "end of file"
  | newline => "newline"
  | semicolon => quoted ";"
  | ampersand => quoted "&"
  | andAnd => quoted "&&"
  | orOr => quoted "||"
  | bar => quoted "|"
  | opening => quoted "("
  | closing => quoted ")"
  | endCase => quoted ";;"
  | word .. => "word"
  | arrow .. => "redirection"
  | keyword name => quoted name

def isKeyword (name : String) : Token → Bool
  | keyword n => n == name
  | _ => false

/-- A list of commands can end in front of the token. -/
def endsList : Token → Bool
  | endOfFile | closing | endCase => true
  | keyword name => name ∈ ["do", "done", "elif", "else", "esac", "fi", "then", "\x7d"]
  | _ => false

end Token

/-- What the next token is checked for. -/
structure Checks where
  aliased : Bool
  keyword : Bool
  newline : Bool
  /-- The word ends a text in the script. -/
  stop : Bool

namespace Checks

def none : Checks := ⟨false, false, false, false⟩

/-- Where a command can start. -/
def command : Checks := ⟨true, true, false, false⟩

/-- Where a command can start on a later line. -/
def laterCommand : Checks := ⟨true, true, true, false⟩

end Checks

/-- A name that was replaced by its text: `left` characters follow that text. -/
structure OpenAlias where
  name : String
  left : Nat
  endsInBlank : Bool

structure Source where
  rest : List Char
  line : Nat
  aliases : List (String × String)
  openAliases : List OpenAlias
  /-- The last token is to be read once more. -/
  again : Bool
  last : Token
  lastWord : Word
  checks : Checks
  /-- Texts that start on the next line. -/
  heres : List HereText
  /-- The texts that were read. -/
  documents : Array Word

abbrev Reading := ExceptT Flaw (StateM Source)

namespace Source

def ofText (text : List Char) (aliases : List (String × String)) (documents : Array Word) :
    Source where
  rest := text
  line := 1
  aliases := aliases
  openAliases := []
  again := false
  last := .newline
  lastWord := []
  checks := .none
  heres := []
  documents := documents

/-- All of it has been read. -/
def isAtEnd (s : Source) : Bool :=
  s.again && (match s.last with
    | .endOfFile => true
    | _ => false)

end Source

namespace Reading

/-! ## Characters -/

/-- The next character. -/
def next : Reading (Option Char) := fun s =>
  match s.rest with
  | [] => (.ok none, s)
  | c :: cs => (.ok (some c), { s with rest := cs })

/-- The text without line feeds that a backslash takes away, and the number of these. -/
def joinLines : Nat → List Char → Nat × List Char
  | n, '\\' :: '\n' :: cs => joinLines (n + 1) cs
  | n, cs => (n, cs)

/-- The next character that is not taken away by a backslash. -/
def nextJoined : Reading (Option Char) := fun s =>
  let (n, rest) := joinLines 0 s.rest
  next { s with rest, line := s.line + n }

/-- The next character, still to be read. -/
def peekJoined : Reading (Option Char) := fun s =>
  let (n, rest) := joinLines 0 s.rest
  (.ok rest.head?, { s with rest, line := s.line + n })

def skip : Reading Unit := modify fun s => { s with rest := s.rest.drop 1 }

def putBack (c : Option Char) : Reading Unit :=
  modify fun s => { s with rest := c.toList ++ s.rest }

def countLine : Reading Unit := modify fun s => { s with line := s.line + 1 }

/-- Read characters as long as they fit. -/
def takeWhile (fits : Char → Bool) : Nat → Reading (List Char)
  | 0 => pure []
  | n + 1 => do
    match ← peekJoined with
    | some c => if fits c then do skip; return c :: (← takeWhile fits n) else pure []
    | none => pure []

def takeAll (fits : Char → Bool) : Reading (List Char) := do
  takeWhile fits (← get).rest.length

/-! ## Frames -/

inductive Quoting where
  | none
  | single
  | double
  | expression
deriving DecidableEq, Repr

/-- A text inside of which others are enclosed. -/
structure Frame where
  quoting : Quoting
  isDouble : Bool
  innerDouble : Bool
  /-- The frame was opened by a brace, and ends with it. -/
  isBraced : Bool
  braces : Nat
  doubleBraces : Nat
  parens : Nat

def Frame.start (quoting : Quoting) : Frame :=
  ⟨quoting, quoting == .double || quoting == .expression, false, false, 0, 0, 0⟩

/-- A part of a word whose end is still to come. -/
inductive OpenPart where
  | parameter (name : String) (edit : Edit) (orEmpty : Bool)
  | number

/-- A word while it is being read. -/
structure Draft where
  frame : Frame
  outer : List Frame
  /-- The parts of the innermost text, the last one first. -/
  parts : List Part
  around : List (OpenPart × List Part)
  isQuoted : Bool

namespace Draft

def start (quoting : Quoting) : Draft := ⟨.start quoting, [], [], [], false⟩

def add (p : Part) (d : Draft) : Draft := { d with parts := p :: d.parts }

def openPart (p : OpenPart) (d : Draft) : Draft :=
  { d with parts := [], around := (p, d.parts) :: d.around }

/-- End the innermost part. -/
def closePart (d : Draft) : Draft :=
  match d.around with
  | (.parameter name edit orEmpty, outer) :: around =>
    { d with parts := .parameter name edit orEmpty d.parts.reverse :: outer, around }
  | (.number, outer) :: around => { d with parts := .number d.parts.reverse :: outer, around }
  | [] => d

def push (f : Frame) (d : Draft) : Draft := { d with frame := f, outer := d.frame :: d.outer }

def pop (d : Draft) : Draft :=
  match d.outer with
  | f :: outer => { d with frame := f, outer }
  | [] => d

def change (f : Frame → Frame) (d : Draft) : Draft := { d with frame := f d.frame }

/-- A character as it stands in the frame. -/
def addChar (c : Char) (d : Draft) : Draft :=
  d.add (if d.frame.quoting = .none then .plain c else .quoted c)

end Draft

/-! ## Parameters -/

def isSpecialName (c : Char) : Bool := c ∈ ['@', '*', '#', '?', '-', '$', '!'] || c.isDigit

/-- A parameter without braces, behind its dollar sign. -/
def bareParameter : Reading (Option String) := do
  match ← peekJoined with
  | some c =>
    if isNameStart c then return some (String.ofList (← takeAll isNamePart))
    else if isSpecialName c then do skip; return some c.toString
    else pure none
  | none => pure none

/-- The edit that an operator stands for; the operator is read. -/
def readEdit : Reading (Edit × Bool) := do
  let c ← nextJoined
  let simple (c : Option Char) : Option Edit := match c with
    | some '}' => some .bare
    | some '-' => some .default
    | some '+' => some .alternative
    | some '?' => some .require
    | some '=' => some .assign
    | _ => none
  match c with
  | some ':' =>
    match simple (← nextJoined) with
    | some e => return (e, true)
    | none => return (.malformed, true)
  | some '#' =>
    match ← peekJoined with
    | some '#' => do skip; return (.cutStart true, false)
    | _ => return (.cutStart false, false)
  | some '%' =>
    match ← peekJoined with
    | some '%' => do skip; return (.cutEnd true, false)
    | _ => return (.cutEnd false, false)
  | c => return ((simple c).getD .malformed, false)

/-- A parameter in braces up to its edit: its name, the edit, and whether an empty value counts as
none. -/
def bracedParameter : Reading (String × Edit × Bool) := do
  let named (length : Bool) (isPart : Char → Bool) : Reading (String × Edit × Bool) := do
    let name := String.ofList (← takeAll isPart)
    if length then
      match ← peekJoined with
      | some '}' => do skip; pure (name, .length, false)
      | _ => pure (name, .malformed, false)
    else
      let (e, orEmpty) ← readEdit
      pure (name, e, orEmpty)
  match ← peekJoined with
  | none => pure ("", .malformed, false)
  | some c =>
    if isNameStart c then named false isNamePart
    else if c.isDigit then named false Char.isDigit
    else if c = '}' then pure ("", .malformed, false)
    else
      skip
      if c = '#' then
        match ← peekJoined with
        | none => do
          let (e, orEmpty) ← readEdit
          pure ("#", e, orEmpty)
        | some d =>
          if isNameStart d then named true isNamePart
          else if d.isDigit then named true Char.isDigit
          else
            skip
            match ← peekJoined with
            | some '}' =>
              if d = '}' then do
                putBack d
                let (e, orEmpty) ← readEdit
                pure ("#", e, orEmpty)
              else if isSpecialName d then do skip; pure (d.toString, .length, false)
              else pure ("", .malformed, false)
            | _ => do
              putBack d
              let (e, orEmpty) ← readEdit
              pure ("#", e, orEmpty)
      else if isSpecialName c then do
        let (e, orEmpty) ← readEdit
        pure (c.toString, e, orEmpty)
      else pure ("", .malformed, false)

/-- The frame of the word behind an edit, if it is a new one. -/
def wordFrame (f : Frame) (e : Edit) : Option Frame :=
  let quoting : Quoting := match e with
    | .cutStart _ | .cutEnd _ => .none
    | _ => if f.quoting = .expression then .double else f.quoting
  if quoting ≠ f.quoting ∨ f.innerDouble then
    some { Frame.start quoting with isBraced := true, isDouble := quoting ≠ .none }
  else none

/-- A parameter behind its dollar sign and brace. -/
def openParameter (d : Draft) : Reading Draft := do
  let (name, edit, orEmpty) ← bracedParameter
  if edit = .bare ∧ !orEmpty then return d.add (.parameter name .bare false [])
  else
    let edit := if edit = .bare then .malformed else edit
    let d := match wordFrame d.frame edit with
      | some f => d.push f
      | none => d
    let closed := edit = .length
    let d := (d.openPart (.parameter name edit orEmpty)).change fun f =>
      { f with
        braces := f.braces + 1
        doubleBraces := if f.isDouble then f.doubleBraces + 1 else f.doubleBraces }
    if closed then putBack '}'
    pure d

/-! ## Output of commands -/

/-- The text up to the closing backquote. -/
def backquoted (isDouble : Bool) : Nat → Reading (List Char)
  | 0 => throw .openBackquote
  | n + 1 => do
    match ← nextJoined with
    | none => throw .openBackquote
    | some '\x60' => pure []
    | some '\\' =>
      match ← next with
      | none => throw .openBackquote
      | some c =>
        if c ∈ ['\\', '\x60', '$'] ∨ (isDouble ∧ c = '"') then
          return c :: (← backquoted isDouble n)
        else return '\\' :: c :: (← backquoted isDouble n)
    | some c =>
      if c = '\n' then countLine
      return c :: (← backquoted isDouble n)

/-- The token in front of which a list of commands ended. -/
def takeLast : Reading Token := fun s => (.ok s.last, { s with again := false })

/-- Read a list of commands inside of something else. Texts that start on the next line are those
of the list alone. -/
def nested (list : Reading Command) : Reading Command := do
  let outer ← get
  set { outer with heres := [] }
  let c ← list
  modify ({ · with heres := outer.heres })
  pure c

/-- The commands of a text in backquotes. -/
def inBackquotes (list : Reading Command) (isDouble : Bool) : Reading Command := do
  let text ← backquoted isDouble ((← get).rest.length + 1)
  let outer ← get
  set { outer with rest := text, line := 1, openAliases := [] }
  let c ← nested list
  modify fun s => { s with
    rest := outer.rest, line := outer.line, openAliases := outer.openAliases, again := false }
  pure c

/-- The commands between parentheses, and the closing one. -/
def inParens (list : Reading Command) : Reading Command := do
  let c ← nested list
  match ← takeLast with
  | .closing => pure c
  | t => throw (.unexpected t.shown (some Token.closing.shown))

/-! ## Words -/

/-- What ends the text of a redirection: a line of its own. -/
structure Stop where
  text : List Char
  tabs : Bool

/-- If the line that starts here ends the text, take it away. Tabs at its start may go in any
case. -/
def atStop (stop : Option Stop) : Reading Bool := do
  match stop with
  | none => pure false
  | some stop =>
    let s ← get
    let rest := if stop.tabs then s.rest.dropWhile (· = '\t') else s.rest
    set { s with rest }
    if stop.text.isPrefixOf rest then
      match rest.drop stop.text.length with
      | [] => do
        set { s with rest := [] }
        pure true
      | '\n' :: rest => do
        set { s with rest, line := s.line + 1 }
        pure true
      | _ => pure false
    else pure false

/-- A character that ends a word. -/
def endsWord (c : Char) : Bool := c ∈ [' ', '\t', '\n', ';', '&', '|', '<', '>', '(', ')']

/-- What stands behind a dollar sign. -/
def afterDollar (list : Reading Command) (d : Draft) : Reading Draft := do
  let stops := (← get).checks.stop
  match ← peekJoined with
  | some '(' =>
    if stops then pure (d.addChar '$')
    else
      skip
      match ← peekJoined with
      | some '(' => do
        skip
        pure ((d.push { Frame.start .expression with isDouble := true }).openPart .number)
      | _ => return d.add (.output (← inParens list))
  | some '{' => if stops then pure (d.addChar '$') else do skip; openParameter d
  | _ =>
    if stops then pure (d.addChar '$')
    else match ← bareParameter with
      | some name => pure (d.add (.parameter name .bare false []))
      | none => pure (d.addChar '$')

/-- A backslash and what follows it. -/
def afterBackslash (inText : Bool) (d : Draft) : Reading Draft := do
  match ← next with
  | none => pure (d.add (.quoted '\\'))
  | some c =>
    if c = '\n' then countLine
    let isKept :=
      d.frame.isDouble && c ≠ '\\' && c ≠ '\x60' && c ≠ '$' &&
        (c ≠ '"' || (inText && d.frame.braces = 0)) && (c ≠ '}' || d.frame.braces = 0)
    let d := if isKept then d.add (.quoted '\\') else d
    pure { d.add (.quoted c) with isQuoted := true }

def toggleMark (inText : Bool) (d : Draft) : Draft := if inText then d else d.add .mark

def afterDoubleQuote (inText : Bool) (d : Draft) : Draft :=
  toggleMark inText <| d.change fun f =>
    if 0 < f.braces then { f with innerDouble := !f.innerDouble } else f

/-- A quote that ends what another one began. -/
def endQuote (inText : Bool) (c : Char) (d : Draft) : Draft :=
  if inText ∧ d.frame.braces = 0 then d.addChar c
  else
    let d := d.change fun f =>
      if f.doubleBraces = 0 then { f with quoting := .none, isDouble := false } else f
    let d := { d with isQuoted := true }
    if c = '"' then afterDoubleQuote inText d else toggleMark inText d

def afterBrace (d : Draft) : Draft :=
  let f := d.frame
  if !f.innerDouble ∧ 0 < f.braces then
    let d := d.closePart
    if f.braces = 1 ∧ f.isBraced then d.pop
    else d.change fun f =>
      { f with braces := f.braces - 1, doubleBraces := f.doubleBraces - 1 }
  else d.addChar '}'

def afterParen (d : Draft) : Reading Draft := do
  if 0 < d.frame.parens then
    pure ((d.addChar ')').change fun f => { f with parens := f.parens - 1 })
  else match ← peekJoined with
    | some ')' => do
      skip
      pure d.closePart.pop
    | _ => pure (d.addChar ')')

/-- Read a word to its end. The word's first character is `c`; with a `stop` the word is a text of
a redirection. -/
def walk (list : Reading Command) (stop : Option Stop) :
    Nat → Option Char → Draft → Reading Draft
  | 0, _, _ => throw .tooDeep
  | n + 1, c, d => do
    let inText := stop.isSome
    let goOn (d : Draft) : Reading Draft := do
      let c ← if d.frame.quoting = .single then next else nextJoined
      walk list stop n c d
    match c with
    | none => pure d
    | some c =>
      match d.frame.quoting with
      | .single =>
        if c = '\'' ∧ !inText then goOn (endQuote inText c d)
        else if c = '\n' then
          countLine
          let d := d.add (.quoted c)
          if ← atStop stop then pure d else goOn d
        else goOn (d.add (.quoted c))
      | quoting =>
        if c = '\n' then
          if quoting = .none ∧ d.frame.braces = 0 then do
            putBack c
            pure d
          else
            countLine
            let d := d.addChar c
            if ← atStop stop then pure d
            else
              let c ← next
              walk list stop n c d
        else if c = '\\' then goOn (← afterBackslash inText d)
        else if c = '$' then goOn (← afterDollar list d)
        else if c = '\x60' then
          if (← get).checks.stop then goOn { d.addChar c with isQuoted := true }
          else goOn (d.add (.output (← inBackquotes list d.frame.isDouble)))
        else if c = '}' then goOn (afterBrace d)
        else match quoting with
          | .none =>
            if c = '\'' then
              goOn (toggleMark inText (d.change ({ · with quoting := .single })))
            else if c = '"' then
              goOn (afterDoubleQuote inText
                (d.change ({ · with quoting := .double, isDouble := true })))
            else if endsWord c ∧ d.frame.braces = 0 then do
              putBack c
              pure d
            else goOn (d.addChar c)
          | .expression =>
            if c = '(' then
              goOn ((d.addChar c).change fun f => { f with parens := f.parens + 1 })
            else if c = ')' then goOn (← afterParen d)
            else goOn (d.addChar c)
          | _ =>
            if c = '"' then goOn (endQuote inText c d) else goOn (d.addChar c)

/-- Why a word cannot end where it did. -/
def draftFlaw (inText : Bool) (d : Draft) : Option Flaw :=
  if d.frame.quoting = .expression then some .openExpression
  else if d.frame.quoting ≠ .none ∧ !inText then some .openQuote
  else if d.frame.braces ≠ 0 then some .openBrace
  else none

/-- The word that starts with a character. -/
def wordFrom (list : Reading Command) (stop : Option Stop)
    (quoting : Quoting) (c : Option Char) : Reading (Word × Bool) := do
  let d ← walk list stop (2 * (← get).rest.length + 4) c (.start quoting)
  match draftFlaw stop.isSome d with
  | some flaw => throw flaw
  | none => pure (d.parts.reverse, d.isQuoted)

/-- The texts that start here, one after the other. -/
def readHeres (list : Reading Command) : List HereText → Reading Unit
  | [] => pure ()
  | h :: hs => do
    let stop : Stop := ⟨h.stop, h.tabs⟩
    let text ← do
      if ← atStop (some stop) then pure []
      else
        let c ← if h.isQuoted then next else nextJoined
        let quoting := if h.isQuoted then Quoting.single else Quoting.double
        let (w, _) ← wordFrom list (some stop) quoting c
        pure w
    modify fun s => { s with documents := s.documents.setIfInBounds h.number text }
    readHeres list hs

def takeHeres (list : Reading Command) : Reading Unit := do
  let heres := (← get).heres
  modify ({ · with heres := [] })
  readHeres list heres

/-! ## Tokens -/

/-- A redirection behind its first character. -/
def arrowFrom (c : Char) (descriptor : Option Nat) : Reading Token := do
  let choose (here : Arrow) (others : List (Char × Arrow)) : Reading Arrow := do
    match ← peekJoined with
    | some d =>
      match others.find? (·.1 == d) with
      | some (_, arrow) => do skip; pure arrow
      | none => pure here
    | none => pure here
  if c = '>' then
    let arrow ← choose (.file .output)
      [('>', .file .append), ('|', .file .overwrite), ('&', .copy)]
    pure (.arrow (descriptor.getD 1) arrow)
  else
    let arrow ← choose (.file .input) [('<', .here false), ('&', .copy), ('>', .file .both)]
    let arrow ← if arrow = .here false then choose arrow [('-', .here true)] else pure arrow
    pure (.arrow (descriptor.getD 0) arrow)

/-- The token that a word is, if no more is known of it. -/
def wordToken (list : Reading Command) (c : Char) : Reading Token := do
  let (w, isQuoted) ← wordFrom list none .none (some c)
  let arrow? := match (← get).rest with
    | '<' :: rest => some ('<', rest)
    | '>' :: rest => some ('>', rest)
    | _ => none
  let digit? : Option (Option Nat) := match w with
    | [] => some none
    | [.plain d] => if d.isDigit then some (some (d.toNat - '0'.toNat)) else none
    | _ => none
  match arrow?, digit?, isQuoted with
  | some (c, rest), some descriptor, false => do
    modify ({ · with rest })
    arrowFrom c descriptor
  | _, _, _ => do
    modify ({ · with lastWord := w })
    pure (.word w isQuoted)

/-- The next token, whatever may come of it if it is a word. -/
def rawToken (list : Reading Command) : Nat → Reading Token
  | 0 => pure .endOfFile
  | n + 1 => do
    let ifNext (d : Char) (long short : Token) : Reading Token := do
      if (← peekJoined) = some d then do skip; pure long else pure short
    match ← nextJoined with
    | none => pure .endOfFile
    | some c =>
      match c with
      | ' ' | '\t' => rawToken list n
      | '#' => do
        modify fun s => { s with rest := s.rest.dropWhile (· ≠ '\n') }
        rawToken list n
      | '\n' => do
        countLine
        pure .newline
      | '&' => ifNext '&' .andAnd .ampersand
      | '|' => ifNext '|' .orOr .bar
      | ';' => ifNext ';' .endCase .semicolon
      | '(' => pure .opening
      | ')' => pure .closing
      | c => wordToken list c

/-- The next token, or the last one again. -/
def rawTokenOrLast (list : Reading Command) : Reading Token := do
  let s ← get
  if s.again then
    set { s with again := false }
    pure s.last
  else
    let t ← rawToken list (s.rest.length + 1)
    modify ({ · with last := t })
    pure t

/-- Skip line feeds, and read the texts that start behind them. -/
def skipNewlines (list : Reading Command) : Nat → Token → Reading Token
  | 0, t => pure t
  | n + 1, t =>
    match t with
    | .newline => do
      takeHeres list
      modify ({ · with checks := .none })
      skipNewlines list n (← rawTokenOrLast list)
    | t => pure t

/-- Aliases whose text has been read to its end. One that ends in a blank is behind it once more
looked for. -/
def leaveAliases : Reading Bool := do
  let s ← get
  let length := s.rest.length
  let (done, inside) := s.openAliases.partition fun a => length ≤ a.left
  let ending : List OpenAlias := (done.filter fun a => a.left == length).map fun a =>
    { a with endsInBlank := false }
  set { s with openAliases := inside ++ ending }
  pure (done.any (·.endsInBlank))

/-- Put the text of an alias in front of the rest. -/
def enterAlias (name text : String) : Reading Unit := modify fun s =>
  let endsInBlank := match text.toList.getLast? with
    | some c => c = ' ' || c = '\t'
    | none => false
  if text.isEmpty then s
  else { s with
    rest := text.toList ++ s.rest
    openAliases := ⟨name, s.rest.length, endsInBlank⟩ :: s.openAliases }

/-- Read a token and check it for what was asked for. -/
def tokenFrom (list : Reading Command) : Nat → Checks → Reading Token
  | 0, _ => throw .tooDeep
  | n + 1, wanted => do
    let t ← rawTokenOrLast list
    let t ← if wanted.newline then skipNewlines list ((← get).rest.length + 2) t else pure t
    let isBehindBlank ← leaveAliases
    let s ← get
    let wanted := { wanted with
      aliased := wanted.aliased || s.checks.aliased || isBehindBlank
      keyword := wanted.keyword || s.checks.keyword
      newline := wanted.newline || s.checks.newline }
    set { s with checks := .none }
    match t with
    | .word w false =>
      match w.plain? with
      | none => pure t
      | some cs =>
        let text := String.ofList cs
        if wanted.keyword ∧ text ∈ Token.keywords then
          modify ({ · with last := .keyword text })
          pure (.keyword text)
        else if wanted.aliased ∧ !s.openAliases.any (·.name == text) then
          match s.aliases.find? (·.1 == text) with
          | some (_, value) => do
            enterAlias text value
            tokenFrom list n wanted
          | none => pure t
        else pure t
    | t => pure t

/-- The next token; `list` reads the commands inside of a word. -/
def token (list : Reading Command) : Reading Token := do
  let s ← get
  let replaced := s.aliases.foldl (fun n a => n + a.2.length + 1) 1
  tokenFrom list (s.rest.length + replaced) s.checks

end Reading

end BenchCheckout.Shell
