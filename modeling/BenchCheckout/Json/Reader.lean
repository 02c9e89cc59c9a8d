import BenchCheckout.Json.Token

/-!
# Reading values of a known shape

A `Reader α` takes one value off the tokens. It reads from left to right and stops at the first
fault. `string`, `path` and `word32` read single values, `list` a list of values of one kind,
`Record.read` a structure, and `skip` a value of any kind whose contents do not matter.

A structure is read from an object, whose unknown fields are skipped, or from the list of its fields
in the order of their declaration.
-/

namespace BenchCheckout.Json

def Reader (α : Type) : Type := List Token → Except Fault (α × List Token)

namespace Reader

/-- The fault of a value that is not of the expected kind. -/
def unexpected (expected : String) : List Token → Fault
  | [] => .endInValue
  | t :: _ =>
    match t with
    | .null => .invalidType .null expected
    | .boolean b => .invalidType (.boolean b) expected
    | .number n =>
      match n.value with
      | .ok v => .invalidType v.found expected
      | .error f => f
    | .brokenNumber f _ => f
    | .text (.ok s) _ => .invalidType (.string s) expected
    | .text (.error f) _ => f
    | .openList => .invalidType .sequence expected
    | .openObject => .invalidType .map expected
    | .brokenWord f => f
    | .closeObject | .closeList | .comma | .colon | .stray => .expectedValue

def stringAs (expected : String) : Reader String
  | .text (.ok s) _ :: r => .ok (s, r)
  | ts => .error (unexpected expected ts)

def string : Reader String := stringAs "a string"

def path : Reader String := stringAs "path string"

/-- An integer of 32 bits without a sign. -/
def word32 : Reader UInt32
  | ts@(.number n :: r) =>
    match n.value with
    | .ok (.natural v) =>
      if v < UInt32.size then .ok (UInt32.ofNat v, r)
      else .error (.invalidValue (.integer v) "u32")
    | .ok (.negative v) => .error (.invalidValue (.integer (-(v : Int))) "u32")
    | _ => .error (unexpected "u32" ts)
  | ts => .error (unexpected "u32" ts)

/-! ## Lists -/

/-- Where the next element of a list starts, or `none` in front of the closing bracket. -/
def nextElement (isFirst : Bool) : List Token → Except Fault (Option (List Token))
  | [] => .error .endInList
  | .closeList :: _ => .ok none
  | ts@(t :: r) =>
    if isFirst then .ok (some ts)
    else match t, r with
      | .comma, [] => .error .endInValue
      | .comma, .closeList :: _ => .error .trailingComma
      | .comma, r => .ok (some r)
      | _, _ => .error .expectedListCommaOrEnd

/-- The elements from behind the opening bracket on. The fuel bounds their number. -/
def elements {α : Type} (element : Reader α) : Nat → Bool → Reader (List α)
  | 0, _, _ => .error .endInList
  | fuel + 1, isFirst, ts =>
    match nextElement isFirst ts with
    | .error f => .error f
    | .ok none => .ok ([], ts.drop 1)
    | .ok (some ts) =>
      match element ts with
      | .error f => .error f
      | .ok (x, ts) => (elements element fuel false ts).map fun (xs, r) => (x :: xs, r)

def list {α : Type} (element : Reader α) : Reader (List α)
  | .openList :: r => elements element (r.length + 1) true r
  | ts => .error (unexpected "a sequence" ts)

/-! ## Any value -/

inductive Bracket where
  | list
  | object

/-- What a skipped value may go on with. -/
inductive Awaits where
  | value
  /-- Behind an opening bracket of a list. -/
  | elementOrEnd
  /-- Behind an opening brace. -/
  | keyOrEnd
  /-- Behind a comma in an object. -/
  | key
  | colon
  /-- Behind a value. -/
  | separator

/-- What to wait for behind the first token of a value, and the bracket that it opens. -/
def skipStart : Token → Except Fault (Awaits × List Bracket)
  | .null | .boolean _ | .number _ | .text _ none => .ok (.separator, [])
  | .openList => .ok (.elementOrEnd, [.list])
  | .openObject => .ok (.keyOrEnd, [.object])
  | .text _ (some f) | .brokenNumber _ f | .brokenWord f => .error f
  | .closeObject | .closeList | .comma | .colon | .stray => .error .expectedValue

/-- The fault at the end of the text. -/
def skipEnd : Awaits → List Bracket → Fault
  | .value, _ => .endInValue
  | .elementOrEnd, _ | .separator, .list :: _ => .endInList
  | _, _ => .endInObject

/-- One token, with the brackets that are open around it. -/
def skipToken (awaits : Awaits) (opened : List Bracket) (t : Token) :
    Except Fault (Awaits × List Bracket) :=
  match awaits, opened, t with
  | .separator, .list :: _, .comma => .ok (.value, opened)
  | .separator, .object :: _, .comma => .ok (.key, opened)
  | .separator, .list :: outer, .closeList => .ok (.separator, outer)
  | .separator, .object :: outer, .closeObject => .ok (.separator, outer)
  | .separator, .list :: _, _ => .error .expectedListCommaOrEnd
  | .separator, _, _ => .error .expectedObjectCommaOrEnd
  | .elementOrEnd, _ :: outer, .closeList => .ok (.separator, outer)
  | .keyOrEnd, _ :: outer, .closeObject => .ok (.separator, outer)
  | .keyOrEnd, _, .text _ none | .key, _, .text _ none => .ok (.colon, opened)
  | .keyOrEnd, _, .text _ (some f) | .key, _, .text _ (some f) => .error f
  | .keyOrEnd, _, _ | .key, _, _ => .error .keyNotString
  | .colon, _, .colon => .ok (.value, opened)
  | .colon, _, _ => .error .expectedColon
  | .value, _, t | .elementOrEnd, _, t =>
    (skipStart t).map fun (awaits, bracket) => (awaits, bracket ++ opened)

def skipFrom (awaits : Awaits) (opened : List Bracket) : List Token → Except Fault (List Token)
  | [] =>
    match awaits, opened with
    | .separator, [] => .ok []
    | _, _ => .error (skipEnd awaits opened)
  | ts@(t :: r) =>
    match awaits, opened with
    | .separator, [] => .ok ts
    | _, _ =>
      match skipToken awaits opened t with
      | .error f => .error f
      | .ok (awaits, opened) => skipFrom awaits opened r

/-- A value of any kind. -/
def skip (ts : List Token) : Except Fault (List Token) := skipFrom .value [] ts

end Reader

/-! ## Structures -/

/-- A field of a structure of which the fields read so far are in a draft of type `σ`. -/
structure Field (σ : Type) where
  name : String
  required : Bool
  isSet : σ → Bool
  read : Reader (σ → σ)

/-- How a structure is read: its name, its fields in order, the draft without any field, and the
structure that a draft with every required field stands for. -/
structure Record (σ α : Type) where
  name : String
  fields : List (Field σ)
  blank : σ
  build : σ → α

namespace Record

variable {σ α : Type}

def expected (r : Record σ α) : String := "struct " ++ r.name

/-- The finished structure, or the first required field that is not set. -/
def finish (r : Record σ α) (draft : σ) : Except Fault α :=
  match r.fields.find? fun f => f.required && !f.isSet draft with
  | some f => .error (.missingField f.name)
  | none => .ok (r.build draft)

/-- Behind a key. -/
def colon : List Token → Except Fault (List Token)
  | [] => .error .endInObject
  | .colon :: r => .ok r
  | _ => .error .expectedColon

/-- Where the next key starts, or `none` in front of the closing brace. -/
def nextKey (isFirst : Bool) : List Token → Except Fault (Option (List Token))
  | [] => .error .endInObject
  | .closeObject :: _ => .ok none
  | ts@(t :: r) =>
    if isFirst then
      match t with
      | .text .. => .ok (some ts)
      | _ => .error .keyNotString
    else match t, r with
      | .comma, [] => .error .endInValue
      | .comma, .closeObject :: _ => .error .trailingComma
      | .comma, .text s l :: r => .ok (some (.text s l :: r))
      | .comma, _ => .error .keyNotString
      | _, _ => .error .expectedObjectCommaOrEnd

/-- One key and its value. A field that is set may not come again; other keys may. -/
def member (r : Record σ α) (draft : σ) (key : String) (ts : List Token) :
    Except Fault (σ × List Token) :=
  match r.fields.find? (·.name == key) with
  | some f =>
    if f.isSet draft then .error (.duplicateField key)
    else
      match colon ts with
      | .error e => .error e
      | .ok ts => (f.read ts).map fun (set, ts) => (set draft, ts)
  | none =>
    match colon ts with
    | .error e => .error e
    | .ok ts => (Reader.skip ts).map (draft, ·)

/-- The members from behind the opening brace on. The fuel bounds their number. -/
def members (r : Record σ α) : Nat → Bool → σ → Reader α
  | 0, _, _, _ => .error .endInObject
  | fuel + 1, isFirst, draft, ts =>
    match nextKey isFirst ts with
    | .error e => .error e
    | .ok none => (r.finish draft).map (·, ts.drop 1)
    | .ok (some (.text (.ok key) _ :: ts)) =>
      match r.member draft key ts with
      | .error e => .error e
      | .ok (draft, ts) => members r fuel false draft ts
    | .ok (some (.text (.error e) _ :: _)) => .error e
    | .ok (some _) => .error .keyNotString

/-- Behind the fields of a structure that is written as a list. -/
def closeList : List Token → Except Fault (List Token)
  | [] => .error .endInList
  | .closeList :: r => .ok r
  | .comma :: .closeList :: _ => .error .trailingComma
  | _ => .error .trailingCharacters

/-- The structure's name and its size, as the expectation that a short list fails. -/
def sizeText (r : Record σ α) : String :=
  r.expected ++ " with " ++ r.fields.length.repr ++
    (if r.fields.length = 1 then " element" else " elements")

/-- The fields in their order; those that may be left out can be missing at the end. -/
def inOrder (r : Record σ α) : List (Field σ) → Nat → σ → Reader α
  | [], _, draft, ts => (closeList ts).map (r.build draft, ·)
  | f :: fs, index, draft, ts =>
    match Reader.nextElement (index == 0) ts with
    | .error e => .error e
    | .ok none =>
      if f.required then .error (.invalidLength index r.sizeText)
      else inOrder r fs (index + 1) draft ts
    | .ok (some ts) =>
      match f.read ts with
      | .error e => .error e
      | .ok (set, ts) => inOrder r fs (index + 1) (set draft) ts

def read (r : Record σ α) : Reader α
  | .openObject :: ts => members r (ts.length + 1) true r.blank ts
  | .openList :: ts => inOrder r r.fields 0 r.blank ts
  | ts => .error (Reader.unexpected r.expected ts)

end Record

/-- A text that is one value and nothing else. -/
def readAll {α : Type} (reader : Reader α) (s : String) : Except Fault α :=
  match reader (tokens s.toList) with
  | .error f => .error f
  | .ok (x, []) => .ok x
  | .ok (_, _ :: _) => .error .trailingCharacters

end BenchCheckout.Json
