import BenchCheckout.Text.Octets

/-!
# Options of a utility

The words of a command line that start with a dash are options, up to a word of two dashes: rows of
letters, and long names that may be cut short as long as they are told apart. `Options.read` takes
them out of the words by a list of rules.
-/

namespace BenchCheckout.Utility

/-- Whether a value belongs to an option. -/
inductive Taking where
  | nothing
  | value
  /-- Only a value that is attached to the option. -/
  | attached
deriving DecidableEq, Repr

/-- An option: the key that it is known by, its letters and its long names. -/
structure OptionRule where
  key : String
  taking : Taking
  letters : List Char
  names : List String

namespace OptionRule

def flag (key : String) (letters : List Char) (names : List String) : OptionRule :=
  ⟨key, .nothing, letters, names⟩

def valued (key : String) (letters : List Char) (names : List String) : OptionRule :=
  ⟨key, .value, letters, names⟩

def attached (key : String) (letters : List Char) (names : List String) : OptionRule :=
  ⟨key, .attached, letters, names⟩

end OptionRule

/-- The options that were given, in order, the other words, and what is wrong with the first option
that is none. The other words are among the given ones too, under an empty key. -/
structure Options where
  given : List (String × Option String)
  words : List String
  flaw : Option String

namespace Options

def empty : Options := ⟨[], [], none⟩

/-- Words that are no options. -/
def plain (words : List String) : Options := ⟨words.map fun w => ("", some w), words, none⟩

def flawed (flaw : String) : Options := ⟨[], [], some flaw⟩

/-- One more option in front of the others. -/
def withOption (key : String) (value : Option String) (o : Options) : Options :=
  { o with given := (key, value) :: o.given }

def has (o : Options) (key : String) : Bool := o.given.any (·.1 == key)

/-- The values of an option, in order. -/
def values (o : Options) (key : String) : List String :=
  o.given.filterMap fun (k, v) => if k = key then v else none

def value? (o : Options) (key : String) : Option String := (o.values key).getLast?

/-- The option of some keys that was given last. -/
def last? (o : Options) (keys : List String) : Option String :=
  ((o.given.filter fun (k, _) => k ∈ keys).getLast?).map (·.1)

/-- The rules that a long name can mean, with the names. -/
def candidates (rules : List OptionRule) (name : String) : List (String × OptionRule) :=
  let all := rules.flatMap fun r => r.names.map (·, r)
  match all.find? (·.1 == name) with
  | some c => [c]
  | none => all.filter fun (n, _) => name.toList.isPrefixOf n.toList

/-- The rule that a long name means, or what is wrong with it. -/
def named (rules : List OptionRule) (word name : String) : Except String (String × OptionRule) :=
  match candidates rules name with
  | [] => .error ("unrecognized option '" ++ word ++ "'")
  | (n, r) :: others =>
    if others.all fun c => c.2.key == r.key then .ok (n, r)
    else
      let shown := ((n, r) :: others).map fun c => " '--" ++ c.1 ++ "'"
      .error ("option '" ++ word ++ "' is ambiguous; possibilities:" ++ String.join shown)

/-- The letters of a word, and whether the next word is the value of the last one. -/
def letters (rules : List OptionRule) :
    List Char → Except String (List (String × Option String) × Option String)
  | [] => .ok ([], none)
  | c :: cs =>
    match rules.find? (c ∈ ·.letters) with
    | none => .error ("invalid option -- '" ++ c.toString ++ "'")
    | some r =>
      match r.taking with
      | .nothing => (letters rules cs).map fun (found, open?) => ((r.key, none) :: found, open?)
      | .value =>
        if cs.isEmpty then .ok ([], some r.key) else .ok ([(r.key, some (String.ofList cs))], none)
      | .attached => .ok ([(r.key, if cs.isEmpty then none else some (String.ofList cs))], none)

/-- Read the words. With `stopsEarly` the first word that is no option ends them. -/
def read (rules : List OptionRule) (stopsEarly : Bool) : List String → Options
  | [] => empty
  | w :: ws =>
    match w.toList with
    | ['-', '-'] => plain ws
    | '-' :: '-' :: cs =>
      let name := String.ofList (cs.takeWhile (· ≠ '='))
      let value := match cs.dropWhile (· ≠ '=') with
        | _ :: v => some (String.ofList v)
        | [] => none
      match named rules ("--" ++ name) name with
      | .error flaw => flawed (if flaw.startsWith "unrecognized" then
          "unrecognized option '" ++ w ++ "'" else flaw)
      | .ok (full, r) =>
        match r.taking, value with
        | .nothing, some _ => flawed ("option '--" ++ full ++ "' doesn't allow an argument")
        | .value, none =>
          match ws with
          | v :: ws => (read rules stopsEarly ws).withOption r.key (some v)
          | [] => flawed ("option '--" ++ full ++ "' requires an argument")
        | _, value => (read rules stopsEarly ws).withOption r.key value
    | '-' :: c :: cs =>
      match letters rules (c :: cs) with
      | .error flaw => flawed flaw
      | .ok (found, none) =>
        let o := read rules stopsEarly ws
        { o with given := found ++ o.given }
      | .ok (found, some key) =>
        match ws with
        | v :: ws =>
          let o := (read rules stopsEarly ws).withOption key (some v)
          { o with given := found ++ o.given }
        | [] => flawed ("option requires an argument -- '" ++
            ((c :: cs).getLast?.getD c).toString ++ "'")
    | _ =>
      if stopsEarly then plain (w :: ws)
      else
        let o := read rules stopsEarly ws
        { o with given := ("", some w) :: o.given, words := w :: o.words }

end Options

end BenchCheckout.Utility
