import BenchCheckout.Utility.Desk
import BenchCheckout.Utility.Tar.Transform

/-!
# What is asked of the archiver

The words that `tar` is called with are read into a `Request`: what is to be done, with which
archive, and how. The first word may be a row of letters without a dash, whose values follow in the
order of the letters.
-/

namespace BenchCheckout.Utility.Tar

inductive Job where
  | create
  | append
  | extract
  | list
  | compare
  | delete
deriving DecidableEq, Repr

def Job.letter : Job → String
  | create => "c"
  | append => "r"
  | extract => "x"
  | list => "t"
  | compare => "d"
  | delete => "delete"

/-- How an archive is compressed. -/
inductive Compression where
  | gzip
  /-- By a program that is not here. -/
  | absent (program : String)
deriving DecidableEq, Repr

/-- What is done about a file that is in the place of one that is extracted. -/
inductive OldFiles where
  | replace
  | keep
  | skip
  | keepNewer
  /-- Removed before anything is tried. -/
  | removeFirst
  /-- It gets the new content. -/
  | overwrite
deriving DecidableEq, Repr

/-- What is named on the command line. -/
inductive Item where
  | name (text : String)
  /-- A file with a name in each line. -/
  | namesIn (path : String)
  | directory (path : String)
  /-- A pattern of names that are left out. -/
  | excluded (pattern : String)
  /-- A file with a pattern in each line. -/
  | excludedIn (path : String)
  /-- Whether what is below a name is meant with it, for the names behind. -/
  | recursion (isOn : Bool)
deriving DecidableEq, Repr

structure Request where
  job : Option Job
  archives : List String
  compression : Option Compression
  /-- The name of a new archive tells how it is compressed. -/
  compressesByName : Bool
  verbosity : Nat
  items : List Item
  transforms : List Transform
  wildcards : Bool
  /-- Slashes in front of names, and dots in them, are kept. -/
  absolute : Bool
  stripped : Nat
  toOutput : Bool
  oldFiles : OldFiles
  /-- Directories in the place of files go with all that is in them. -/
  removesTrees : Bool
  /-- Links to directories are as good as directories. -/
  keepsLinks : Bool
  ignoresZeros : Bool
  asks : Bool
  /-- A directory that everything is put into; without a name it is called after the archive. -/
  top : Option (Option String)
  fullTime : Bool
  numbersOnly : Bool
  showsResult : Bool
  follows : Bool
  removesSources : Bool
  listing : Option String
  verifies : Bool
  readsRemote : Bool

/-- Why a call is refused. -/
structure Refusal where
  text : String
  status : Nat

namespace Request

def blank : Request where
  job := none
  archives := []
  compression := none
  compressesByName := false
  verbosity := 0
  items := []
  transforms := []
  wildcards := false
  absolute := false
  stripped := 0
  toOutput := false
  oldFiles := .replace
  removesTrees := false
  keepsLinks := false
  ignoresZeros := false
  asks := false
  top := none
  fullTime := false
  numbersOnly := false
  showsResult := false
  follows := false
  removesSources := false
  listing := none
  verifies := false
  readsRemote := true

/-! ## Options -/

def rules : List OptionRule :=
  let flags : List (String × List Char × List String) :=
    [("catenate", ['A'], ["catenate", "concatenate"]), ("create", ['c'], ["create"]),
      ("compare", ['d'], ["diff", "compare"]), ("delete", [], ["delete"]),
      ("append", ['r'], ["append"]), ("list", ['t'], ["list"]), ("update", ['u'], ["update"]),
      ("extract", ['x'], ["extract", "get"]), ("testLabel", [], ["test-label"]),
      ("verbose", ['v'], ["verbose"]), ("gzip", ['z'], ["gzip", "gunzip", "ungzip"]),
      ("bzip2", ['j'], ["bzip2"]), ("xz", ['J'], ["xz"]), ("lzip", [], ["lzip"]),
      ("lzma", [], ["lzma"]), ("lzop", [], ["lzop"]), ("zstd", [], ["zstd"]),
      ("compress", ['Z'], ["compress", "uncompress"]), ("byName", ['a'], ["auto-compress"]),
      ("keep", ['k'], ["keep-old-files"]), ("skip", [], ["skip-old-files"]),
      ("keepNewer", [], ["keep-newer-files"]), ("removeFirst", ['U'], ["unlink-first"]),
      ("overwrite", [], ["overwrite"]), ("removesTrees", [], ["recursive-unlink"]),
      ("keepsLinks", [], ["keep-directory-symlink"]), ("toOutput", ['O'], ["to-stdout"]),
      ("ignoresZeros", ['i'], ["ignore-zeros"]), ("asks", ['w'], ["interactive", "confirmation"]),
      ("absolute", ['P'], ["absolute-names"]), ("wildcards", [], ["wildcards"]),
      ("plainNames", [], ["no-wildcards"]), ("recursive", [], ["recursion"]),
      ("flat", [], ["no-recursion"]), ("fullTime", [], ["full-time"]),
      ("numbers", [], ["numeric-owner"]), ("follows", ['h'], ["dereference"]),
      ("removesSources", [], ["remove-files"]), ("verifies", ['W'], ["verify"]),
      ("local", [], ["force-local"]),
      ("showsResult", [], ["show-transformed-names", "show-stored-names"])]
  let valued : List (String × List Char × List String) :=
    [("file", ['f'], ["file"]), ("directory", ['C'], ["directory"]), ("exclude", [], ["exclude"]),
      ("excludeFrom", ['X'], ["exclude-from"]), ("filesFrom", ['T'], ["files-from"]),
      ("strip", [], ["strip-components"]), ("listing", [], ["index-file"]),
      ("program", ['I'], ["use-compress-program"]), ("blocks", ['b'], ["blocking-factor"]),
      ("transform", [], ["transform", "xform"]),
      ("any", ['F'], ["info-script", "new-volume-script"]), ("any", ['H'], ["format"]),
      ("any", ['K'], ["starting-file"]), ("any", ['L'], ["tape-length"]),
      ("any", ['N'], ["newer", "after-date"]), ("any", ['V'], ["label"]),
      ("any", ['g'], ["listed-incremental"])]
  let plainNames : List String :=
    ["acls", "anchored", "check-device", "clamp-mtime", "delay-directory-restore",
      "exclude-backups", "exclude-caches", "exclude-caches-all", "exclude-caches-under",
      "exclude-vcs", "exclude-vcs-ignores", "hard-dereference", "ignore-case",
      "ignore-command-error", "ignore-failed-read", "no-acls", "no-anchored", "no-auto-compress",
      "no-check-device", "no-delay-directory-restore", "no-ignore-case", "no-ignore-command-error",
      "no-null", "no-overwrite-dir", "no-same-owner", "no-same-permissions", "no-seek",
      "no-selinux", "no-unquote", "no-verbatim-files-from", "no-wildcards-match-slash", "no-xattrs",
      "null", "old-archive", "one-file-system", "overwrite-dir", "portability", "posix", "restrict",
      "same-owner", "selinux", "show-defaults", "show-omitted-dirs", "unquote", "usage", "utc",
      "verbatim-files-from", "wildcards-match-slash", "xattrs", "show-snapshot-field-ranges"]
  let valuedNames : List String :=
    ["add-file", "checkpoint-action", "exclude-ignore", "exclude-ignore-recursive", "exclude-tag",
      "exclude-tag-all", "exclude-tag-under", "group", "group-map", "hole-detection", "level",
      "mode", "mtime", "newer-mtime", "no-quote-chars", "owner", "owner-map", "pax-option",
      "quote-chars", "quoting-style", "record-size", "rmt-command", "rsh-command",
      "set-mtime-command", "set-mtime-format", "sort", "sparse-version", "suffix", "to-command",
      "volno-file", "warning", "xattrs-exclude", "xattrs-include"]
  let letters : List (Char × List String) :=
    [('B', ["read-full-records"]), ('G', ["incremental"]), ('M', ["multi-volume"]),
      ('R', ["block-number"]), ('S', ["sparse"]), ('l', ["check-links"]), ('m', ["touch"]),
      ('n', ["seek"]), ('o', []), ('p', ["preserve-permissions", "same-permissions"]),
      ('s', ["preserve-order", "same-order"])]
  (flags.map fun (k, cs, names) => .flag k cs names) ++
    (valued.map fun (k, cs, names) => .valued k cs names) ++
    (plainNames.map fun n => .flag n [] [n]) ++ (valuedNames.map fun n => .valued n [] [n]) ++
    (letters.map fun (c, names) => .flag (c.toString ++ ":") [c] names) ++
    [.attached "top" [] ["one-top-level"], .attached "any" [] ["totals"],
      .attached "any" [] ["atime-preserve"], .attached "any" [] ["backup"],
      .attached "any" [] ["checkpoint"], .attached "any" [] ["occurrence"]]

/-- The letters of options that have a value. -/
def valuedLetters : List Char :=
  rules.flatMap fun r => if r.taking = .value then r.letters else []

/-- The first word as options, if it is a row of letters, or the letter whose value is missing. -/
def dashed : List String → Except Char (List String)
  | [] => .ok []
  | w :: ws =>
    if w.startsWith "-" then .ok (w :: ws) else spread w.toList ws
where
  spread : List Char → List String → Except Char (List String)
    | [], ws => .ok ws
    | c :: cs, ws =>
      let front := "-" ++ c.toString
      if c ∈ valuedLetters then
        match ws with
        | [] => .error c
        | v :: ws => (spread cs ws).map fun words => front :: v :: words
      else (spread cs ws).map (front :: ·)

def jobOf (key : String) : Option Job :=
  match key with
  | "create" => some .create
  | "append" | "update" | "catenate" => some .append
  | "extract" => some .extract
  | "list" | "testLabel" => some .list
  | "compare" => some .compare
  | "delete" => some .delete
  | _ => none

def compressionOf (key : String) : Option Compression :=
  match key with
  | "gzip" => some .gzip
  | "bzip2" | "lzip" | "lzop" | "zstd" | "compress" => some (.absent key)
  | "xz" | "lzma" => some (.absent "xz")
  | _ => none

def isNumber (w : String) : Bool := w ≠ "" ∧ w.toList.all Char.isDigit

/-- The request with one more option. -/
def withOption (r : Request) (key value : String) : Except Refusal Request :=
  match jobOf key, compressionOf key with
  | some job, _ =>
    if r.job.isSome ∧ r.job ≠ some job then
      .error ⟨"You may not specify more than one '-Acdtrux', '--delete' or  '--test-label' option", 2⟩
    else .ok { r with job := some job, verbosity := r.verbosity + (if key = "list" then 1 else 0) }
  | none, some compression =>
    if r.compression.isSome ∧ r.compression ≠ some compression then
      .error ⟨"Conflicting compression options", 2⟩
    else .ok { r with compression := some compression }
  | none, none =>
    match key with
    | "" | "add-file" => .ok { r with items := r.items ++ [.name value] }
    | "file" => .ok { r with archives := r.archives ++ [value] }
    | "directory" => .ok { r with items := r.items ++ [.directory value] }
    | "filesFrom" => .ok { r with items := r.items ++ [.namesIn value] }
    | "exclude" => .ok { r with items := r.items ++ [.excluded value] }
    | "excludeFrom" => .ok { r with items := r.items ++ [.excludedIn value] }
    | "verbose" => .ok { r with verbosity := r.verbosity + 1 }
    | "strip" =>
      if isNumber value then .ok { r with stripped := value.toNat?.getD 0 }
      else .error ⟨value ++ ": Invalid number of elements", 2⟩
    | "blocks" =>
      if isNumber value ∧ value.toNat? ≠ some 0 then .ok r
      else .error ⟨value ++ ": Invalid blocking factor", 2⟩
    | "program" =>
      let program := (value.splitOn " ").headD ""
      .ok { r with compression := some (if program = "gzip" then .gzip else .absent program) }
    | "listing" => .ok { r with listing := some value }
    | "top" => .ok { r with top := some (if value = "" then none else some value) }
    | "byName" => .ok { r with compressesByName := true }
    | "keep" => .ok { r with oldFiles := .keep }
    | "skip" => .ok { r with oldFiles := .skip }
    | "keepNewer" => .ok { r with oldFiles := .keepNewer }
    | "removeFirst" => .ok { r with oldFiles := .removeFirst }
    | "overwrite" => .ok { r with oldFiles := .overwrite }
    | "removesTrees" => .ok { r with removesTrees := true }
    | "keepsLinks" => .ok { r with keepsLinks := true }
    | "toOutput" => .ok { r with toOutput := true }
    | "ignoresZeros" => .ok { r with ignoresZeros := true }
    | "asks" => .ok { r with asks := true }
    | "absolute" => .ok { r with absolute := true }
    | "wildcards" => .ok { r with wildcards := true }
    | "plainNames" => .ok { r with wildcards := false }
    | "recursive" => .ok { r with items := r.items ++ [.recursion true] }
    | "flat" => .ok { r with items := r.items ++ [.recursion false] }
    | "transform" =>
      match Transform.ofText value with
      | .ok ts => .ok { r with transforms := r.transforms ++ ts }
      | .error text => .error ⟨text, 2⟩
    | "fullTime" => .ok { r with fullTime := true }
    | "numbers" => .ok { r with numbersOnly := true }
    | "showsResult" => .ok { r with showsResult := true }
    | "follows" => .ok { r with follows := true }
    | "removesSources" => .ok { r with removesSources := true }
    | "verifies" => .ok { r with verifies := true }
    | "local" => .ok { r with readsRemote := false }
    | _ => .ok r

/-! ## The whole call -/

def task (r : Request) : Job := r.job.getD .list

def hasNames (r : Request) : Bool :=
  r.items.any fun i => match i with
    | .name _ | .namesIn _ => true
    | _ => false

/-- What is wrong with a request as a whole. -/
def flaw (r : Request) : Option String :=
  if 1 < r.archives.length then some "Multiple archive files require '-M' option"
  else if r.verifies ∧ r.compression.isSome then some "Cannot verify compressed archives"
  else if r.verifies ∧ r.job ∈ [some .extract, some .list, some .compare] then
    some ("'--verify' cannot be used with '-" ++ (r.job.elim "" Job.letter) ++ "'")
  else if r.compression.isSome ∧ r.job ∈ [some .append, some .delete] then
    some "Cannot update compressed archives"
  else if r.job = some .create ∧ !r.hasNames then
    some "Cowardly refusing to create an empty archive"
  else if r.job = none then
    some "You must specify one of the '-Acdtrux', '--delete' or '--test-label' options"
  else none

/-- The request that words make. -/
def ofWords (words : List String) : Except Refusal Request := do
  match dashed words with
  | .error c => .error ⟨"Old option '" ++ c.toString ++ "' requires an argument.", 2⟩
  | .ok words =>
    let o := Options.read (rules ++ Step.commonRules) false words
    if let some flaw := o.flaw then .error ⟨flaw, 64⟩
    let r ← o.given.foldlM (fun r (key, value) => r.withOption key (value.getD "")) blank
    let r := if r.removesTrees then { r with oldFiles := .removeFirst } else r
    match r.flaw with
    | some flaw => .error ⟨flaw, 2⟩
    | none => .ok r

/-- The path of the archive; a dash is what comes in or goes out. -/
def archive (r : Request) : String := r.archives.headD "-"

end Request

end BenchCheckout.Utility.Tar
