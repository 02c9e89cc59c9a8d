/-!
# Why a file or process operation is refused

Each cause has a fixed text. The causes that the operating system reports carry its number.
-/

namespace BenchCheckout

inductive Fault where
  | notPermitted
  | noEntry
  | noDevice
  | tooManyArguments
  | notExecutableFormat
  | badDescriptor
  | denied
  | busy
  | alreadyExists
  | notDirectory
  | isDirectory
  | invalidArgument
  | nameTooLong
  | notEmpty
  | tooManyLinks
  | notUtf8
  | nulInPath
  | nulInCommand
  | emptyPath
  | notRegularFile
  | wholeTree
deriving DecidableEq, Repr, Inhabited

namespace Fault

/-- The text, and the system's number for the faults that have one. -/
def description : Fault → String × Option Nat
  | notPermitted => ("Operation not permitted", some 1)
  | noEntry => ("No such file or directory", some 2)
  | noDevice => ("No such device or address", some 6)
  | tooManyArguments => ("Argument list too long", some 7)
  | notExecutableFormat => ("Exec format error", some 8)
  | badDescriptor => ("Bad file descriptor", some 9)
  | denied => ("Permission denied", some 13)
  | busy => ("Device or resource busy", some 16)
  | alreadyExists => ("File exists", some 17)
  | notDirectory => ("Not a directory", some 20)
  | isDirectory => ("Is a directory", some 21)
  | invalidArgument => ("Invalid argument", some 22)
  | nameTooLong => ("File name too long", some 36)
  | notEmpty => ("Directory not empty", some 39)
  | tooManyLinks => ("Too many levels of symbolic links", some 40)
  | notUtf8 => ("stream did not contain valid UTF-8", none)
  | nulInPath => ("file name contained an unexpected NUL byte", none)
  | nulInCommand => ("nul byte found in provided data", none)
  | emptyPath => ("cannot make an empty path absolute", none)
  | notRegularFile =>
    ("the source path is neither a regular file nor a symlink to a regular file", none)
  | wholeTree => ("failed to create whole tree", none)

/-- Without the number. -/
def summary (f : Fault) : String := f.description.1

def text (f : Fault) : String :=
  match f.description with
  | (s, some n) => s ++ " (os error " ++ n.repr ++ ")"
  | (s, none) => s

end Fault

end BenchCheckout
