import BenchCheckout.Utility.Cat
import BenchCheckout.Utility.ChangeMode
import BenchCheckout.Utility.Copy
import BenchCheckout.Utility.Count
import BenchCheckout.Utility.Directories
import BenchCheckout.Utility.Link
import BenchCheckout.Utility.List
import BenchCheckout.Utility.Move
import BenchCheckout.Utility.Plain
import BenchCheckout.Utility.Remove
import BenchCheckout.Utility.Search
import BenchCheckout.Utility.Tar.Run
import BenchCheckout.Utility.Test
import BenchCheckout.Utility.Touch

/-!
# The utilities
-/

namespace BenchCheckout.Utility

def table : List (String × Step Unit) :=
  [("true", pure ()), ("false", Step.setStatus 1), ("basename", BaseName.utility),
    ("cat", Cat.utility), ("chmod", ChangeMode.utility), ("cp", Copy.utility),
    ("dirname", DirName.utility), ("echo", Echo.utility), ("grep", Search.utility),
    ("ln", Link.utility), ("ls", Listing.utility), ("mkdir", MakeDir.utility), ("mv", Move.utility),
    ("printf", Printf.utility), ("pwd", WorkingDir.utility), ("rm", Remove.utility),
    ("rmdir", RemoveDir.utility), ("sleep", Sleep.utility), ("tar", Tar.utility),
    ("test", Test.utility), ("[", Test.bracketed), ("touch", Touch.utility), ("wc", Count.utility)]

/-- Run a utility by its name. -/
def run (name : String) (d : Desk) : Desk :=
  match table.find? (·.1 == name) with
  | some (_, utility) => d.run utility
  | none => { d with status := 127 }

end BenchCheckout.Utility
