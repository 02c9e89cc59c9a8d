/-!
# Replacing a text by another

`replaceAll pat value s` replaces the occurrences of `pat` in `s`, taken from left to right without
overlap, by `value`. What is written for one occurrence is not searched again.
-/

namespace BenchCheckout.Text

/-- `replaceFrom pat value k s`: the first `k` characters of `s` belong to an occurrence that has
been replaced already. -/
def replaceFrom (pat value : List Char) : Nat → List Char → List Char
  | _, [] => []
  | k + 1, _ :: s => replaceFrom pat value k s
  | 0, c :: s =>
    if pat.isPrefixOf (c :: s) then value ++ replaceFrom pat value (pat.length - 1) s
    else c :: replaceFrom pat value 0 s

/-- For a `pat` that is not empty. -/
def replaceAll (pat value s : List Char) : List Char := replaceFrom pat value 0 s

end BenchCheckout.Text
