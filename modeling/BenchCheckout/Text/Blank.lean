/-!
# Blank characters

`isBlank c`: `c` has the Unicode property White_Space. `trim s`: `s` without the blanks at both
ends; `leading s` and `trailing s` are those blanks, and for a text of blanks alone each of them is
the whole text.

* `leading_append_trimStart`, `trimEnd_append_trailing`: the cuts lose nothing.
-/

namespace BenchCheckout

/-- Membership in the Unicode property White_Space. -/
def isBlank (c : Char) : Bool :=
  let n := c.toNat
  (9 ≤ n && n ≤ 13) || n == 0x20 || n == 0x85 || n == 0xA0 || n == 0x1680 ||
    (0x2000 ≤ n && n ≤ 0x200A) || n == 0x2028 || n == 0x2029 || n == 0x202F || n == 0x205F ||
    n == 0x3000

namespace Text

/-- The blanks that `s` starts with. -/
def leading (s : List Char) : List Char := s.takeWhile isBlank

def trimStart (s : List Char) : List Char := s.dropWhile isBlank

/-- The blanks that `s` ends with. -/
def trailing (s : List Char) : List Char := (s.reverse.takeWhile isBlank).reverse

def trimEnd (s : List Char) : List Char := (s.reverse.dropWhile isBlank).reverse

def trim (s : List Char) : List Char := trimEnd (trimStart s)

theorem leading_append_trimStart (s : List Char) : leading s ++ trimStart s = s :=
  List.takeWhile_append_dropWhile

theorem trimEnd_append_trailing (s : List Char) : trimEnd s ++ trailing s = s := by
  rw [trimEnd, trailing, ← List.reverse_append, List.takeWhile_append_dropWhile,
    List.reverse_reverse]

end Text

end BenchCheckout
