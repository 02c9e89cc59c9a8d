/-!
# Lines of a text

`segments s` cuts `s` after each line feed. A segment keeps its line feed, the last one may have
none, and the empty text has no segment. Nothing but a line feed ends a line.

* `flatten_segments`: the segments in order make up the text.
* `ne_nil_of_mem_segments`: no segment is empty.
-/

namespace BenchCheckout.Text

def segments : List Char → List (List Char)
  | [] => []
  | c :: cs =>
    if c = '\n' then [c] :: segments cs
    else match segments cs with
      | [] => [[c]]
      | l :: ls => (c :: l) :: ls

theorem flatten_segments (s : List Char) : (segments s).flatten = s := by
  induction s with
  | nil => rfl
  | cons c cs ih =>
    rw [segments]
    split
    · simp [ih]
    · split <;> simp_all

theorem ne_nil_of_mem_segments {s l : List Char} (h : l ∈ segments s) : l ≠ [] := by
  induction s generalizing l with
  | nil => simp [segments] at h
  | cons c cs ih =>
    rw [segments] at h
    split at h
    · rcases List.mem_cons.mp h with rfl | h
      · simp
      · exact ih h
    · split at h
      · simp_all
      · rename_i heq
        rcases List.mem_cons.mp h with rfl | h
        · simp
        · exact ih (heq ▸ List.mem_cons_of_mem _ h)

end BenchCheckout.Text
