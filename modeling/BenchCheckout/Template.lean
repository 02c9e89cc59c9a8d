import BenchCheckout.Text.Replace

/-!
# Argument templates

A template is a text with placeholders `{name}`. `expand` fills them in one variable after the
other, in the order of the bindings; a placeholder that no binding names stays as it is, and a value
that itself holds the placeholder of a later binding is filled in again.
-/

namespace BenchCheckout.Template

/-- A name and the value that stands for it. -/
abbrev Binding := String × String

/-- The name between braces. -/
def placeholder (name : String) : List Char := '{' :: name.toList ++ ['}']

def substitute (s : List Char) (b : Binding) : List Char :=
  Text.replaceAll (placeholder b.1) b.2.toList s

def expand (bindings : List Binding) (template : String) : String :=
  String.ofList (bindings.foldl substitute template.toList)

@[simp]
theorem expand_nil (template : String) : expand [] template = template :=
  String.ofList_toList

theorem expand_cons (b : Binding) (bs : List Binding) (template : String) :
    expand (b :: bs) template = expand bs (String.ofList (substitute template.toList b)) := by
  simp [expand]

end BenchCheckout.Template
