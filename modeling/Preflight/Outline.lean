/-!
# Outlines

What the program prints as structured data: trees whose leaves are texts and whose fields have an
order.
-/

namespace Preflight

inductive Outline where
  | text (s : String)
  | list (items : List Outline)
  | fields (entries : List (String × Outline))

namespace Outline

instance : Inhabited Outline := ⟨text ""⟩

def texts (items : List String) : Outline := list (items.map text)

end Outline

end Preflight
