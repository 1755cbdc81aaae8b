/-
Types with finitely many values, each with a name of its own: the
vocabularies of the metadata format.
-/
namespace KotlinMetadata

/-- A type whose values are listed, in the order of their declaration, and named. -/
class Enumerated (α : Type) where
  /-- The values, in the order of their declaration. -/
  all : List α
  /-- The name of a value in documents. -/
  name : α → String
  /-- A value is found by its name. -/
  find_name : ∀ a, all.find? (fun b => name b == name a) = some a

namespace Enumerated

variable {α : Type} [Enumerated α]

/-- The value of a given name. -/
def ofName? (s : String) : Option α := all.find? fun a => name a == s

@[simp] theorem ofName?_name (a : α) : ofName? (name a) = some a := find_name a

theorem mem_all (a : α) : a ∈ all := List.mem_of_find?_eq_some (find_name a)

end Enumerated

end KotlinMetadata
