/-
Values of configuration documents. A mapping is the list of its pairs in the
order of the document; of the pairs with one key the last counts. Keys are
texts: a key written as a number or as a word such as `null` is its text.

Numbers are told apart from strings and otherwise kept as written, since no
setting is a number.
-/
namespace KotlinMetadata

/-- A value of a configuration document. -/
inductive Yaml where
  | null
  | bool (b : Bool)
  | number (text : String)
  | string (s : String)
  | sequence (items : List Yaml)
  | mapping (pairs : List (String × Yaml))

namespace Yaml

/-- The value of the last pair with a key. -/
def lookup? (key : String) (pairs : List (String × Yaml)) : Option Yaml :=
  (pairs.reverse.find? (·.1 = key)).map (·.2)

mutual
/-- The number of containers around the innermost part of a value, the value's own included. -/
def depth : Yaml → Nat
  | .sequence items => depthItems items + 1
  | .mapping pairs => depthPairs pairs + 1
  | _ => 0
/-- The greatest depth of the items. -/
def depthItems : List Yaml → Nat
  | [] => 0
  | item :: rest => max (depth item) (depthItems rest)
/-- The greatest depth of the values of the pairs. -/
def depthPairs : List (String × Yaml) → Nat
  | [] => 0
  | (_, value) :: rest => max (depth value) (depthPairs rest)
end

end Yaml

end KotlinMetadata
