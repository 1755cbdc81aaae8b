/-
Document values. An object is the list of its members in the order of the
document, a repeated key included; what a repeated key means is for the
reader of the object to say.

A text can be well formed and yet hold a part that has no value: a number
out of range, a string with half of a surrogate pair, a container nested too
deeply. Such a part is `unreadable`. It does no harm where it is ignored,
and is refused wherever its value is asked for.
-/
import KotlinMetadata.Number.Literal

namespace KotlinMetadata

/-- A document value. -/
inductive Json where
  | null
  | bool (b : Bool)
  | number (n : Number)
  | string (s : String)
  | array (items : List Json)
  | object (members : List (String × Json))
  | unreadable

namespace Json

/-- The members of an object. -/
abbrev Entries := List (String × Json)

mutual
/-- Whether every part of a value has a value. -/
def isReadable : Json → Bool
  | .array items => allReadable items
  | .object members => allMembersReadable members
  | .unreadable => false
  | _ => true
/-- Whether every item is readable. -/
def allReadable : List Json → Bool
  | [] => true
  | item :: rest => isReadable item && allReadable rest
/-- Whether every member is readable. -/
def allMembersReadable : Entries → Bool
  | [] => true
  | (_, value) :: rest => isReadable value && allMembersReadable rest
end

mutual
/-- The number of containers around the innermost part of a value, the value's own included. -/
def depth : Json → Nat
  | .array items => depthItems items + 1
  | .object members => depthMembers members + 1
  | _ => 0
/-- The greatest depth of the items. -/
def depthItems : List Json → Nat
  | [] => 0
  | item :: rest => max (depth item) (depthItems rest)
/-- The greatest depth of the members. -/
def depthMembers : Entries → Nat
  | [] => 0
  | (_, value) :: rest => max (depth value) (depthMembers rest)
end

end Json

end KotlinMetadata
