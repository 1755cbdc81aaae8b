/-
The common ground of the document format: how single values and the members
of objects are read and written.

A reader gives nothing when the document does not have the shape it asks
for. Entries are looked up by key, in whatever order they stand; a member
that nobody asks for is ignored, even when repeated, and one that is asked
for must not stand twice.

What is written is not all that is read. The fields of a structure may stand
in an array, without their keys and in the order of their declaration; a name
may be the one key of an object; and where values are gathered, a kind may be
given by its place among the kinds.
-/
import KotlinMetadata.FlagSet
import KotlinMetadata.Json.Basic

namespace KotlinMetadata.Json

/-- How a value reaches its reader. -/
inductive Delivery where
  /-- On its own. -/
  | direct
  /-- Gathered with the values beside it before any is read, as the entries of metadata are: their
  kind may stand after them. -/
  | gathered
deriving DecidableEq, Repr

/-! ## Single values -/

/-- Whether a value stands for no content: `null`, and among gathered values an empty object too. -/
def isNothing (d : Delivery) : Json → Bool
  | .null => true
  | .object [] => d = .gathered
  | _ => false

/-- The text of a string. -/
def string? : Json → Option String
  | .string s => some s
  | _ => none

/-- A truth value. -/
def bool? : Json → Option Bool
  | .bool b => some b
  | _ => none

/-- An integer, written without fraction and exponent. -/
def integer? : Json → Option Int
  | .number (.integer i) => some i
  | _ => none

/-- An integer between two bounds. -/
def integerIn? (low high : Int) (j : Json) : Option Int :=
  j.integer?.filter fun i => low ≤ i && i ≤ high

/-- A signed integer of 8 bits. -/
def int8? (j : Json) : Option Int8 := (j.integerIn? Int8.minValue.toInt Int8.maxValue.toInt).map Int8.ofInt

/-- A signed integer of 16 bits. -/
def int16? (j : Json) : Option Int16 := (j.integerIn? Int16.minValue.toInt Int16.maxValue.toInt).map Int16.ofInt

/-- A signed integer of 32 bits. -/
def int32? (j : Json) : Option Int32 := (j.integerIn? Int32.minValue.toInt Int32.maxValue.toInt).map Int32.ofInt

/-- A signed integer of 64 bits. -/
def int64? (j : Json) : Option Int64 := (j.integerIn? Int64.minValue.toInt Int64.maxValue.toInt).map Int64.ofInt

/-- An unsigned integer of 8 bits. -/
def uint8? (j : Json) : Option UInt8 := (j.integerIn? 0 (UInt8.size - 1)).map (UInt8.ofNat ·.toNat)

/-- An unsigned integer of 16 bits. -/
def uint16? (j : Json) : Option UInt16 := (j.integerIn? 0 (UInt16.size - 1)).map (UInt16.ofNat ·.toNat)

/-- An unsigned integer of 32 bits. -/
def uint32? (j : Json) : Option UInt32 := (j.integerIn? 0 (UInt32.size - 1)).map (UInt32.ofNat ·.toNat)

/-- An unsigned integer of 64 bits. -/
def uint64? (j : Json) : Option UInt64 := (j.integerIn? 0 (UInt64.size - 1)).map (UInt64.ofNat ·.toNat)

/-- A double: the one nearest to any number. -/
def double? : Json → Option Number.Double
  | .number (.integer i) => some (.ofInt i)
  | .number (.double x) => some x
  | .number (.single x) => some x.convert
  | _ => none

/-- A single: the one nearest to any number, infinite for one too large. -/
def single? : Json → Option Number.Single
  | .number (.integer i) => some (.ofInt i)
  | .number (.double x) => some x.convert
  | .number (.single x) => some x
  | _ => none

/-- A character: a string of exactly one. -/
def char? (j : Json) : Option Char :=
  match j.string?.map String.toList with
  | some [c] => some c
  | _ => none

/-- A name: a string, or the one key of an object, beside a value that stands for nothing. -/
def name? (d : Delivery) : Json → Option String
  | .string s => some s
  | .object [(s, nothing)] => if nothing.isNothing d then some s else none
  | _ => none

/-- A value by its name. -/
def enumerated? {α : Type} [Enumerated α] (d : Delivery) (j : Json) : Option α :=
  (j.name? d).bind Enumerated.ofName?

/-- A value that stands on its own, by its name. -/
def named? {α : Type} [Enumerated α] (j : Json) : Option α := j.enumerated? .direct

/-- A kind: a string or, among gathered values, its place in the list of all kinds. -/
def kind? (d : Delivery) (kinds : List String) : Json → Option String
  | .string s => some s
  | .number (.integer i) => if d = .gathered ∧ 0 ≤ i then kinds[i.toNat]? else none
  | _ => none

/-- The items of an array, each read alike. -/
def list? {α : Type} (item : Json → Option α) : Json → Option (List α)
  | .array items => items.mapM item
  | _ => none

/-- A set of flags: the list of their names, in any order and with repetitions. -/
def flagSet? {F : Type} [Flag F] (d : Delivery) (j : Json) : Option (FlagSet F) :=
  (j.list? (enumerated? d)).map FlagSet.ofList

/-- A set of flags that stands on its own. -/
def flags? {F : Type} [Flag F] (j : Json) : Option (FlagSet F) := j.flagSet? .direct

/-- The members of an object. -/
def entries? : Json → Option Entries
  | .object members => some members
  | _ => none

/-- The fields of a structure: the members of an object, or the items of an array as the values of
the keys, in their order. An array may leave out the last keys. -/
def fields? (keys : List String) : Json → Option Entries
  | .object members => some members
  | .array items => if items.length ≤ keys.length then some (keys.zip items) else none
  | _ => none

/-- A number too large for a document is written as `null`. -/
def ofDouble (x : Number.Double) : Json := if x.isFinite then .number (.double x) else .null

/-- A number too large for a document is written as `null`. -/
def ofSingle (x : Number.Single) : Json := if x.isFinite then .number (.single x) else .null

/-- An integer. -/
def ofInt (i : Int) : Json := .number (.integer i)

/-- A value by its name. -/
def ofNamed {α : Type} [Enumerated α] (a : α) : Json := .string (Enumerated.name a)

/-- The flags of a set by their names, in the order of their declaration. -/
def ofFlags {F : Type} [Flag F] (s : FlagSet F) : Json := .array (s.toList.map ofNamed)

/-- A value that may be missing. -/
def ofOption {α : Type} (f : α → Json) : Option α → Json
  | none => .null
  | some a => f a

/-- A list, each item written alike. -/
def ofList {α : Type} (f : α → Json) (xs : List α) : Json := .array (xs.map f)

/-! ## Entries of objects -/

namespace Entries

/-- The value of a key: missing if no member has it, nothing if several have. -/
def field? (m : Entries) (key : String) : Option (Option Json) :=
  match m.filter (·.1 = key) with
  | [] => some none
  | [(_, value)] => some (some value)
  | _ :: _ :: _ => none

/-- A member that must be there. -/
def required {α : Type} (m : Entries) (key : String) (read : Json → Option α) : Option α :=
  match m.field? key with
  | some (some value) => read value
  | _ => none

/-- A member that may be left out, and then has a default value. -/
def withDefault {α : Type} (m : Entries) (key : String) (default : α) (read : Json → Option α) :
    Option α :=
  match m.field? key with
  | none => none
  | some none => some default
  | some (some value) => read value

/-- A member that may be left out or `null`. -/
def nullable {α : Type} (m : Entries) (key : String) (read : Json → Option α) : Option (Option α) :=
  match m.field? key with
  | none => none
  | some none => some none
  | some (some .null) => some none
  | some (some value) => (read value).map some

/-- A list that may be left out when empty. -/
def listField {α : Type} (m : Entries) (key : String) (item : Json → Option α) : Option (List α) :=
  m.withDefault key [] (list? item)

/-- A set of flags that may be left out when empty. -/
def flagField {F : Type} [Flag F] (m : Entries) (d : Delivery) (key : String) : Option (FlagSet F) :=
  m.withDefault key .empty (flagSet? d)

/-- A named value that may be left out when it is the default. -/
def namedField {α : Type} [Enumerated α] [Inhabited α] (m : Entries) (d : Delivery) (key : String) :
    Option α :=
  m.withDefault key default (enumerated? d)

/-- Whether the first member with one of two keys has the first of them. -/
def standsBefore (m : Entries) (first second : String) : Bool :=
  (m.find? fun p => p.1 = first || p.1 = second).any (·.1 = first)

end Entries

/-- A tag and the value it governs. -/
structure Tagged where
  tag : String
  value : Json
  /-- How the value reaches its reader. -/
  delivery : Delivery

/-- A tag and the value it governs, the fields `type` and `value`. A value that stands before its tag
is gathered until the tag is known, and must be readable as a whole. -/
def tagged? (d : Delivery) (j : Json) : Option Tagged := do
  let m ← j.fields? ["type", "value"]
  let tag ← m.required "type" (name? d)
  let value ← m.required "value" some
  if m.standsBefore "value" "type" then
    if value.isReadable then some { tag, value, delivery := .gathered } else none
  else some { tag, value, delivery := d }

end KotlinMetadata.Json
