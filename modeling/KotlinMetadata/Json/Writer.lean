/-
Writing document values as text, on one line or over several. Strings are
written with the short escapes where there is one, other control characters
by their code, and all else as it is. An object without members is a pair of
braces on any layout.
-/
import KotlinMetadata.Json.Basic
import KotlinMetadata.Number.Text
import KotlinMetadata.Text.Edit

namespace KotlinMetadata.Json

/-- Two hexadecimal digits. -/
def hexByte (n : Nat) : List Char := [Nat.digitChar (n / 16), Nat.digitChar (n % 16)]

/-- A character as written in a string. -/
def stringChar (c : Char) : List Char :=
  if c = '"' then ['\\', '"']
  else if c = '\\' then ['\\', '\\']
  else if c = '\n' then ['\\', 'n']
  else if c = '\r' then ['\\', 'r']
  else if c = '\t' then ['\\', 't']
  else if c.toNat = 8 then ['\\', 'b']
  else if c.toNat = 12 then ['\\', 'f']
  else if c.toNat < 0x20 then ['\\', 'u', '0', '0'] ++ hexByte c.toNat
  else [c]

/-- A string in quotes. -/
def stringText (s : String) : String := String.ofList ('"' :: s.toList.flatMap stringChar ++ ['"'])

/-- Numbers of documents are positional from `0.0001` to below ten to the sixteenth; of two equally
near decimals the even one is written. -/
def numberLayout : Number.Layout := ⟨-4, 16, .toEven⟩

/-- A number; an infinity is no document value and written as `null`. -/
def numberText : Number → String
  | .integer i => toString i
  | .double x => if x.isFinite then x.text numberLayout else "null"
  | .single x => if x.isFinite then x.text numberLayout else "null"

/-- The parts between two brackets, divided by commas. -/
def bracketed (opening : String) (parts : List String) (closing : String) : String :=
  opening ++ ",".intercalate parts ++ closing

mutual
/-- A value on one line. -/
def compact : Json → String
  | .null => "null"
  | .bool b => if b then "true" else "false"
  | .number n => numberText n
  | .string s => stringText s
  | .array items => bracketed "[" (compactItems items) "]"
  | .object members => bracketed "\x7b" (compactMembers members) "\x7d"
  | .unreadable => "null"
/-- The items, each on one line. -/
def compactItems : List Json → List String
  | [] => []
  | item :: rest => compact item :: compactItems rest
/-- The members, each on one line. -/
def compactMembers : Entries → List String
  | [] => []
  | (key, value) :: rest => (stringText key ++ ":" ++ compact value) :: compactMembers rest
end

/-- The parts between two brackets, each on a line of its own, indented by two spaces more than
the brackets. -/
def spread (level : Nat) (opening : String) (parts : List String) (closing : String) : String :=
  if parts.isEmpty then opening ++ closing
  else
    let line := "\n" ++ Text.times level "  "
    opening ++ line ++ "  " ++ ("," ++ line ++ "  ").intercalate parts ++ line ++ closing

mutual
/-- A value over several lines, within the brackets of `level` containers. -/
def pretty (level : Nat) : Json → String
  | .array items => spread level "[" (prettyItems (level + 1) items) "]"
  | .object members => spread level "\x7b" (prettyMembers (level + 1) members) "\x7d"
  | value => compact value
/-- The items, each over several lines. -/
def prettyItems (level : Nat) : List Json → List String
  | [] => []
  | item :: rest => pretty level item :: prettyItems level rest
/-- The members, each over several lines. -/
def prettyMembers (level : Nat) : Entries → List String
  | [] => []
  | (key, value) :: rest => (stringText key ++ ": " ++ pretty level value) :: prettyMembers level rest
end

end KotlinMetadata.Json
