/-
Texts and characters in quotes, for messages. The quote in use, the
backslash and the common control characters are written with a backslash;
other characters that cannot be shown, and marks that would attach to the
quote, as `\u` with the code point in hexadecimal between braces; all else
as it is.
-/
import KotlinMetadata.Text.Printable

namespace KotlinMetadata.Text

/-- A code point in lower-case hexadecimal, without leading zeros. -/
def hexadecimal (n : Nat) : String := String.ofList (Nat.toDigits 16 n)

/-- A character as written between quotes of the given kind. -/
def quotedChar (quote : Char) (c : Char) : String :=
  if c = quote || c = '\\' then String.ofList ['\\', c]
  else if c = '\n' then "\\n"
  else if c = '\r' then "\\r"
  else if c = '\t' then "\\t"
  else if c.toNat = 0 then "\\0"
  else if isExtending c || !isPrintable c then "\\u\x7b" ++ hexadecimal c.toNat ++ "\x7d"
  else c.toString

/-- A text in double quotes. -/
def quoted (s : String) : String :=
  "\"" ++ String.join (s.toList.map (quotedChar '"')) ++ "\""

/-- A character in single quotes. -/
def quotedSingle (c : Char) : String := "'" ++ quotedChar '\'' c ++ "'"

end KotlinMetadata.Text
