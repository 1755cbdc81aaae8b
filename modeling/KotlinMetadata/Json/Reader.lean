/-
Reading document values from text. The grammar is the strict one: blanks are
space, tab, line feed and carriage return, strings hold no control character
as it is, nothing follows the value. Containers may be nested to a depth of
127; one nested deeper is read like the others but is `unreadable`.

The readers take the characters left and give the value with the characters
after it. Their fuel is a bound on the number of steps, which
`Json.parse` takes from the length of the text.
-/
import KotlinMetadata.Json.Basic
import KotlinMetadata.Number.Digits

namespace KotlinMetadata.Json

open Number (spanDigits hexValue? readExponent)

/-- The deepest level at which a container has a value. -/
def depthLimit : Nat := 127

/-- Whether a character may stand between the parts of a document. -/
def isSpace (c : Char) : Bool := c = ' ' || c = '\n' || c = '\t' || c = '\r'

/-- The characters after the blanks. -/
def skipSpaces (s : List Char) : List Char := s.dropWhile isSpace

/-! ## Numbers -/

/-- Reads the fraction of a number, if there is one. -/
def readFraction (s : List Char) : Option (Option (List Nat) × List Char) :=
  match s with
  | '.' :: s =>
    match spanDigits s with
    | ([], _) => none
    | (ds, rest) => some (some ds, rest)
  | _ => some (none, s)

/-- Reads a number literal. -/
def readLiteral (s : List Char) : Option (Number.Literal × List Char) :=
  let (negative, s) :=
    match s with
    | '-' :: s => (true, s)
    | _ => (false, s)
  match spanDigits s with
  | ([], _) => none
  | (0 :: _ :: _, _) => none
  | (whole, s) =>
    match readFraction s with
    | none => none
    | some (fraction, s) =>
      match readExponent s with
      | none => none
      | some (exponent, s) => some ({ negative, whole, fraction, exponent }, s)

/-- Reads a number. -/
def readNumber (s : List Char) : Option (Json × List Char) :=
  match readLiteral s with
  | none => none
  | some (literal, rest) =>
    match literal.value? with
    | some n => some (.number n, rest)
    | none => some (.unreadable, rest)

/-! ## Strings -/

/-- The value of four hexadecimal digits. -/
def unitValue? (a b c d : Char) : Option Nat := do
  return (((← hexValue? a) * 16 + (← hexValue? b)) * 16 + (← hexValue? c)) * 16 + (← hexValue? d)

/-- The character of a one-letter escape. -/
def escaped? : Char → Option Char
  | '"' => some '"'
  | '\\' => some '\\'
  | '/' => some '/'
  | 'b' => some (Char.ofNat 8)
  | 'f' => some (Char.ofNat 12)
  | 'n' => some '\n'
  | 'r' => some '\r'
  | 't' => some '\t'
  | _ => none

/-- Whether a unit opens a surrogate pair. -/
def isHighSurrogate (n : Nat) : Bool := 0xD800 ≤ n && n < 0xDC00

/-- Whether a unit closes a surrogate pair. -/
def isLowSurrogate (n : Nat) : Bool := 0xDC00 ≤ n && n < 0xE000

/-- The character of a surrogate pair. -/
def pairChar (high low : Nat) : Char := Char.ofNat (0x10000 + (high - 0xD800) * 0x400 + (low - 0xDC00))

/-- Reads a string up to its closing quote. `acc` holds the characters read so far, the last
first, and is missing once half of a surrogate pair has been met. -/
def readChars (acc : Option (List Char)) : List Char → Option (Option String × List Char)
  | [] => none
  | '"' :: rest => some (acc.map fun cs => String.ofList cs.reverse, rest)
  | '\\' :: 'u' :: a :: b :: c :: d :: rest =>
    match unitValue? a b c d with
    | none => none
    | some n =>
      if isHighSurrogate n then
        match rest with
        | '\\' :: 'u' :: e :: f :: g :: h :: rest' =>
          match unitValue? e f g h with
          | none => none
          | some m =>
            if isLowSurrogate m then readChars (acc.map (pairChar n m :: ·)) rest'
            else readChars none ('\\' :: 'u' :: e :: f :: g :: h :: rest')
        | rest => readChars none rest
      else if isLowSurrogate n then readChars none rest
      else readChars (acc.map (Char.ofNat n :: ·)) rest
  | '\\' :: c :: rest =>
    match escaped? c with
    | none => none
    | some x => readChars (acc.map (x :: ·)) rest
  | c :: rest => if c.toNat < 0x20 || c = '\\' then none else readChars (acc.map (c :: ·)) rest

/-! ## Values -/

/-- A container at a level, the outermost being at level 1. -/
def container (level : Nat) (value : Json) : Json :=
  if level ≤ depthLimit then value else .unreadable

/-- The object with the members read, the last first, unless a key had no value. -/
def objectOf (members : Option Entries) : Json :=
  match members with
  | some members => .object members.reverse
  | none => .unreadable

mutual
/-- Reads a value; its container, if it is one, would be at the level given. -/
def readValue : (fuel : Nat) → (level : Nat) → List Char → Option (Json × List Char)
  | 0, _, _ => none
  | fuel + 1, level, s =>
    match skipSpaces s with
    | [] => none
    | '{' :: s =>
      match skipSpaces s with
      | '}' :: s => some (container level (.object []), s)
      | s => readMembers fuel level (some []) s
    | '[' :: s =>
      match skipSpaces s with
      | ']' :: s => some (container level (.array []), s)
      | s => readItems fuel level [] s
    | '"' :: s =>
      match readChars (some []) s with
      | none => none
      | some (some text, s) => some (.string text, s)
      | some (none, s) => some (.unreadable, s)
    | 'n' :: 'u' :: 'l' :: 'l' :: s => some (.null, s)
    | 't' :: 'r' :: 'u' :: 'e' :: s => some (.bool true, s)
    | 'f' :: 'a' :: 'l' :: 's' :: 'e' :: s => some (.bool false, s)
    | s => readNumber s
/-- Reads the items of an array from the next one on; `acc` holds those before, the last first. -/
def readItems : (fuel : Nat) → (level : Nat) → (acc : List Json) → List Char →
    Option (Json × List Char)
  | 0, _, _, _ => none
  | fuel + 1, level, acc, s =>
    match readValue fuel (level + 1) s with
    | none => none
    | some (item, s) =>
      match skipSpaces s with
      | ',' :: s => readItems fuel level (item :: acc) s
      | ']' :: s => some (container level (.array (item :: acc).reverse), s)
      | _ => none
/-- Reads the members of an object from the next one on; `acc` holds those before, the last
first, and is missing once a key had no value. -/
def readMembers : (fuel : Nat) → (level : Nat) → (acc : Option Entries) → List Char →
    Option (Json × List Char)
  | 0, _, _, _ => none
  | fuel + 1, level, acc, s =>
    match skipSpaces s with
    | '"' :: s =>
      match readChars (some []) s with
      | none => none
      | some (key, s) =>
        match skipSpaces s with
        | ':' :: s =>
          match readValue fuel (level + 1) s with
          | none => none
          | some (value, s) =>
            let acc := acc.bind fun members => key.map fun key => (key, value) :: members
            match skipSpaces s with
            | ',' :: s => readMembers fuel level acc s
            | '}' :: s => some (container level (objectOf acc), s)
            | _ => none
        | _ => none
    | _ => none
end

/-- The value that a text is. -/
def parse (text : String) : Option Json :=
  let s := text.toList
  match readValue (2 * s.length + 2) 1 s with
  | some (value, rest) => if (skipSpaces rest).isEmpty then some value else none
  | none => none

end KotlinMetadata.Json
