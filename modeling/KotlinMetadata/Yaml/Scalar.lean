/-
What a scalar stands for. A quoted scalar is a string. A plain one is null,
a truth value or a number if it is written as one, and a string otherwise;
digits after a leading zero are a string, and so is a number too large for a
double.
-/
import KotlinMetadata.Number.Digits
import KotlinMetadata.Yaml.Basic

namespace KotlinMetadata.Yaml

/-- A scalar as read: its text, and whether it was written without quotes. -/
structure Scalar where
  text : String
  isPlain : Bool
deriving DecidableEq, Repr

/-- The scalar without quotes whose characters are given, the last first. -/
def Scalar.plain (text : List Char) : Scalar := ⟨String.ofList text.reverse, true⟩

/-- The scalar in quotes whose characters are given, the last first. -/
def Scalar.quoted (text : List Char) : Scalar := ⟨String.ofList text.reverse, false⟩

/-- The least magnitude that no double is nearest to. -/
def doubleBound : Nat := Nat.pow 2 1024 - Nat.pow 2 970

/-- The natural number of decimal digits. -/
def ofDigits (ds : List Nat) : Nat := ds.foldl (fun n d => n * 10 + d) 0

/-- Whether the digits, times ten to the exponent, are within the range of doubles. Only a value
with 309 digits left of the point has to be compared. -/
def inDoubleRange (digits : List Nat) (exponent : Int) : Bool :=
  let digits := digits.dropWhile (· = 0)
  let places := (digits.length : Int) + exponent
  if digits.isEmpty || places < 309 then true
  else if 309 < places then false
  else if 0 ≤ exponent then ofDigits digits * Nat.pow 10 exponent.toNat < doubleBound
  else ofDigits digits < doubleBound * Nat.pow 10 (-exponent).toNat

/-- Whether characters without a sign are a decimal number: digits with at most one point among or
around them, and an exponent or none. -/
def isDecimal (s : List Char) : Bool :=
  let (whole, s) := Number.spanDigits s
  let (fraction, s) :=
    match s with
    | '.' :: s => Number.spanDigits s
    | _ => ([], s)
  match Number.readExponent s with
  | some (exponent, []) =>
    let shift : Int :=
      match exponent with
      | none => 0
      | some (down, ds) => if down then -(ofDigits ds : Int) else ofDigits ds
    !(whole ++ fraction).isEmpty && inDoubleRange (whole ++ fraction) (shift - fraction.length)
  | _ => false

/-- The value of a non-empty run of digits of a base up to sixteen. -/
def ofBase? (base : Nat) (s : List Char) : Option Nat :=
  if s.isEmpty then none
  else s.foldlM (fun n c => (Number.hexValue? c).bind fun d => if d < base then some (n * base + d) else none) 0

/-- The digits of a number with a base mark, and the base. -/
def basedDigits? : List Char → Option (Nat × List Char)
  | '0' :: 'x' :: s => some (16, s)
  | '0' :: 'o' :: s => some (8, s)
  | '0' :: 'b' :: s => some (2, s)
  | _ => none

/-- Whether characters without a sign are an integer with a base mark that fits 128 bits. -/
def isBased (negative : Bool) (s : List Char) : Bool :=
  match (basedDigits? s).bind fun (base, digits) => ofBase? base digits with
  | some n => if negative then n ≤ Nat.pow 2 127 else n < Nat.pow 2 128
  | none => false

/-- Whether characters are digits after a leading zero. -/
def isZeroPadded : List Char → Bool
  | '0' :: d :: s => (d :: s).all Char.isDigit
  | _ => false

/-- The ways to write infinity. -/
def infinityWords : List (List Char) := [".inf".toList, ".Inf".toList, ".INF".toList]

/-- The ways to write a value that is not a number. -/
def notANumberWords : List (List Char) := [".nan".toList, ".NaN".toList, ".NAN".toList]

/-- Whether a plain scalar is written as a number. -/
def isNumber (s : List Char) : Bool :=
  let (negative, body) :=
    match s with
    | '-' :: body => (true, body)
    | '+' :: body => (false, body)
    | _ => (false, s)
  notANumberWords.contains s || infinityWords.contains body || isBased negative body
    || (!isZeroPadded body && isDecimal body)

/-- What a plain scalar stands for. -/
def ofPlain (text : String) : Yaml :=
  if ["", "~", "null", "Null", "NULL"].contains text then .null
  else if ["true", "True", "TRUE"].contains text then .bool true
  else if ["false", "False", "FALSE"].contains text then .bool false
  else if isNumber text.toList then .number text
  else .string text

/-- What a scalar stands for. -/
def Scalar.value (s : Scalar) : Yaml := if s.isPlain then ofPlain s.text else .string s.text

end KotlinMetadata.Yaml
