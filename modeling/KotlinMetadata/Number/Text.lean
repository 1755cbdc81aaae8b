/-
Numbers as texts. An integer is its decimal digits. A binary number is its
shortest decimal, always with a fraction or an exponent: positional, with at
least one digit after the point, or with one digit before the point and an
exponent. The writer's layout says where positional writing ends and which
of two equally near decimals is taken.
-/
import KotlinMetadata.Number.Shortest

namespace KotlinMetadata.Number

/-- How a binary number is written in decimal. -/
structure Layout where
  /-- The least exponent of a leading digit that is written positionally. -/
  leastPlace : Int
  /-- The least exponent of a leading digit above those written positionally. -/
  endPlace : Int
  /-- Which of two equally near decimals is written. -/
  tie : Tie
deriving DecidableEq, Repr

/-- The decimal digits of a natural number. -/
def digitText (n : Nat) : List Char := Nat.toDigits 10 n

/-- The digits with a point after the first `place` of them, filled up with zeros. -/
def positional (digits : List Char) (place : Int) : List Char :=
  if place ≤ 0 then ['0', '.'] ++ List.replicate (-place).toNat '0' ++ digits
  else
    let whole := digits.take place.toNat ++ List.replicate (place.toNat - digits.length) '0'
    let fraction := digits.drop place.toNat
    whole ++ '.' :: (if fraction.isEmpty then ['0'] else fraction)

/-- The digits with a point after the first, if there are more, and an exponent. -/
def scientific (digits : List Char) (exponent : Int) : List Char :=
  let mantissa :=
    match digits with
    | [] => []
    | d :: rest => d :: (if rest.isEmpty then [] else '.' :: rest)
  mantissa ++ 'e' :: (toString exponent).toList

/-- A decimal other than zero as a text. -/
def Decimal.text (l : Layout) (d : Decimal) : List Char :=
  let digits := digitText d.digits
  let place := (digits.length : Int) + d.exponent
  if l.leastPlace < place && place ≤ l.endPlace then positional digits place
  else scientific digits (place - 1)

/-- A binary number as a text. -/
def Binary.text {F : Format} (l : Layout) (x : Binary F) : String :=
  let magnitude :=
    if x.isZero then ['0', '.', '0']
    else if x.isFinite then (x.shortest l.tie).text l
    else ['i', 'n', 'f']
  String.ofList (if x.negative then '-' :: magnitude else magnitude)

end KotlinMetadata.Number
