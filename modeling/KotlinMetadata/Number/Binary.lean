/-
Binary floating-point numbers in exact natural arithmetic. A number of a
format is a sign and a magnitude word: the exponent field above the fraction
field, as the interchange formats lay them out. The words of a format count
its magnitudes in increasing order, up to the word of infinity, so a larger
word is a larger magnitude; there is no word for a value that is not a
number, since no document can hold one.
-/
namespace KotlinMetadata.Number

/-- The widths of the fields of a binary format. -/
structure Format where
  fractionBits : Nat
  exponentBits : Nat
deriving DecidableEq, Repr

namespace Format

/-- The format of 64 bits. -/
def double : Format := ⟨52, 11⟩

/-- The format of 32 bits. -/
def single : Format := ⟨23, 8⟩

/-- The exponent of the unit in the last place of the least magnitudes. -/
def leastExponent (F : Format) : Int := 2 - (Nat.pow 2 (F.exponentBits - 1) : Nat) - F.fractionBits

/-- The magnitude word of infinity. -/
def infinity (F : Format) : Nat := (Nat.pow 2 F.exponentBits - 1) * Nat.pow 2 F.fractionBits

end Format

/-- A number of a binary format, or an infinity. -/
@[ext] structure Binary (F : Format) where
  negative : Bool
  magnitude : Nat
  le_infinity : magnitude ≤ F.infinity
deriving DecidableEq, Repr

/-- A number of 64 bits. -/
abbrev Double := Binary .double

/-- A number of 32 bits. -/
abbrev Single := Binary .single

/-- The quotient of two naturals rounded to the nearest natural, a half to the even one. -/
def divHalfEven (num den : Nat) : Nat :=
  let q := num / den
  let r := num % den
  if 2 * r < den then q else if den < 2 * r then q + 1 else q + q % 2

/-- The greatest exponent whose power of two does not exceed a positive quotient. -/
def floorLog (num den : Nat) : Int :=
  let guess : Int := (num.log2 : Int) - den.log2
  let reached := if 0 ≤ guess then den * Nat.pow 2 guess.toNat ≤ num else den ≤ num * Nat.pow 2 (-guess).toNat
  if reached then guess else guess - 1

/-- A quotient in units of a power of two, rounded. -/
def divInUnits (num den : Nat) (exponent : Int) : Nat :=
  if 0 ≤ exponent then divHalfEven num (den * Nat.pow 2 exponent.toNat)
  else divHalfEven (num * Nat.pow 2 (-exponent).toNat) den

/-- The magnitude word nearest to a quotient of naturals. -/
def nearestWord (F : Format) (num den : Nat) : Nat :=
  if num = 0 then 0
  else
    let exponent := max (floorLog num den - F.fractionBits) F.leastExponent
    min F.infinity
      ((exponent - F.leastExponent).toNat * Nat.pow 2 F.fractionBits + divInUnits num den exponent)

theorem nearestWord_le (F : Format) (num den : Nat) : nearestWord F num den ≤ F.infinity := by
  unfold nearestWord
  split
  · exact Nat.zero_le _
  · exact Nat.min_le_left _ _

namespace Binary

variable {F : Format}

/-- The number nearest to a quotient of naturals, with a sign. -/
def ofQuotient (negative : Bool) (num den : Nat) : Binary F :=
  ⟨negative, nearestWord F num den, nearestWord_le F num den⟩

/-- The number nearest to an integer. -/
def ofInt (i : Int) : Binary F := ofQuotient (i < 0) i.natAbs 1

/-- The zero of a sign. -/
def zero (negative : Bool) : Binary F := ⟨negative, 0, Nat.zero_le _⟩

/-- Infinity with a sign. -/
def infinite (negative : Bool) : Binary F := ⟨negative, F.infinity, Nat.le_refl _⟩

/-- Whether a number is not infinite. -/
def isFinite (x : Binary F) : Bool := x.magnitude < F.infinity

/-- Whether a number is zero. -/
def isZero (x : Binary F) : Bool := x.magnitude = 0

/-- The exponent field. -/
def field (x : Binary F) : Nat := x.magnitude / Nat.pow 2 F.fractionBits

/-- The significand: a finite magnitude is the significand times two to the `exponent`. -/
def significand (x : Binary F) : Nat :=
  let fraction := x.magnitude % Nat.pow 2 F.fractionBits
  if x.field = 0 then fraction else fraction + Nat.pow 2 F.fractionBits

/-- The exponent of the unit of the significand. -/
def exponent (x : Binary F) : Int := F.leastExponent + (x.field - 1 : Nat)

/-- The numerator of a finite magnitude as a quotient. -/
def num (x : Binary F) : Nat := x.significand * Nat.pow 2 x.exponent.toNat

/-- The denominator of a finite magnitude as a quotient. -/
def den (x : Binary F) : Nat := Nat.pow 2 (-x.exponent).toNat

/-- The number with the sign given. -/
def withSign (negative : Bool) (x : Binary F) : Binary F := { x with negative }

/-- The product of the magnitudes of two finite numbers, rounded. -/
def mulMagnitude (x y : Binary F) : Binary F := ofQuotient false (x.num * y.num) (x.den * y.den)

/-- The quotient of the magnitudes of two finite numbers, rounded. -/
def divMagnitude (x y : Binary F) : Binary F := ofQuotient false (x.num * y.den) (x.den * y.num)

/-- The number of another format nearest to a number; an infinity stays one. -/
def convert {G : Format} (x : Binary F) : Binary G :=
  if x.isFinite then ofQuotient x.negative x.num x.den else infinite x.negative

end Binary

end KotlinMetadata.Number
