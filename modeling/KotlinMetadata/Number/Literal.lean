/-
Number literals and their values. The digits of a literal are gathered into
a significand of 64 bits; once the next digit would not fit, the digits left
of the point count as places and those right of it are dropped. A literal
that is only digits is an integer as long as it fits 64 bits; any other is
its significand, as a double, multiplied or divided by a power of ten. A
literal too large for a double has no value.
-/
import KotlinMetadata.Number.Binary

namespace KotlinMetadata

/-- A number of a document. Singles are written but never read: a document does not say so. -/
inductive Number where
  | integer (i : Int)
  | double (x : Number.Double)
  | single (x : Number.Single)
deriving DecidableEq, Repr

namespace Number

/-- A number literal, as lists of digits. -/
structure Literal where
  negative : Bool
  whole : List Nat
  /-- The digits after the point, if there is one. -/
  fraction : Option (List Nat)
  /-- Whether the exponent is negative, and its digits, if there is one. -/
  exponent : Option (Bool × List Nat)
deriving DecidableEq, Repr

/-- The digits appended to a number as long as it does not exceed the limit, and those left. -/
def absorb (limit : Nat) : Nat → List Nat → Nat × List Nat
  | n, [] => (n, [])
  | n, d :: ds => if n * 10 + d ≤ limit then absorb limit (n * 10 + d) ds else (n, d :: ds)

/-- The greatest significand. -/
def significandLimit : Nat := Nat.pow 2 64 - 1

/-- The greatest exponent that is told apart from larger ones. -/
def exponentLimit : Nat := Nat.pow 2 31 - 1

/-- The greatest power of ten that a double is scaled by in one step. -/
def powerLimit : Nat := 308

/-- A power of ten as a double. -/
def powerOfTen (k : Nat) : Double := .ofInt (Nat.pow 10 k)

/-- A double divided by a power of ten, in steps no greater than `powerLimit`. -/
def scaleDown (x : Double) (k : Nat) : Double :=
  if _h : k ≤ powerLimit then x.divMagnitude (powerOfTen k)
  else if x.isZero then x
  else scaleDown (x.divMagnitude (powerOfTen powerLimit)) (k - powerLimit)
termination_by k
decreasing_by simp only [powerLimit] at _h ⊢; omega

/-- A double multiplied by a power of ten, unless the result is too large. -/
def scaleUp (x : Double) (k : Nat) : Option Double :=
  if k ≤ powerLimit then
    let y := x.mulMagnitude (powerOfTen k)
    if y.isFinite then some y else none
  else if x.isZero then some x
  else none

/-- The double of a sign, a significand and a decimal exponent. -/
def scaled (negative : Bool) (significand : Nat) (exponent : Int) : Option Double :=
  let x : Double := .ofInt significand
  let magnitude :=
    if 0 ≤ exponent then scaleUp x exponent.toNat else some (scaleDown x (-exponent).toNat)
  magnitude.map (·.withSign negative)

namespace Literal

/-- The significand of a literal and the exponent its digits give it. -/
def parts (l : Literal) : Nat × Int :=
  let (n, left) := absorb significandLimit 0 l.whole
  let fraction := l.fraction.getD []
  let (m, dropped) := absorb significandLimit n fraction
  (m, (left.length : Int) - ((fraction.length - dropped.length : Nat) : Int))

/-- Whether a literal is only digits, and few enough for 64 bits. -/
def isIntegral (l : Literal) : Bool :=
  l.fraction.isNone && l.exponent.isNone && (absorb significandLimit 0 l.whole).2.isEmpty

/-- The value of a literal, if it is in range. -/
def value? (l : Literal) : Option Number :=
  let (significand, exponent) := l.parts
  if l.isIntegral then
    if !l.negative then some (.integer significand)
    else if significand = 0 then some (.double (.zero true))
    else if significand ≤ Nat.pow 2 63 then some (.integer (-(significand : Int)))
    else some (.double ((Binary.ofInt significand).withSign true))
  else
    match l.exponent with
    | none => (scaled l.negative significand exponent).map .double
    | some (down, digits) =>
      match absorb exponentLimit 0 digits with
      | (k, []) =>
        let exponent := if down then exponent - k else exponent + k
        (scaled l.negative significand exponent).map .double
      | (_, _ :: _) =>
        if significand ≠ 0 && !down then none else some (.double (.zero l.negative))

end Literal

end Number

end KotlinMetadata
