/-
The shortest decimal of a binary number: of all decimals that read back to
the number, those with the fewest digits, and of these the nearest. Two can
be equally near; which of them is taken is for the writer to say.

The reals that round to a number with significand `m` are those between the
midpoints to its neighbours, the midpoints included when `m` is even. In
quarters of the unit of the significand the number is `4 m`, the upper
midpoint `4 m + 2` and the lower one `4 m - 2`, or `4 m - 1` where the
neighbour below is half a unit away.
-/
import KotlinMetadata.Number.Binary

namespace KotlinMetadata.Number

/-- A decimal: the digits as a natural, times ten to the `exponent`. -/
structure Decimal where
  digits : Nat
  exponent : Int
deriving DecidableEq, Repr

/-- Which of two neighbouring decimals stands for a value halfway between them. -/
inductive Tie where
  /-- The larger one. -/
  | up
  /-- The one with an even last digit. -/
  | toEven
deriving DecidableEq, Repr

/-- Whether a value goes to the lower of its two neighbours on a grid, with `digits` the lower one
in units of the grid and `part` the value's distance from it. -/
def Tie.goesDown (tie : Tie) (digits part unit : Nat) : Bool :=
  match tie with
  | .up => 2 * part < unit
  | .toEven => 2 * part < unit || (2 * part = unit && digits % 2 = 0)

/-- The reals that round to a number, in multiples of two to the `exponent`. -/
structure RoundingInterval where
  low : Nat
  value : Nat
  high : Nat
  exponent : Int
  /-- Whether the ends belong to the interval. -/
  closed : Bool
deriving DecidableEq, Repr

/-- The reals that round to a finite number. -/
def Binary.interval {F : Format} (x : Binary F) : RoundingInterval :=
  let m := x.significand
  { low := if m = Nat.pow 2 F.fractionBits && 1 < x.field then 4 * m - 1 else 4 * m - 2
    value := 4 * m
    high := 4 * m + 2
    exponent := x.exponent - 2
    closed := m % 2 = 0 }

namespace RoundingInterval

/-- The factor of a decimal when it is compared with a multiple of two to the `exponent`. -/
def decimalFactor (r : RoundingInterval) (k : Int) : Nat := Nat.pow 10 k.toNat * Nat.pow 2 (-r.exponent).toNat

/-- The factor of a multiple of two to the `exponent` when it is compared with a decimal. -/
def binaryFactor (r : RoundingInterval) (k : Int) : Nat := Nat.pow 10 (-k).toNat * Nat.pow 2 r.exponent.toNat

/-- Whether a decimal lies in the interval. -/
def contains (r : RoundingInterval) (d : Decimal) : Bool :=
  let x := d.digits * r.decimalFactor d.exponent
  let low := r.low * r.binaryFactor d.exponent
  let high := r.high * r.binaryFactor d.exponent
  if r.closed then low ≤ x && x ≤ high else low < x && x < high

/-- The decimal of an exponent in the interval that is nearest to the value, if there is one. -/
def nearestAt? (r : RoundingInterval) (tie : Tie) (k : Int) : Option Decimal :=
  let unit := r.decimalFactor k
  let value := r.value * r.binaryFactor k
  let below : Decimal := ⟨value / unit, k⟩
  let above : Decimal := ⟨value / unit + 1, k⟩
  match r.contains below && value / unit != 0, r.contains above with
  | true, true => if tie.goesDown (value / unit) (value % unit) unit then some below else some above
  | true, false => some below
  | false, true => some above
  | false, false => none

/-- The first decimal found when the exponent goes down from `k`. -/
def search (r : RoundingInterval) (tie : Tie) : (steps : Nat) → (k : Int) → Decimal
  | 0, k => ⟨r.value * r.binaryFactor k / r.decimalFactor k, k⟩
  | steps + 1, k => (r.nearestAt? tie k).getD (search r tie steps (k - 1))

/-- An exponent whose power of ten exceeds the interval. -/
def ceiling (r : RoundingInterval) : Int := ((r.high.log2 : Int) + 1 + r.exponent) * 30103 / 100000 + 2

end RoundingInterval

/-- The shortest decimal of a finite magnitude other than zero. At most seventeen digits are
needed, and the search starts no more than three places above them. -/
def Binary.shortest {F : Format} (tie : Tie) (x : Binary F) : Decimal :=
  x.interval.search tie 24 x.interval.ceiling

end KotlinMetadata.Number
