/-
# The shortest decimal of a binary float

A finite float is a whole number times a power of two. Every real nearer to it
than to its two neighbours reads back as it, and so do the two midpoints when
its whole number is even. Among the decimals in that interval the ones with
the fewest digits are the shortest, and of those the one nearest to the float
is its decimal.

Everything is exact arithmetic on natural numbers: on the grid of multiples of
a power of ten only the two neighbours of the value can be nearest to it, so
the search tries the grids with 1, 2, … 17 digits and takes the first that has
a neighbour in the interval.
-/

namespace MessageBus
namespace Number

/-- What a float is: not a number, an infinity, or `significand * 2 ^ exponent`. -/
inductive FloatClass
  | nan
  | infinite (negative : Bool)
  | finite (negative : Bool) (significand : Nat) (exponent : Int)
  deriving DecidableEq, Repr

/-- The leading bit of a significand, which a float's bits leave out. -/
def hiddenBit : Nat := 0x10000000000000

/-- Reads a float's bits: a sign, eleven bits of exponent, fifty-two bits of fraction. -/
def classify (x : Float) : FloatClass :=
  let bits := x.toBits.toNat
  let negative := 0x8000000000000000 ≤ bits
  let biased : Nat := bits / hiddenBit % 0x800
  let fraction : Nat := bits % hiddenBit
  if biased = 2047 then
    if fraction = 0 then .infinite negative else .nan
  else if biased = 0 then .finite negative fraction (-1074)
  else .finite negative (fraction + hiddenBit) ((biased : Int) - 1075)

/-- Neither infinite nor not a number. -/
def isFinite (x : Float) : Bool :=
  match classify x with
  | .finite .. => true
  | _ => false

/-- Which neighbour wins when the value lies halfway between both. -/
inductive Tie
  | up
  | even
  deriving DecidableEq, Repr

/-- A positive decimal, `digits * 10 ^ exponent`. -/
structure Decimal where
  digits : Nat
  exponent : Int
  deriving DecidableEq, Repr

/-- A non-negative power as a fraction: one of the two numbers is 1. -/
def powerFraction (base : Nat) (exponent : Int) : Nat × Nat :=
  if 0 ≤ exponent then (base.pow exponent.toNat, 1) else (1, base.pow (-exponent).toNat)

/-- The interval of reals that read back as a float, and the float itself, on
one scale on which a step of the decimal grid has the length `unit`. -/
structure Scaled where
  lower : Nat
  value : Nat
  upper : Nat
  unit : Nat
  closed : Bool

/-- Whether a multiple of the grid's step lies in the interval. -/
def Scaled.holds (s : Scaled) (n : Nat) : Bool :=
  let point := n * s.unit
  if s.closed then s.lower ≤ point && point ≤ s.upper
  else s.lower < point && point < s.upper

/-- The multiple of the grid's step that reads back and is nearest to the value. -/
def Scaled.nearest? (s : Scaled) (tie : Tie) : Option Nat :=
  let below := s.value / s.unit
  let above := below + 1
  let toBelow := s.value - below * s.unit
  let toAbove := above * s.unit - s.value
  match s.holds below, s.holds above with
  | false, false => none
  | true, false => some below
  | false, true => some above
  | true, true =>
    if toBelow < toAbove then some below
    else if toAbove < toBelow then some above
    else match tie with
      | .up => some above
      | .even => some (if below % 2 = 0 then below else above)

/-- The interval of `significand * 2 ^ exponent` against the grid of multiples
of `10 ^ grid`. A power of two has a neighbour below at half the distance,
unless it is among the smallest floats. -/
def scale (significand : Nat) (exponent grid : Int) : Scaled :=
  let (twoNum, twoDen) := powerFraction 2 (exponent - 2)
  let (tenNum, tenDen) := powerFraction 10 grid
  let step := twoNum * tenDen
  let gapBelow := if significand = hiddenBit ∧ -1074 < exponent then 1 else 2
  { lower := (4 * significand - gapBelow) * step
    value := 4 * significand * step
    upper := (4 * significand + 2) * step
    unit := tenNum * twoDen
    closed := significand % 2 = 0 }

/-- Whether `10 ^ power` is at most `significand * 2 ^ exponent`. -/
def reaches (significand : Nat) (exponent power : Int) : Bool :=
  let (twoNum, twoDen) := powerFraction 2 exponent
  let (tenNum, tenDen) := powerFraction 10 power
  tenNum * twoDen ≤ significand * twoNum * tenDen

/-- The power of ten just above a positive value: `10 ^ (n - 1) ≤ value < 10 ^ n`.
The length in bits gives it up to one. -/
def magnitude (significand : Nat) (exponent : Int) : Int :=
  let guess := ((significand.log2 : Int) + exponent) * 30103 / 100000
  if reaches significand exponent (guess + 1) then guess + 2
  else if reaches significand exponent guess then guess + 1
  else guess

/-- The first grid with a neighbour in the interval, from `count` digits on. -/
def searchGrids (significand : Nat) (exponent top : Int) (tie : Tie) : Nat → Nat → Option Decimal
  | _, 0 => none
  | count, more + 1 =>
    let grid := top - count
    match (scale significand exponent grid).nearest? tie with
    | some digits => some ⟨digits, grid⟩
    | none => searchGrids significand exponent top tie (count + 1) more

/-- The decimal without trailing zeros, of which at most `more` are dropped. -/
def Decimal.dropZeros (d : Decimal) : Nat → Decimal
  | 0 => d
  | more + 1 =>
    if d.digits ≠ 0 ∧ d.digits % 10 = 0 then
      Decimal.dropZeros ⟨d.digits / 10, d.exponent + 1⟩ more
    else d

/-- The shortest decimal that reads back as `significand * 2 ^ exponent`, the
nearest of the shortest. Seventeen digits always suffice. -/
def shortest (significand : Nat) (exponent : Int) (tie : Tie) : Decimal :=
  let top := magnitude significand exponent
  ((searchGrids significand exponent top tie 1 17).getD ⟨0, 0⟩).dropZeros 17

end Number
end MessageBus
