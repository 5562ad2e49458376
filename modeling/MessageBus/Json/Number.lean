/-
# Numbers in JSON texts

A number is read as an integer when it is written without fraction and
exponent and fits 64 bits, with or without sign; any other number is a float.
A float is not read to full precision: its leading digits are gathered into 64
bits, the digits beyond are dropped, and the result is scaled once by a power
of ten. Large negative powers take further divisions by `10 ^ 308`.
-/
import MessageBus.Json.Problem

namespace MessageBus
namespace Json

/-- A number as it is written. -/
structure Numeral where
  negative : Bool
  whole : List Nat
  fraction : List Nat
  exponent : Option (Bool × List Nat)

/-- A number as it is read. -/
inductive Value
  | integer (value : Int)
  | float (value : Float)
  deriving DecidableEq

/-- What a number is called where something else is expected. -/
def Value.found : Value → Found
  | .integer n => .integer n
  | .float x => .float x

def maxSignificand : Nat := UInt64.size - 1

/-- Appends digits before the point to a significand for as long as it fits;
also the number of digits that did not. -/
def gatherWhole (significand : Nat) : List Nat → Nat × Nat
  | [] => (significand, 0)
  | d :: rest =>
    if maxSignificand < significand * 10 + d then (significand, rest.length + 1)
    else gatherWhole (significand * 10 + d) rest

/-- Appends digits after the point to a significand for as long as it fits;
also the number of digits that did. -/
def gatherFraction (significand : Nat) : List Nat → Nat × Nat
  | [] => (significand, 0)
  | d :: rest =>
    if maxSignificand < significand * 10 + d then (significand, 0)
    else
      let (gathered, count) := gatherFraction (significand * 10 + d) rest
      (gathered, count + 1)

/-- The float nearest to a power of ten up to `10 ^ 308`. -/
def powerOfTen (n : Nat) : Float := Float.ofScientific 1 false n

/-- Divides by `10 ^ 308` a number of times, but no further than to zero. -/
def divideRepeatedly (x : Float) : Nat → Float
  | 0 => x
  | times + 1 => if x == 0.0 then x else divideRepeatedly (x / powerOfTen 308) times

/-- A significand times a power of ten; none when it is out of range. -/
def scale (significand : Nat) (exponent : Int) : Option Float :=
  let x := Float.ofNat significand
  if 0 ≤ exponent then
    if exponent ≤ 308 then
      let y := x * powerOfTen exponent.toNat
      if y.isInf then none else some y
    else if x == 0.0 then some x else none
  else
    let down := (-exponent).toNat
    let times := (down - 1) / 308
    let y := divideRepeatedly x times
    some (y / powerOfTen (down - 308 * times))

def ofDigits (digits : List Nat) : Nat := digits.foldl (fun n d => n * 10 + d) 0

def withSign (negative : Bool) (x : Float) : Float := if negative then -x else x

namespace Numeral

/-- The float that a numeral writes; none when it is out of range. An exponent
beyond 31 bits is out of range, or makes zero. -/
def float? (n : Numeral) : Option Float :=
  let (whole, dropped) := gatherWhole 0 n.whole
  let (significand, count) := gatherFraction whole n.fraction
  let start : Int := dropped - count
  let magnitude := match n.exponent with
    | none => scale significand start
    | some (negative, digits) =>
      let power := ofDigits digits
      if 0x80000000 ≤ power then
        if significand ≠ 0 ∧ ¬ negative then none else some 0.0
      else scale significand (if negative then start - power else start + power)
  magnitude.map (withSign n.negative)

/-- The number that a numeral writes; none when it is out of range. Minus zero
is a float, and so is a negative integer below `- 2 ^ 63`. -/
def value? (n : Numeral) : Option Value :=
  let (significand, dropped) := gatherWhole 0 n.whole
  if n.fraction = [] ∧ n.exponent = none ∧ dropped = 0 then
    if ¬ n.negative then some (.integer significand)
    else if significand = 0 ∨ 0x8000000000000000 < significand then
      some (.float (-(Float.ofNat significand)))
    else some (.integer (-significand))
  else n.float?.map .float

end Numeral

def digitValue (c : Char) : Nat := c.toNat - '0'.toNat

/-- The digits at the front of a text, and the rest. -/
def takeDigits (s : List Char) : List Nat × List Char :=
  ((s.takeWhile Char.isDigit).map digitValue, s.dropWhile Char.isDigit)

/-- The digits before the point: a zero alone, or digits without leading zero. -/
def readWhole (s : List Char) : Except Problem (List Nat × List Char) :=
  match s with
  | [] => .error .endOfValue
  | c :: rest =>
    if c = '0' then
      match rest with
      | d :: _ => if d.isDigit then .error .badNumber else .ok ([0], rest)
      | [] => .ok ([0], rest)
    else if c.isDigit then .ok (takeDigits s)
    else .error .badNumber

/-- At least one digit. -/
def readDigits (s : List Char) : Except Problem (List Nat × List Char) :=
  match s with
  | [] => .error .endOfValue
  | c :: _ => if c.isDigit then .ok (takeDigits s) else .error .badNumber

/-- The fraction, when there is one: a point and digits. -/
def readFraction (s : List Char) : Except Problem (List Nat × List Char) :=
  match s with
  | '.' :: rest => readDigits rest
  | rest => .ok ([], rest)

/-- The exponent, when there is one: an `e`, a sign or none, and digits. -/
def readExponent (s : List Char) : Except Problem (Option (Bool × List Nat) × List Char) :=
  match s with
  | [] => .ok (none, [])
  | c :: rest =>
    if c = 'e' ∨ c = 'E' then
      let (negative, rest) := match rest with
        | '+' :: rest => (false, rest)
        | '-' :: rest => (true, rest)
        | rest => (false, rest)
      (readDigits rest).map fun (digits, rest) => (some (negative, digits), rest)
    else .ok (none, s)

/-- The numeral at the front of a text. -/
def readNumeral (s : List Char) : Except Problem (Numeral × List Char) := do
  let (negative, s) := match s with
    | '-' :: rest => (true, rest)
    | rest => (false, rest)
  let (whole, s) ← readWhole s
  let (fraction, s) ← readFraction s
  let (exponent, s) ← readExponent s
  return (⟨negative, whole, fraction, exponent⟩, s)

/-- The number at the front of a text. -/
def readValue (s : List Char) : Except Problem (Value × List Char) := do
  let (numeral, s) ← readNumeral s
  match numeral.value? with
  | some value => return (value, s)
  | none => .error .numberOutOfRange

end Json
end MessageBus
