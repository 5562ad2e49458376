/-
# Floats as decimal text

Two texts of a float are in use, both with its shortest digits. The *plain
form* has a point and at least one digit on each side of it; the *exponent
form* has one digit before the point, and no point after a single digit. A
`Layout` says from where to where the plain form is used, how an exponent is
signed and how an exact tie between two shortest decimals is decided.
-/
import MessageBus.Number.Shortest

namespace MessageBus
namespace Number

/-- How floats are laid out: the plain form for values whose leading digit
stands for at least `10 ^ least` and less than `10 ^ bound`. -/
structure Layout where
  least : Int
  bound : Int
  signed : Bool
  tie : Tie

def digitsOf (n : Nat) : List Char := Nat.toDigits 10 n

/-- The plain form: `point` is the number of digits before the point. -/
def plainForm (digits : List Char) (point : Int) : List Char :=
  if point ≤ 0 then ['0', '.'] ++ List.replicate (-point).toNat '0' ++ digits
  else if digits.length ≤ point.toNat then
    digits ++ List.replicate (point.toNat - digits.length) '0' ++ ['.', '0']
  else digits.take point.toNat ++ '.' :: digits.drop point.toNat

/-- The exponent form: `power` is the power of ten of the leading digit. -/
def exponentForm (signed : Bool) (digits : List Char) (power : Int) : List Char :=
  let mantissa := match digits with
    | first :: second :: more => first :: '.' :: second :: more
    | short => short
  let sign := if power < 0 then ['-'] else if signed then ['+'] else []
  mantissa ++ 'e' :: sign ++ digitsOf power.natAbs

/-- The text of a finite float without its sign. -/
def magnitudeText (layout : Layout) (significand : Nat) (exponent : Int) : List Char :=
  if significand = 0 then ['0', '.', '0']
  else
    let decimal := shortest significand exponent layout.tie
    let digits := digitsOf decimal.digits
    let point := decimal.exponent + digits.length
    if layout.least < point ∧ point ≤ layout.bound then plainForm digits point
    else exponentForm layout.signed digits (point - 1)

/-- The text of a float in a layout, when it is finite. -/
def finiteText? (layout : Layout) (x : Float) : Option (List Char) :=
  match classify x with
  | .finite negative significand exponent =>
    let text := magnitudeText layout significand exponent
    some (if negative then '-' :: text else text)
  | _ => none

/-- The layout of floats in options and diagnostics: plain from a ten-thousandth
up to `10 ^ 16`, exponents without a plus. -/
def optionLayout : Layout := ⟨-4, 16, false, .up⟩

/-- The text of a float in options and diagnostics. -/
def text (x : Float) : String :=
  match classify x with
  | .nan => "NaN"
  | .infinite negative => if negative then "-inf" else "inf"
  | .finite .. => String.ofList ((finiteText? optionLayout x).getD [])

end Number
end MessageBus
