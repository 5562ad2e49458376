/-
# IPv6 addresses

An IPv6 address has eight pieces of sixteen bits, written in hexadecimal
between colons. Once, two colons stand for as many zero pieces as are missing,
and the last two pieces may be written as an IPv4 address. The rendered form
puts two colons for the first of the longest runs of at least two zero pieces.
-/
import MessageBus.Error
import MessageBus.Text.CodeRange

namespace MessageBus
namespace Ipv6

/-- The up to four hexadecimal digits at the front of a text, and the rest. -/
def spanPiece (s : List Char) : List Char × List Char :=
  let digits := (s.take 4).takeWhile fun c => (Text.hexDigit? c).isSome
  (digits, s.drop digits.length)

/-- A decimal number of at most 255 without leading zero at the front of a
text, and the rest. -/
def readByte? (s : List Char) : Option (Nat × List Char) :=
  let digits := s.takeWhile Char.isDigit
  let value := digits.foldl (fun n c => n * 10 + (c.toNat - '0'.toNat)) 0
  if digits = [] ∨ (digits.head? = some '0' ∧ digits.length ≠ 1) ∨ 255 < value then none
  else some (value, s.dropWhile Char.isDigit)

/-- Two pieces written as the four bytes of an IPv4 address, up to the end. -/
def readBytes? (s : List Char) : Option (List Nat) := do
  let (a, s) ← readByte? s
  let '.' :: s := s | none
  let (b, s) ← readByte? s
  let '.' :: s := s | none
  let (c, s) ← readByte? s
  let '.' :: s := s | none
  let (d, s) ← readByte? s
  if s = [] then some [a * 256 + b, c * 256 + d] else none

/-- Pieces before and, when two colons have been met, after them. -/
structure Pieces where
  before : List Nat
  after : Option (List Nat)

/-- The number of pieces for which a place is taken; two colons take one. -/
def Pieces.taken (p : Pieces) : Nat :=
  p.before.length + match p.after with
    | none => 0
    | some after => after.length + 1

/-- One more piece. -/
def Pieces.add (p : Pieces) (piece : Nat) : Pieces :=
  match p.after with
  | none => { p with before := p.before ++ [piece] }
  | some after => { p with after := some (after ++ [piece]) }

/-- Reads pieces to the end of the text, at most `fuel` of them. -/
def readPieces? : Nat → Pieces → List Char → Option Pieces
  | 0, _, _ => none
  | _, p, [] => some p
  | fuel + 1, p, s =>
    if 8 ≤ p.taken then none
    else match s with
      | ':' :: rest =>
        if p.after.isSome then none else readPieces? fuel { p with after := some [] } rest
      | s =>
        match spanPiece s with
        | (digits, []) => some (p.add (Text.hexNumber digits))
        | (digits, ':' :: rest) =>
          if rest = [] then none else readPieces? fuel (p.add (Text.hexNumber digits)) rest
        | ([], _) => none
        | (_, '.' :: _) =>
          if 6 < p.taken then none
          else (readBytes? s).map fun pieces => pieces.foldl Pieces.add p
        | _ => none

/-- All eight pieces, with zeros for the two colons. -/
def Pieces.fill? (p : Pieces) : Option (List Nat) :=
  match p.after with
  | none => if p.before.length = 8 then some p.before else none
  | some after =>
    some (p.before ++ List.replicate (8 - p.before.length - after.length) 0 ++ after)

/-- Reads an address, without its brackets. -/
def parse (s : List Char) : Except AddressFault (List Nat) :=
  let pieces := match s with
    | ':' :: ':' :: rest => readPieces? (s.length + 1) ⟨[], some []⟩ rest
    | ':' :: _ => none
    | [_] => none
    | s => readPieces? (s.length + 1) ⟨[], none⟩ s
  match pieces >>= Pieces.fill? with
  | some address => .ok address
  | none => .error .badIpv6

def leadingZeros (pieces : List Nat) : Nat := (pieces.takeWhile (· = 0)).length

/-- The position and length of the first of the longest runs of zeros. -/
def longestZeros : List Nat → Nat × Nat
  | [] => (0, 0)
  | piece :: rest =>
    let here := leadingZeros (piece :: rest)
    let (position, length) := longestZeros rest
    if length ≤ here then (0, here) else (position + 1, length)

/-- Pieces in hexadecimal between colons. -/
def renderPieces (pieces : List Nat) : List Char :=
  Text.join [':'] (pieces.map (Nat.toDigits 16))

/-- An address, without its brackets. -/
def render (address : List Nat) : List Char :=
  let (position, length) := longestZeros address
  if length < 2 then renderPieces address
  else renderPieces (address.take position) ++ [':', ':'] ++
    renderPieces (address.drop (position + length))

end Ipv6
end MessageBus
