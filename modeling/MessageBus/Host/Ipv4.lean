/-
# IPv4 addresses

An IPv4 address is written as up to four numbers between dots, each decimal,
octal after a `0` or hexadecimal after `0x`. The last number fills all the bytes
that the ones before it leave. A domain name whose last part is a number has to
be an address. An address is rendered as its four bytes in decimal.
-/
import MessageBus.Error
import MessageBus.Text.CodeRange

namespace MessageBus
namespace Ipv4

/-- A digit of a base up to sixteen. -/
def digit? (base : Nat) (c : Char) : Option Nat :=
  (Text.hexDigit? c).filter (· < base)

/-- The number that digits of a base write, when all of them are digits. -/
def ofDigits? (base : Nat) : List Char → Option Nat :=
  List.foldlM (fun n c => (digit? base c).map (n * base + ·)) 0

/-- The number that a part writes. The base mark alone writes zero. -/
def number? (part : List Char) : Option Nat :=
  match part with
  | [] => none
  | '0' :: 'x' :: rest => ofDigits? 16 rest
  | '0' :: 'X' :: rest => ofDigits? 16 rest
  | '0' :: c :: rest => ofDigits? 8 (c :: rest)
  | part => ofDigits? 10 part

/-- The parts between dots; an empty part at the end does not count. -/
def parts (name : List Char) : List (List Char) :=
  let all := Text.cut '.' name
  if all.getLast? = some [] then all.dropLast else all

/-- Whether the last part of a name is a number, so that the name has to be an
address. -/
def endsInNumber (name : List Char) : Bool :=
  match (parts name).getLast? with
  | none => false
  | some last => (last ≠ [] && last.all Char.isDigit) || (number? last).isSome

/-- How much a byte counts with `place` bytes after it. -/
def byteWeight (place : Nat) : Nat := Nat.pow 256 place

/-- The address of the numbers of its parts. -/
def ofNumbers? (numbers : List Nat) : Option Nat :=
  match numbers.reverse with
  | [] => none
  | last :: before =>
    let count := before.length
    if 3 < count ∨ byteWeight (4 - count) ≤ last ∨ before.any (255 < ·) then none
    else some (before.reverse.foldl (fun n byte => n * 256 + byte) 0 * byteWeight (4 - count) + last)

def parse (name : List Char) : Except AddressFault Nat :=
  match (parts name).mapM number? >>= ofNumbers? with
  | some address => .ok address
  | none => .error .badIpv4

/-- The four bytes in decimal. -/
def render (address : Nat) : List Char :=
  Text.join ['.'] <| [3, 2, 1, 0].map fun place =>
    Nat.toDigits 10 (address / byteWeight place % 256)

end Ipv4
end MessageBus
