/-
# Punycode

Writes any text with letters, digits and hyphens. The basic characters come
first, then for every other character, in ascending order, how far the
insertion of the next one lies from the last, as a number with digits of
variable weight. The weights adapt to the numbers already written (`adapt`).
-/

namespace MessageBus
namespace Punycode

/-- The digit of a number below 36: a letter, then a decimal digit. -/
def digit (n : Nat) : Char :=
  if n < 26 then Char.ofNat (n + 'a'.toNat) else Char.ofNat (n - 26 + '0'.toNat)

def digitValue? (c : Char) : Option Nat :=
  if 'a' ≤ c ∧ c ≤ 'z' then some (c.toNat - 'a'.toNat)
  else if 'A' ≤ c ∧ c ≤ 'Z' then some (c.toNat - 'A'.toNat)
  else if '0' ≤ c ∧ c ≤ '9' then some (c.toNat - '0'.toNat + 26)
  else none

/-- The least digit that ends a number, at a place and under a bias. -/
def threshold (place bias : Nat) : Nat := min 26 (max 1 (place - bias))

theorem threshold_pos (place bias : Nat) : 1 ≤ threshold place bias := by
  simp only [threshold]; omega

theorem threshold_le (place bias : Nat) : threshold place bias ≤ 26 := by
  simp only [threshold]; omega

/-- Divides a number by 35 until it is at most 455, counting in steps of 36. -/
def shrink (n count : Nat) : Nat × Nat :=
  if 455 < n then shrink (n / 35) (count + 36) else (n, count)
termination_by n
decreasing_by omega

/-- The bias after a number, given how many characters there are now. -/
def adapt (delta count : Nat) (first : Bool) : Nat :=
  let delta := if first then delta / 700 else delta / 2
  let (rest, places) := shrink (delta + delta / count) 0
  places + 36 * rest / (rest + 38)

def digits (bias place n : Nat) : List Char :=
  let t := threshold place bias
  if n < t then [digit n]
  else digit (t + (n - t) % (36 - t)) :: digits bias (place + 36) ((n - t) / (36 - t))
termination_by n
decreasing_by
  have := threshold_pos place bias
  have : (n - threshold place bias) / (36 - threshold place bias) ≤ n - threshold place bias :=
    Nat.div_le_self _ _
  omega

/-- What has been written, and what the next number depends on. -/
structure Encoder where
  written : List Char
  delta : Nat
  bias : Nat
  count : Nat

/-- Passes one code point of the text while the code point `next` is inserted. -/
def Encoder.pass (basic next : Nat) (e : Encoder) (code : Nat) : Encoder :=
  if code < next then { e with delta := e.delta + 1 }
  else if code = next then
    { written := e.written ++ digits e.bias 36 e.delta
      delta := 0
      bias := adapt e.delta (e.count + 1) (e.count == basic)
      count := e.count + 1 }
  else e

/-- Inserts the code points of an ascending list one after the other. -/
def Encoder.run (text : List Nat) (basic : Nat) : List Nat → Nat → Encoder → Encoder
  | [], _, e => e
  | next :: later, low, e =>
    let e := { e with delta := e.delta + (next - low) * (e.count + 1) }
    let e := text.foldl (Encoder.pass basic next) e
    Encoder.run text basic later (next + 1) { e with delta := e.delta + 1 }

/-- The written form of a text. -/
def encode (text : List Char) : List Char :=
  let codes := text.map Char.toNat
  let basic := text.filter fun c => c.toNat < 0x80
  let others := (codes.filter (0x80 ≤ ·)).eraseDups.mergeSort
  let start := if basic = [] then [] else basic ++ ['-']
  (Encoder.run codes basic.length others 0x80 ⟨start, 0, 72, basic.length⟩).written

/-- Reads a number: its value added to `sum`, and the rest of the text. -/
def readNumber? (bias : Nat) : Nat → Nat → Nat → List Char → Option (Nat × List Char)
  | _, _, _, [] => none
  | place, weight, sum, c :: rest =>
    match digitValue? c with
    | none => none
    | some n =>
      let t := threshold place bias
      if n < t then some (sum + n * weight, rest)
      else readNumber? bias (place + 36) (weight * (36 - t)) (sum + n * weight) rest

/-- Inserts the code points that the numbers of a text write, at most `fuel` of
them. -/
def decodeFrom? : Nat → Nat → Nat → Nat → List Nat → List Char → Option (List Nat)
  | 0, _, _, _, _, _ => none
  | _, _, _, _, codes, [] => some codes
  | fuel + 1, low, position, bias, codes, text =>
    match readNumber? bias 36 1 position text with
    | none => none
    | some (sum, rest) =>
      let count := codes.length + 1
      let code := low + sum / count
      let place := sum % count
      if 0x10FFFF < code then none
      else
        decodeFrom? fuel code (place + 1) (adapt (sum - position) count (position == 0))
          (codes.insertIdx place code) rest

def isChar (code : Nat) : Bool := code < 0xD800 || (0xE000 ≤ code && code ≤ 0x10FFFF)

/-- The basic characters of a written form and the digits after them. The last hyphen
keeps them apart, unless nothing stands before it: then it is taken for a digit. -/
def parts (written : List Char) : List Char × List Char :=
  match written.reverse.span (· ≠ '-') with
  | (numbers, _ :: last :: before) => ((last :: before).reverse, numbers.reverse)
  | _ => ([], written)

/-- The text of a written form. -/
def decode? (written : List Char) : Option (List Char) :=
  let (basic, numbers) := parts written
  if basic.any (0x80 ≤ ·.toNat) then none
  else
    match decodeFrom? (numbers.length + 1) 0x80 0 72 (basic.map Char.toNat) numbers with
    | none => none
    | some codes => if codes.all isChar then some (codes.map Char.ofNat) else none

end Punycode
end MessageBus
