/-
# Composed form

A letter and its marks can be written as one character or as several. The
composed form of a text takes every character apart, orders the marks after
each letter by their combining class, and puts together what has a character of
its own. Hangul syllables follow a rule; all others are listed.
-/
import MessageBus.Text.Normal.Table

namespace MessageBus
namespace Text

namespace Normal

/-- The combining class of a code point; letters have class zero. -/
def combiningClass (code : Nat) : Nat :=
  if code < 0x300 then 0
  else ((classes.find? fun (ranges, _) => ranges.contains code).map Prod.snd).getD 0

/-- The two or three parts of a Hangul syllable. -/
def hangulParts? (code : Nat) : Option (List Nat) :=
  if 0xAC00 ≤ code ∧ code ≤ 0xD7A3 then
    let index := code - 0xAC00
    let lead := 0x1100 + index / 588
    let vowel := 0x1161 + index % 588 / 28
    some (if index % 28 = 0 then [lead, vowel] else [lead, vowel, 0x11A7 + index % 28])
  else none

/-- Takes a code point apart, at most `fuel` times. -/
def decompose : Nat → Nat → List Nat
  | 0, code => [code]
  | fuel + 1, code =>
    if code < 0xC0 then [code]
    else match hangulParts? code with
      | some parts => parts
      | none => match compositions.find? (·.whole = code) with
        | some c => decompose fuel c.first ++ [c.second]
        | none => [code]

def compose? (first second : Nat) : Option Nat :=
  if 0x1100 ≤ first ∧ first < 0x1113 ∧ 0x1161 ≤ second ∧ second < 0x1176 then
    some (0xAC00 + ((first - 0x1100) * 21 + (second - 0x1161)) * 28)
  else if 0xAC00 ≤ first ∧ first ≤ 0xD7A3 ∧ (first - 0xAC00) % 28 = 0 ∧
      0x11A7 < second ∧ second < 0x11C3 then
    some (first + (second - 0x11A7))
  else if second < 0x300 then none
  else (compositions.find? fun c => c.first = first ∧ c.second = second).map (·.whole)

/-- Puts a mark among the marks at the end of a text, given from its end. -/
def insertMark (mark cls : Nat) : List Nat → List Nat
  | [] => [mark]
  | last :: before =>
    if cls < combiningClass last then last :: insertMark mark cls before
    else mark :: last :: before

/-- Orders the marks after each letter. -/
def orderMarks (codes : List Nat) : List Nat :=
  (codes.foldl (fun done code =>
    let cls := combiningClass code
    if cls = 0 then code :: done else insertMark code cls done) []).reverse

/-- Composes the code points after a letter with it, where nothing of the same
or a higher class stands between; `kept` are the marks that stayed, from the last. -/
def composeAfter (letter : Nat) : List Nat → List Nat → List Nat
  | kept, [] => letter :: kept.reverse
  | kept, code :: rest =>
    let cls := combiningClass code
    let blocked := match kept with
      | [] => false
      | last :: _ => cls ≤ combiningClass last
    match (if blocked then none else compose? letter code) with
    | some whole => composeAfter whole kept rest
    | none =>
      if cls = 0 then letter :: kept.reverse ++ composeAfter code [] rest
      else composeAfter letter (code :: kept) rest

/-- Composes every letter with the marks after it. -/
def composeAll : List Nat → List Nat
  | [] => []
  | code :: rest => if combiningClass code = 0 then composeAfter code [] rest else code :: composeAll rest

end Normal

/-- The composed form of a text. -/
def composed (s : List Char) : List Char :=
  if s.all fun c => c.toNat < 0x300 then s
  else
    (Normal.composeAll (Normal.orderMarks (s.flatMap fun c => Normal.decompose 4 c.toNat))).map
      Char.ofNat

end Text
end MessageBus
