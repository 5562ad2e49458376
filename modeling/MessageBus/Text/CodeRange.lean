/-
# Sets and maps of code points

Unicode's properties are given as ranges of code points. A set is written as a
text of hexadecimal ranges (`41-5A 61-7A AA`), a map as a text of runs
(`41-5A:61 100~12E:101`): the code points from the first to the last, all of
them after `-` and every second one after `~`, go to the code points from the
image on at the same distance.
-/
import MessageBus.Text

namespace MessageBus

def Text.hexDigit? (c : Char) : Option Nat :=
  if '0' ≤ c ∧ c ≤ '9' then some (c.toNat - '0'.toNat)
  else if 'a' ≤ c ∧ c ≤ 'f' then some (c.toNat - 'a'.toNat + 10)
  else if 'A' ≤ c ∧ c ≤ 'F' then some (c.toNat - 'A'.toNat + 10)
  else none

/-- The number that the leading hexadecimal digits write. -/
def Text.hexNumber (s : List Char) : Nat :=
  (s.takeWhile fun c => (Text.hexDigit? c).isSome).foldl
    (fun n c => n * 16 + (Text.hexDigit? c).getD 0) 0

/-- The words of a text, which blanks and line breaks keep apart. -/
def Text.words (s : String) : List (List Char) :=
  ((Text.cut '\n' s.toList).flatMap (Text.cut ' ')).filter (· ≠ [])

/-- A set of code points as closed ranges. -/
abbrev CodeRanges := List (Nat × Nat)

namespace CodeRanges

/-- The ranges that a text of hexadecimal ranges lists. -/
def ofText (s : String) : CodeRanges :=
  (Text.words s).map fun word =>
    match Text.cutOnce '-' word with
    | some (first, last) => (Text.hexNumber first, Text.hexNumber last)
    | none => (Text.hexNumber word, Text.hexNumber word)

/-- Whether a code point lies in one of the ranges. -/
def contains (ranges : CodeRanges) (code : Nat) : Bool :=
  ranges.any fun (first, last) => first ≤ code && code ≤ last

end CodeRanges

/-- Code points `first`, `first + step`, … up to `last`, which go to `image`,
`image + step`, …. -/
structure CodeRun where
  first : Nat
  last : Nat
  step : Nat
  image : Nat

/-- A map of code points as runs. -/
abbrev CodeRuns := List CodeRun

namespace CodeRuns

/-- The runs that a text of hexadecimal runs lists. -/
def ofText (s : String) : CodeRuns :=
  (Text.words s).map fun word =>
    let (codes, image) := (Text.cutOnce ':' word).getD (word, [])
    match Text.cutOnce '-' codes, Text.cutOnce '~' codes with
    | some (first, last), _ => ⟨Text.hexNumber first, Text.hexNumber last, 1, Text.hexNumber image⟩
    | none, some (first, last) =>
      ⟨Text.hexNumber first, Text.hexNumber last, 2, Text.hexNumber image⟩
    | none, none => ⟨Text.hexNumber codes, Text.hexNumber codes, 1, Text.hexNumber image⟩

/-- The image of a code point, when a run holds it. -/
def image? (runs : CodeRuns) (code : Nat) : Option Nat :=
  (runs.find? fun run =>
    run.first ≤ code && code ≤ run.last && (code - run.first) % run.step == 0).map
    fun run => run.image + (code - run.first)

end CodeRuns

end MessageBus
