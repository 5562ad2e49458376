/-
# Texts

Cutting a text at a separator and joining the pieces again, trimming it, and
comparing it without regard to the case of the letters `A` to `Z`. Cutting
always gives at least one piece, and no piece holds the separator. Trimming
removes characters from both ends of a text and never touches what lies
between; blank characters are those of Unicode's `White_Space` property.
-/

namespace MessageBus
namespace Text

/-! ### Cutting -/

/-- The pieces of a text between the occurrences of `sep`: one more piece than
there are separators. -/
def cut (sep : Char) : List Char → List (List Char)
  | [] => [[]]
  | c :: rest =>
    if c = sep then [] :: cut sep rest
    else match cut sep rest with
      | [] => [[c]]
      | piece :: pieces => (c :: piece) :: pieces

/-- The pieces one after the other with `sep` between them. -/
def join (sep : List Char) : List (List Char) → List Char
  | [] => []
  | [piece] => piece
  | piece :: pieces => piece ++ sep ++ join sep pieces

/-- What stands before and after the first `sep`, when there is one. -/
def cutOnce (sep : Char) : List Char → Option (List Char × List Char)
  | [] => none
  | c :: rest =>
    if c = sep then some ([], rest)
    else (cutOnce sep rest).map fun (before, after) => (c :: before, after)

/-- What stands before and after the last `sep`, when there is one. -/
def cutLast (sep : Char) (s : List Char) : Option (List Char × List Char) :=
  (cutOnce sep s.reverse).map fun (after, before) => (before.reverse, after.reverse)

theorem cut_ne_nil (sep : Char) (s : List Char) : cut sep s ≠ [] := by
  cases s with
  | nil => simp [cut]
  | cons c rest =>
    unfold cut
    split
    · simp
    · split <;> simp

/-- Putting the pieces together again gives back the text. -/
theorem join_cut (sep : Char) (s : List Char) : join [sep] (cut sep s) = s := by
  induction s with
  | nil => rfl
  | cons c rest ih =>
    unfold cut
    split
    · next h =>
      subst h
      match hp : cut c rest with
      | [] => exact absurd hp (cut_ne_nil _ _)
      | piece :: pieces => rw [hp] at ih; simp [join, ih]
    · match hp : cut sep rest with
      | [] => exact absurd hp (cut_ne_nil _ _)
      | [piece] => rw [hp] at ih; simpa [join] using ih
      | piece :: next :: pieces => rw [hp] at ih; simpa [join] using ih

/-- No piece holds the separator. -/
theorem not_mem_of_mem_cut {sep : Char} {s piece : List Char} (h : piece ∈ cut sep s) :
    sep ∉ piece := by
  induction s generalizing piece with
  | nil => simp [cut] at h; simp [h]
  | cons c rest ih =>
    unfold cut at h
    split at h
    · rcases List.mem_cons.1 h with rfl | h
      · simp
      · exact ih h
    · next hc =>
      match hp : cut sep rest with
      | [] => exact absurd hp (cut_ne_nil _ _)
      | first :: pieces =>
        rw [hp] at h ih
        rcases List.mem_cons.1 h with rfl | h
        · have := ih (List.mem_cons_self (a := first))
          simp [this, Ne.symm hc]
        · exact ih (List.mem_cons_of_mem _ h)

/-! ### Trimming -/

/-- A character with Unicode's `White_Space` property. -/
def isBlank (c : Char) : Bool :=
  let n := c.toNat
  (0x09 ≤ n && n ≤ 0x0D) || n == 0x20 || n == 0x85 || n == 0xA0 || n == 0x1680 ||
    (0x2000 ≤ n && n ≤ 0x200A) || n == 0x2028 || n == 0x2029 || n == 0x202F ||
    n == 0x205F || n == 0x3000

/-- The text without the leading characters that satisfy `p`. -/
def trimStartWhere (p : Char → Bool) (s : List Char) : List Char := s.dropWhile p

/-- The text without the trailing characters that satisfy `p`. -/
def trimEndWhere (p : Char → Bool) (s : List Char) : List Char :=
  (s.reverse.dropWhile p).reverse

/-- The text without the characters at either end that satisfy `p`. -/
def trimWhere (p : Char → Bool) (s : List Char) : List Char :=
  trimEndWhere p (trimStartWhere p s)

/-- The text without blank characters at either end. -/
def trim (s : List Char) : List Char := trimWhere isBlank s

/-! ### Letter case -/

/-- The text with the letters `A` to `Z` in lower case. -/
def foldCase (s : String) : List Char := s.toList.map Char.toLower

/-- Equality up to the case of the letters `A` to `Z`. -/
def sameIgnoringCase (a b : String) : Bool := foldCase a == foldCase b

theorem sameIgnoringCase_iff {a b : String} :
    sameIgnoringCase a b = true ↔ foldCase a = foldCase b := by
  simp [sameIgnoringCase]

@[simp] theorem sameIgnoringCase_self (a : String) : sameIgnoringCase a a = true := by
  simp [sameIgnoringCase]

end Text
end MessageBus
