/-
# The characters of a number's text

Digits, a point, an exponent and signs are all that the text of a finite float
holds, in whatever layout.

Key definition: `Number.isTextChar`. Key theorem: `Number.isTextChar_of_mem_finiteText`.
-/
import Mathlib.Data.List.Basic
import MessageBus.Number.Decimal

namespace MessageBus
namespace Number

/-- A digit, the point, the mark of an exponent or a sign. -/
def isTextChar (c : Char) : Bool := c.isDigit || c == '.' || c == 'e' || c == '-' || c == '+'

theorem isTextChar_of_isDigit {c : Char} (h : c.isDigit = true) : isTextChar c = true := by
  simp [isTextChar, h]

theorem isDigit_of_mem_digitsOf {n : Nat} {c : Char} (h : c ∈ digitsOf n) : c.isDigit = true :=
  Nat.isDigit_of_mem_toDigits (by decide) (by decide) h

section Forms

variable {digits : List Char} (hd : ∀ c ∈ digits, c.isDigit = true)

include hd

theorem isTextChar_of_mem_plainForm {point : Int} {c : Char} (h : c ∈ plainForm digits point) :
    isTextChar c = true := by
  have hdigit : ∀ {c}, c ∈ digits → isTextChar c = true := fun h => isTextChar_of_isDigit (hd _ h)
  have hzeros : ∀ {n c}, c ∈ List.replicate n '0' → isTextChar c = true := by
    intro n c h
    rw [(List.mem_replicate.1 h).2]
    decide
  unfold plainForm at h
  split at h
  · simp only [List.mem_append, List.mem_cons, List.not_mem_nil, or_false] at h
    rcases h with ((rfl | rfl) | h) | h
    · decide
    · decide
    · exact hzeros h
    · exact hdigit h
  · split at h
    · simp only [List.mem_append, List.mem_cons, List.not_mem_nil, or_false] at h
      rcases h with (h | h) | rfl | rfl
      · exact hdigit h
      · exact hzeros h
      · decide
      · decide
    · simp only [List.mem_append, List.mem_cons] at h
      rcases h with h | rfl | h
      · exact hdigit (List.mem_of_mem_take h)
      · decide
      · exact hdigit (List.mem_of_mem_drop h)

theorem isTextChar_of_mem_exponentForm {signed : Bool} {power : Int} {c : Char}
    (h : c ∈ exponentForm signed digits power) : isTextChar c = true := by
  unfold exponentForm at h
  simp only [List.mem_append, List.mem_cons] at h
  rcases h with (h | rfl | h) | h
  · split at h
    · simp only [List.mem_cons] at h
      rcases h with rfl | rfl | rfl | h
      · exact isTextChar_of_isDigit (hd _ (by simp))
      · decide
      · exact isTextChar_of_isDigit (hd _ (by simp))
      · exact isTextChar_of_isDigit (hd _ (by simp [h]))
    · exact isTextChar_of_isDigit (hd _ h)
  · decide
  · split at h
    · rw [List.mem_singleton.1 h]
      decide
    · split at h
      · rw [List.mem_singleton.1 h]
        decide
      · cases h
  · exact isTextChar_of_isDigit (isDigit_of_mem_digitsOf h)

end Forms

theorem isTextChar_of_mem_magnitudeText {layout : Layout} {significand : Nat} {exponent : Int}
    {c : Char} (h : c ∈ magnitudeText layout significand exponent) : isTextChar c = true := by
  unfold magnitudeText at h
  split at h
  · simp only [List.mem_cons, List.not_mem_nil, or_false] at h
    rcases h with rfl | rfl | rfl <;> decide
  · dsimp only at h
    split at h
    · exact isTextChar_of_mem_plainForm (fun _ => isDigit_of_mem_digitsOf) h
    · exact isTextChar_of_mem_exponentForm (fun _ => isDigit_of_mem_digitsOf) h

/-- **The text of a finite float holds digits, a point, an exponent and signs only.** -/
theorem isTextChar_of_mem_finiteText {layout : Layout} {x : Float} {s : List Char} {c : Char}
    (hs : finiteText? layout x = some s) (h : c ∈ s) : isTextChar c = true := by
  unfold finiteText? at hs
  split at hs
  · simp only [Option.some.injEq] at hs
    subst hs
    split at h
    · rcases List.mem_cons.1 h with rfl | h
      · decide
      · exact isTextChar_of_mem_magnitudeText h
    · exact isTextChar_of_mem_magnitudeText h
  · cases hs

theorem finiteText?_eq_none {layout : Layout} {x : Float} (h : isFinite x = false) :
    finiteText? layout x = none := by
  unfold isFinite at h
  unfold finiteText?
  cases hx : classify x with
  | nan => rfl
  | infinite negative => rfl
  | finite negative significand exponent => simp [hx] at h

end Number
end MessageBus
