/-
# Whole numbers and floats are read back

A number ends where the next character can neither continue its digits nor
open a fraction or an exponent. Up to there what follows makes no difference
to how it is read (`readValue_append`), and the digits of a whole number of 64
bits read as that number.

Key definitions: `EndsNumber`, `ReadsBack`.
Key theorems: `readValue_append`, `readValue_writeInt`.
-/
import Mathlib.Data.List.TakeWhile
import MessageBus.Json.Codec
import MessageBus.Proofs.Number

namespace MessageBus
namespace Json

/-- A text that no number can go on with. -/
def EndsNumber (rest : List Char) : Prop :=
  ∀ c ∈ rest.head?, c.isDigit = false ∧ c ≠ '.' ∧ c ≠ 'e' ∧ c ≠ 'E'

/-- A float that is read from the text that is written for it. -/
def ReadsBack (x : Float) : Prop := float.read (writeFloat x) = .ok (x, [])

/-! ### What follows a number -/

theorem readExponent_unsigned {c first : Char} (hc : c = 'e' ∨ c = 'E') (hplus : first ≠ '+')
    (hminus : first ≠ '-') (s : List Char) :
    readExponent (c :: first :: s) =
      (readDigits (first :: s)).map fun r => (some (false, r.1), r.2) := by
  simp only [readExponent, hc, if_true]
  split
  · next h => exact absurd (List.cons.inj h).1 hplus
  · next h => exact absurd (List.cons.inj h).1 hminus
  · rfl

/-- The parts of a numeral after its sign. -/
def readParts (negative : Bool) (s : List Char) : Except Problem (Numeral × List Char) := do
  let (whole, s) ← readWhole s
  let (fraction, s) ← readFraction s
  let (exponent, s) ← readExponent s
  return (⟨negative, whole, fraction, exponent⟩, s)

theorem readParts_eq_ok {negative : Bool} {s after : List Char} {n : Numeral} :
    readParts negative s = .ok (n, after) ↔ ∃ whole s₁ fraction s₂ exponent,
      readWhole s = .ok (whole, s₁) ∧ readFraction s₁ = .ok (fraction, s₂) ∧
        readExponent s₂ = .ok (exponent, after) ∧ n = ⟨negative, whole, fraction, exponent⟩ := by
  unfold readParts
  constructor
  · intro h
    cases h₁ : readWhole s with
    | error e => rw [h₁] at h; cases h
    | ok r₁ =>
      rw [h₁] at h
      cases h₂ : readFraction r₁.2 with
      | error e => simp only [bind, Except.bind, h₂] at h; cases h
      | ok r₂ =>
        cases h₃ : readExponent r₂.2 with
        | error e => simp only [bind, Except.bind, h₂, h₃] at h; cases h
        | ok r₃ =>
          simp only [bind, Except.bind, h₂, h₃] at h
          cases h
          exact ⟨_, _, _, _, _, rfl, h₂, h₃, rfl⟩
  · rintro ⟨whole, s₁, fraction, s₂, exponent, h₁, h₂, h₃, rfl⟩
    simp only [bind, Except.bind, h₁, h₂, h₃]
    rfl

theorem readNumeral_unsigned {c : Char} (hc : c ≠ '-') (s : List Char) :
    readNumeral (c :: s) = readParts false (c :: s) := by
  simp only [readNumeral, readParts]
  split
  · next h => exact absurd (List.cons.inj h).1 hc
  · rfl

section Follows

variable {rest : List Char} (hr : EndsNumber rest)

include hr

theorem takeDigits_append (s : List Char) :
    takeDigits (s ++ rest) = ((takeDigits s).1, (takeDigits s).2 ++ rest) := by
  have hstop : rest.takeWhile Char.isDigit = [] ∧ rest.dropWhile Char.isDigit = rest := by
    cases rest with
    | nil => simp
    | cons c t => simp [(hr c rfl).1]
  induction s with
  | nil => simp [takeDigits, hstop]
  | cons c s ih =>
    by_cases hc : c.isDigit
    · simp only [takeDigits, Prod.mk.injEq] at ih
      simp [takeDigits, hc, ih]
    · simp [takeDigits, hc]

theorem readDigits_append {s after : List Char} {digits : List Nat}
    (h : readDigits s = .ok (digits, after)) :
    readDigits (s ++ rest) = .ok (digits, after ++ rest) := by
  cases s with
  | nil => simp [readDigits] at h
  | cons c s =>
    simp only [readDigits] at h
    split at h
    · next hc =>
      have h := Except.ok.inj h
      simp only [readDigits, List.cons_append, hc, if_true]
      rw [← List.cons_append, takeDigits_append hr, h]
    · cases h

theorem readWhole_append {s after : List Char} {digits : List Nat}
    (h : readWhole s = .ok (digits, after)) :
    readWhole (s ++ rest) = .ok (digits, after ++ rest) := by
  cases s with
  | nil => simp [readWhole] at h
  | cons c s =>
    simp only [readWhole] at h
    by_cases h0 : c = '0'
    · rw [if_pos h0] at h
      cases s with
      | nil =>
        cases h
        cases rest with
        | nil => simp [readWhole, h0]
        | cons d t => simp [readWhole, h0, (hr d rfl).1]
      | cons d t =>
        simp only at h
        by_cases hd : d.isDigit
        · rw [if_pos hd] at h
          cases h
        · rw [if_neg hd] at h
          cases h
          simp [readWhole, h0, hd]
    · rw [if_neg h0] at h
      split at h
      · next hc =>
        have h := Except.ok.inj h
        simp only [readWhole, List.cons_append, if_neg h0, hc, if_true]
        rw [← List.cons_append, takeDigits_append hr, h]
      · cases h

theorem readFraction_append {s after : List Char} {digits : List Nat}
    (h : readFraction s = .ok (digits, after)) :
    readFraction (s ++ rest) = .ok (digits, after ++ rest) := by
  cases s with
  | nil =>
    cases h
    cases rest with
    | nil => rfl
    | cons d t => simp [readFraction, (hr d rfl).2.1]
  | cons c s =>
    by_cases hc : c = '.'
    · subst hc
      exact readDigits_append hr h
    · have hplain : ∀ t, readFraction (c :: t) = .ok ([], c :: t) := by
        intro t
        simp [readFraction, hc]
      rw [hplain] at h
      cases h
      exact hplain _

/-- The digits of an exponent go on for as long as they did. -/
theorem readPower_append {negative : Bool} {s after : List Char}
    {exponent : Option (Bool × List Nat)}
    (h : (readDigits s).map (fun r => (some (negative, r.1), r.2)) = .ok (exponent, after)) :
    (readDigits (s ++ rest)).map (fun r => (some (negative, r.1), r.2)) =
      .ok (exponent, after ++ rest) := by
  cases hd : readDigits s with
  | error e =>
    rw [hd] at h
    cases h
  | ok r =>
    rw [hd] at h
    cases h
    rw [readDigits_append hr hd]
    rfl

theorem readExponent_append {s after : List Char} {exponent : Option (Bool × List Nat)}
    (h : readExponent s = .ok (exponent, after)) :
    readExponent (s ++ rest) = .ok (exponent, after ++ rest) := by
  cases s with
  | nil =>
    cases h
    cases rest with
    | nil => rfl
    | cons d t => simp [readExponent, (hr d rfl).2.2]
  | cons c s =>
    by_cases hc : c = 'e' ∨ c = 'E'
    · cases s with
      | nil => simp [readExponent, hc, readDigits, Except.map] at h
      | cons sign t =>
        by_cases hplus : sign = '+'
        · subst hplus
          simp only [readExponent, hc, if_true, List.cons_append] at h ⊢
          exact readPower_append hr h
        · by_cases hminus : sign = '-'
          · subst hminus
            simp only [readExponent, hc, if_true, List.cons_append] at h ⊢
            exact readPower_append hr h
          · rw [readExponent_unsigned hc hplus hminus] at h
            rw [List.cons_append, List.cons_append, readExponent_unsigned hc hplus hminus]
            exact readPower_append hr h
    · simp only [readExponent, if_neg hc] at h
      cases h
      simp [readExponent, hc]

theorem readParts_append {negative : Bool} {s after : List Char} {n : Numeral}
    (h : readParts negative s = .ok (n, after)) :
    readParts negative (s ++ rest) = .ok (n, after ++ rest) := by
  obtain ⟨whole, s₁, fraction, s₂, exponent, h₁, h₂, h₃, rfl⟩ := readParts_eq_ok.1 h
  exact readParts_eq_ok.2 ⟨whole, _, fraction, _, exponent, readWhole_append hr h₁,
    readFraction_append hr h₂, readExponent_append hr h₃, rfl⟩

theorem readNumeral_append {s after : List Char} {n : Numeral}
    (h : readNumeral s = .ok (n, after)) :
    readNumeral (s ++ rest) = .ok (n, after ++ rest) := by
  cases s with
  | nil => cases h
  | cons c s =>
    by_cases hc : c = '-'
    · subst hc
      exact (readParts_append hr h : readParts true (s ++ rest) = _)
    · rw [readNumeral_unsigned hc] at h
      rw [List.cons_append, readNumeral_unsigned hc]
      exact readParts_append hr h

/-- **What follows a number makes no difference to it.** -/
theorem readValue_append {s after : List Char} {value : Value}
    (h : readValue s = .ok (value, after)) :
    readValue (s ++ rest) = .ok (value, after ++ rest) := by
  unfold readValue at h ⊢
  cases hn : readNumeral s with
  | error e =>
    rw [hn] at h
    cases h
  | ok r =>
    obtain ⟨n, more⟩ := r
    rw [readNumeral_append hr hn]
    rw [hn] at h
    simp only [bind, Except.bind] at h ⊢
    split at h
    · next v hv =>
      cases h
      rfl
    · cases h

end Follows

/-! ### Digits -/

theorem digitsOf_of_ten_le {n : Nat} (h : 10 ≤ n) :
    Number.digitsOf n = Number.digitsOf (n / 10) ++ [Nat.digitChar (n % 10)] :=
  Nat.toDigits_of_base_le (by decide) h

/-- A positive number is not written with a leading zero. -/
theorem head_digitsOf : ∀ {n : Nat}, 0 < n → (Number.digitsOf n).head? ≠ some '0'
  | n, hn => by
    by_cases h : n < 10
    · rw [Number.digitsOf, Nat.toDigits_of_lt_base h]
      simp
      omega
    · have hlt : n / 10 < n := Nat.div_lt_self hn (by decide)
      have ih := head_digitsOf (n := n / 10) (by omega)
      rw [digitsOf_of_ten_le (by omega), List.head?_append]
      cases hd : (Number.digitsOf (n / 10)).head? with
      | none =>
        have hne : Number.digitsOf (n / 10) ≠ [] := Nat.toDigits_ne_nil
        exact absurd (List.head?_eq_none_iff.1 hd) hne
      | some c =>
        rw [hd] at ih
        simpa using ih

/-- Digits are gathered whole as long as their number fits. -/
theorem gatherWhole_of_fits : ∀ (digits : List Nat) (s : Nat),
    digits.foldl (fun n d => n * 10 + d) s ≤ maxSignificand →
      gatherWhole s digits = (digits.foldl (fun n d => n * 10 + d) s, 0)
  | [], _, _ => rfl
  | d :: rest, s, h => by
    have hgrow : ∀ (ds : List Nat) (a : Nat), a ≤ ds.foldl (fun n d => n * 10 + d) a := by
      intro ds
      induction ds with
      | nil => exact fun a => Nat.le_refl a
      | cons e es ih => exact fun a => Nat.le_trans (by omega) (ih (a * 10 + e))
    have hfit : ¬ maxSignificand < s * 10 + d :=
      Nat.not_lt.2 (Nat.le_trans (hgrow rest (s * 10 + d)) h)
    rw [gatherWhole, if_neg hfit, gatherWhole_of_fits rest _ h]
    rfl

theorem foldl_digitsOf (n : Nat) :
    ((Number.digitsOf n).map digitValue).foldl (fun n d => n * 10 + d) 0 = n := by
  have h := Nat.ofDigitChars_ten_toDigits (n := n)
  rw [Nat.ofDigitChars_eq_foldl] at h
  rw [List.foldl_map, Number.digitsOf]
  simpa only [digitValue, Nat.mul_comm] using h

theorem takeDigits_digitsOf (n : Nat) :
    takeDigits (Number.digitsOf n) = ((Number.digitsOf n).map digitValue, []) := by
  have hall : ∀ c ∈ Number.digitsOf n, c.isDigit = true := fun c => Number.isDigit_of_mem_digitsOf
  rw [takeDigits, List.takeWhile_eq_self_iff.2 hall, List.dropWhile_eq_nil_iff.2 hall]

theorem readWhole_digitsOf (n : Nat) :
    readWhole (Number.digitsOf n) = .ok ((Number.digitsOf n).map digitValue, []) := by
  by_cases hn : n = 0
  · subst hn
    rw [Number.digitsOf, Nat.toDigits_zero]
    decide
  · cases hd : Number.digitsOf n with
    | nil => exact absurd hd Nat.toDigits_ne_nil
    | cons c t =>
      have h0 : c ≠ '0' := by
        have := head_digitsOf (Nat.pos_of_ne_zero hn)
        rw [hd] at this
        simpa using this
      have hc : c.isDigit := Number.isDigit_of_mem_digitsOf (by rw [hd]; exact List.mem_cons_self)
      simp only [readWhole, if_neg h0, hc, if_true]
      rw [← hd, takeDigits_digitsOf]

/-- The digits of a number are a numeral without fraction and exponent. -/
theorem readParts_digitsOf (negative : Bool) (n : Nat) :
    readParts negative (Number.digitsOf n) =
      .ok (⟨negative, (Number.digitsOf n).map digitValue, [], none⟩, []) :=
  readParts_eq_ok.2 ⟨_, [], [], [], none, readWhole_digitsOf n, rfl, rfl, rfl⟩

theorem value?_digitsOf {n : Nat} (h : n ≤ maxSignificand) (negative : Bool) :
    (⟨negative, (Number.digitsOf n).map digitValue, [], none⟩ : Numeral).value? =
      if ¬ negative then some (.integer n)
      else if n = 0 ∨ 0x8000000000000000 < n then some (.float (-(Float.ofNat n)))
      else some (.integer (-n)) := by
  have hfold := foldl_digitsOf n
  have hgather : gatherWhole 0 ((Number.digitsOf n).map digitValue) = (n, 0) := by
    rw [gatherWhole_of_fits _ 0 (by rw [hfold]; exact h), hfold]
  simp [Numeral.value?, hgather]

/-- **A whole number that fits 64 bits, with or without sign, is read back.** -/
theorem readValue_writeInt {n : Int} (hleast : -0x8000000000000000 ≤ n) (hmost : n < UInt64.size) :
    readValue (writeInt n) = .ok (.integer n, []) := by
  have hfit : n.natAbs ≤ maxSignificand := by
    unfold maxSignificand
    unfold UInt64.size at hmost ⊢
    omega
  by_cases hn : n < 0
  · have hnum : readNumeral (writeInt n) = .ok
        (⟨true, (Number.digitsOf n.natAbs).map digitValue, [], none⟩, []) := by
      rw [writeInt, if_pos hn]
      exact readParts_digitsOf true n.natAbs
    have hrange : ¬ (n.natAbs = 0 ∨ 0x8000000000000000 < n.natAbs) := by omega
    have habs : -(n.natAbs : Int) = n := by omega
    simp only [readValue, hnum, bind, Except.bind, value?_digitsOf hfit, if_neg hrange, habs]
    rfl
  · have hnum : readNumeral (writeInt n) = .ok
        (⟨false, (Number.digitsOf n.natAbs).map digitValue, [], none⟩, []) := by
      rw [writeInt, if_neg hn]
      cases hd : Number.digitsOf n.natAbs with
      | nil => exact absurd hd Nat.toDigits_ne_nil
      | cons c t =>
        have hc : c.isDigit := Number.isDigit_of_mem_digitsOf (by rw [hd]; exact List.mem_cons_self)
        have hminus : c ≠ '-' := by
          rintro rfl
          exact absurd hc (by decide)
        rw [readNumeral_unsigned hminus, ← hd, readParts_digitsOf]
    have habs : (n.natAbs : Int) = n := by omega
    simp only [readValue, hnum, bind, Except.bind, value?_digitsOf hfit, habs]
    rfl

end Json
end MessageBus
