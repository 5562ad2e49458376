/-
# Hexadecimal digits

A number is read back from the hexadecimal digits it is written with, so they
determine it.

Key theorems: `Text.exists_of_mem_toDigits`, `Text.hexNumber_lt`,
`Text.hexNumber_toDigits`, `Text.eq_of_toDigits`.
-/
import Mathlib.Algebra.Group.Nat.Defs
import Mathlib.Data.List.TakeWhile
import MessageBus.Text.CodeRange

namespace MessageBus
namespace Text

theorem hexDigit?_digitChar : ∀ d < 16, hexDigit? d.digitChar = some d := by decide

theorem hexDigit?_lt {c : Char} {d : Nat} (h : hexDigit? c = some d) : d < 16 := by
  unfold hexDigit? at h
  simp only [Char.le_def, UInt32.le_iff_toNat_le] at h
  split at h
  · next hc =>
    have hlast : c.toNat ≤ 57 := hc.2
    obtain rfl := Option.some.inj h
    show c.toNat - 48 < 16
    omega
  · split at h
    · next hc =>
      have hlast : c.toNat ≤ 102 := hc.2
      obtain rfl := Option.some.inj h
      show c.toNat - 97 + 10 < 16
      omega
    · split at h
      · next hc =>
        have hlast : c.toNat ≤ 70 := hc.2
        obtain rfl := Option.some.inj h
        show c.toNat - 65 + 10 < 16
        omega
      · cases h

/-- A digit is that of a number below the base. -/
theorem exists_of_mem_toDigits {base : Nat} (hbase : 1 < base) {c : Char} (n : Nat)
    (h : c ∈ Nat.toDigits base n) : ∃ d < base, c = d.digitChar := by
  by_cases hn : n < base
  · rw [Nat.toDigits_of_lt_base hn] at h
    exact ⟨n, hn, List.mem_singleton.1 h⟩
  · rw [Nat.toDigits_of_base_le hbase (by omega)] at h
    have hsmaller : n / base < n := Nat.div_lt_self (by omega) hbase
    rcases List.mem_append.1 h with h | h
    · exact exists_of_mem_toDigits hbase (n / base) h
    · exact ⟨n % base, Nat.mod_lt n (by omega), List.mem_singleton.1 h⟩
termination_by n
decreasing_by exact hsmaller

theorem isSome_of_mem_toDigits {c : Char} {n : Nat} (h : c ∈ Nat.toDigits 16 n) :
    (hexDigit? c).isSome = true := by
  obtain ⟨d, hd, rfl⟩ := exists_of_mem_toDigits (by decide) n h
  rw [hexDigit?_digitChar d hd, Option.isSome_some]

theorem hexNumber_of_digits {s : List Char} (h : ∀ c ∈ s, (hexDigit? c).isSome = true) :
    hexNumber s = s.foldl (fun n c => n * 16 + (hexDigit? c).getD 0) 0 := by
  have hall : s.takeWhile (fun c => (hexDigit? c).isSome) = s := List.takeWhile_eq_self_iff.2 h
  rw [hexNumber, hall]

theorem foldl_hexDigit_lt : ∀ (s : List Char) (n : Nat),
    s.foldl (fun n c => n * 16 + (hexDigit? c).getD 0) n < (n + 1) * 16 ^ s.length
  | [], n => by simp
  | c :: s, n => by
    have hdigit : (hexDigit? c).getD 0 < 16 := by
      cases hc : hexDigit? c with
      | none => decide
      | some d => exact hexDigit?_lt hc
    calc s.foldl (fun n c => n * 16 + (hexDigit? c).getD 0) (n * 16 + (hexDigit? c).getD 0)
      _ < (n * 16 + (hexDigit? c).getD 0 + 1) * 16 ^ s.length := foldl_hexDigit_lt s _
      _ ≤ (n + 1) * 16 * 16 ^ s.length := Nat.mul_le_mul_right _ (by omega)
      _ = (n + 1) * 16 ^ (c :: s).length := by
        rw [List.length_cons, Nat.pow_succ, Nat.mul_assoc, Nat.mul_comm 16]

theorem hexNumber_lt (s : List Char) : hexNumber s < 16 ^ s.length := by
  have hfold := foldl_hexDigit_lt (s.takeWhile fun c => (hexDigit? c).isSome) 0
  have hlength : (s.takeWhile fun c => (hexDigit? c).isSome).length ≤ s.length :=
    (List.takeWhile_prefix _).length_le
  calc hexNumber s
    _ < (0 + 1) * 16 ^ (s.takeWhile fun c => (hexDigit? c).isSome).length := hfold
    _ ≤ 16 ^ s.length := by
      rw [Nat.zero_add, Nat.one_mul]
      exact Nat.pow_le_pow_right (by decide) hlength

/-- **A number is read back from its digits.** -/
theorem hexNumber_toDigits (n : Nat) : hexNumber (Nat.toDigits 16 n) = n := by
  rw [hexNumber_of_digits fun _ => isSome_of_mem_toDigits]
  by_cases hn : n < 16
  · rw [Nat.toDigits_of_lt_base hn, List.foldl_cons, hexDigit?_digitChar n hn]
    show 0 * 16 + n = n
    omega
  · have ih := hexNumber_toDigits (n / 16)
    rw [hexNumber_of_digits fun _ => isSome_of_mem_toDigits] at ih
    rw [Nat.toDigits_of_base_le (by decide) (by omega), List.foldl_append, ih, List.foldl_cons,
      hexDigit?_digitChar (n % 16) (Nat.mod_lt n (by decide))]
    show n / 16 * 16 + n % 16 = n
    omega
termination_by n
decreasing_by omega

theorem eq_of_toDigits {m n : Nat} (h : Nat.toDigits 16 m = Nat.toDigits 16 n) : m = n := by
  rw [← hexNumber_toDigits m, h, hexNumber_toDigits]

end Text
end MessageBus
