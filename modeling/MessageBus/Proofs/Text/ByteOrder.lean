/-
# Texts in the order of their bytes

Texts are ordered by their characters, and stored names by their bytes in
UTF-8. The two orders are one: of two characters the one with the smaller code
has the smaller bytes, already at the first byte in which they differ.

Key definition: `Text.bytes`.
Key theorems: `Text.encode_append_lt`, `Text.bytes_lt_iff`, `Text.bytes_le_iff`.
-/
import Mathlib.Tactic.SplitIfs
import MessageBus.Dictionary

namespace MessageBus
namespace Text

def bytes (s : String) : List UInt8 := s.toList.flatMap String.utf8EncodeChar

theorem ofNat_cons_lt_iff {x y : Nat} {xs ys : List UInt8} (hx : x < 256) (hy : y < 256) :
    UInt8.ofNat x :: xs < UInt8.ofNat y :: ys ↔ x < y ∨ x = y ∧ xs < ys := by
  rw [List.cons_lt_cons_iff, UInt8.lt_iff_toNat_lt, ← UInt8.toNat_inj, UInt8.toNat_ofNat',
    UInt8.toNat_ofNat', Nat.mod_eq_of_lt hx, Nat.mod_eq_of_lt hy]

/-- The bytes of a smaller character are smaller, whatever follows them. -/
theorem encode_append_lt {c d : Char} (h : c < d) (xs ys : List UInt8) :
    String.utf8EncodeChar c ++ xs < String.utf8EncodeChar d ++ ys := by
  have hcode : c.val.toNat < d.val.toNat := h
  have hmax : d.val.toNat < 0x110000 := by
    rcases d.valid with hlow | hhigh <;> omega
  -- the digits of a code to the base 64, one by one
  have hthree (code : Nat) : code / 4096 = code / 64 / 64 := by omega
  have hfour (code : Nat) : code / 262144 = code / 64 / 64 / 64 := by omega
  generalize hm : c.val.toNat = m at hcode
  generalize hn : d.val.toNat = n at hcode hmax
  unfold String.utf8EncodeChar
  simp only [hm, hn, hthree, hfour]
  split_ifs <;>
    simp (disch := omega) only [List.cons_append, List.nil_append, ofNat_cons_lt_iff] <;> omega

theorem flatMap_encode_lt : ∀ {cs ds : List Char}, cs < ds →
    cs.flatMap String.utf8EncodeChar < ds.flatMap String.utf8EncodeChar
  | _, [], h => absurd h (List.not_lt_nil _)
  | [], d :: ds, _ => by
    rw [List.flatMap_nil, List.flatMap_cons]
    obtain ⟨x, xs, hx⟩ := List.exists_cons_of_ne_nil (String.utf8EncodeChar_ne_nil (c := d))
    rw [hx, List.cons_append]
    exact List.nil_lt_cons _ _
  | c :: cs, d :: ds, h => by
    rw [List.flatMap_cons, List.flatMap_cons]
    rcases List.cons_lt_cons_iff.1 h with hlt | ⟨rfl, hlt⟩
    · exact encode_append_lt hlt _ _
    · exact List.append_left_lt (flatMap_encode_lt hlt)

/-- **Texts are in the order of their bytes.** -/
theorem bytes_lt_iff {a b : String} : bytes a < bytes b ↔ a < b := by
  refine ⟨fun h => ?_, fun h => flatMap_encode_lt h⟩
  refine Decidable.by_contra fun hnot => ?_
  by_cases heq : a = b
  · subst heq
    exact List.lt_irrefl _ h
  · have hgt : bytes b < bytes a := flatMap_encode_lt (Dictionary.lt_of_not_lt_of_ne hnot heq)
    exact List.lt_asymm h hgt

theorem bytes_le_iff {a b : String} : bytes a ≤ bytes b ↔ a ≤ b := by
  rw [← List.not_lt, bytes_lt_iff, String.not_lt]

end Text
end MessageBus
