/-
# Quoted texts

Two texts that look alike between quotes are the same text: a backslash begins
every form of a character but its plain one, the mark after it tells the short
forms from one another and from a number, and a number ends at its brace. So
the forms one after the other can only be taken apart in one way.

Key definitions: `Text.Quoted.shortForms`, `Text.Quoted.Form`.
Key theorems: `Text.Quoted.Form.append_inj`, `Text.quoted_inj`.
-/
import MessageBus.Proofs.Text
import MessageBus.Proofs.Text.Hexadecimal
import MessageBus.Text.Quoted

namespace MessageBus
namespace Text

namespace Quoted

/-- The characters that have a mark of their own after the backslash. -/
def shortForms : List (Char × Char) :=
  [('\x00', '0'), ('\t', 't'), ('\r', 'r'), ('\n', 'n'), ('\\', '\\'), ('"', '"')]

/-- The forms in which a character can stand in a quoted text. -/
inductive Form (c : Char) : List Char → Prop
  | short (mark : Char) (h : (c, mark) ∈ shortForms) : Form c ['\\', mark]
  | number : Form c (byNumber c)
  | plain (h : c ≠ '\\') : Form c [c]

theorem form_ofChar (c : Char) : Form c (ofChar c) := by
  unfold ofChar
  split
  · exact .short '0' (by decide)
  · exact .short 't' (by decide)
  · exact .short 'r' (by decide)
  · exact .short 'n' (by decide)
  · exact .short '\\' (by decide)
  · exact .short '"' (by decide)
  · next hslash _ =>
    split
    · exact .number
    · exact .plain hslash

theorem ofChar_ne_nil (c : Char) : ofChar c ≠ [] := by
  have h := form_ofChar c
  intro hnil
  rw [hnil] at h
  cases h

/-- A mark belongs to one character. -/
theorem shortForms_inj : ∀ p ∈ shortForms, ∀ q ∈ shortForms, p.2 = q.2 → p.1 = q.1 := by decide

/-- No mark begins a number. -/
theorem mark_ne : ∀ p ∈ shortForms, p.2 ≠ 'u' := by decide

theorem brace_not_mem_toDigits (n : Nat) : '\x7d' ∉ Nat.toDigits 16 n := by
  intro h
  have hdigit := isSome_of_mem_toDigits h
  revert hdigit
  decide

/-- A number ends at its brace. -/
theorem byNumber_append_inj {c d : Char} {s t : List Char}
    (h : byNumber c ++ s = byNumber d ++ t) : c = d ∧ s = t := by
  have hdigits : Nat.toDigits 16 c.toNat ++ '\x7d' :: s = Nat.toDigits 16 d.toNat ++ '\x7d' :: t := by
    simpa [byNumber] using h
  have hcut : cutOnce '\x7d' (Nat.toDigits 16 c.toNat ++ '\x7d' :: s) =
      some (Nat.toDigits 16 d.toNat, t) := by
    rw [hdigits, cutOnce_append (brace_not_mem_toDigits _)]
  rw [cutOnce_append (brace_not_mem_toDigits _)] at hcut
  obtain ⟨hnumber, hrest⟩ := Prod.mk.inj (Option.some.inj hcut)
  exact ⟨Char.toNat_inj.1 (eq_of_toDigits hnumber), hrest⟩

/-- **The first form of a text tells its character, and where the next form begins.** -/
theorem Form.append_inj {c d : Char} {x y s t : List Char} (hx : Form c x) (hy : Form d y)
    (h : x ++ s = y ++ t) : c = d ∧ s = t := by
  cases hx with
  | short mark hmark =>
    cases hy with
    | short mark' hmark' =>
      obtain ⟨-, hsame, hrest⟩ : '\\' = '\\' ∧ mark = mark' ∧ s = t := by simpa using h
      exact ⟨shortForms_inj _ hmark _ hmark' hsame, hrest⟩
    | number =>
      have hu : mark = 'u' := by
        simp only [byNumber, List.cons_append, List.cons.injEq] at h
        exact h.2.1
      exact absurd hu (mark_ne _ hmark)
    | plain hslash => exact absurd (List.cons.inj h).1.symm hslash
  | number =>
    cases hy with
    | short mark hmark =>
      have hu : 'u' = mark := by
        simp only [byNumber, List.cons_append, List.cons.injEq] at h
        exact h.2.1
      exact absurd hu.symm (mark_ne _ hmark)
    | number => exact byNumber_append_inj h
    | plain hslash => exact absurd (List.cons.inj h).1.symm hslash
  | plain hslash =>
    cases hy with
    | short mark hmark => exact absurd (List.cons.inj h).1 hslash
    | number => exact absurd (List.cons.inj h).1 hslash
    | plain _ => exact List.cons.inj h

theorem flatMap_ofChar_inj : ∀ {s t : List Char}, s.flatMap ofChar = t.flatMap ofChar → s = t
  | [], [], _ => rfl
  | [], d :: t, h => by
    have hnil : ofChar d = [] := (List.append_eq_nil_iff.1 h.symm).1
    exact absurd hnil (ofChar_ne_nil d)
  | c :: s, [], h => by
    have hnil : ofChar c = [] := (List.append_eq_nil_iff.1 h).1
    exact absurd hnil (ofChar_ne_nil c)
  | c :: s, d :: t, h => by
    rw [List.flatMap_cons, List.flatMap_cons] at h
    obtain ⟨hfirst, hrest⟩ := (form_ofChar c).append_inj (form_ofChar d) h
    rw [hfirst, flatMap_ofChar_inj hrest]

end Quoted

/-- **A quoted text shows which text it is.** -/
theorem quoted_inj {s t : String} (h : quoted s = quoted t) : s = t := by
  have hlists := String.ofList_injective h
  rw [List.cons_append, List.cons_append] at hlists
  have hforms := List.append_cancel_right (List.cons.inj hlists).2
  exact String.toList_inj.1 (Quoted.flatMap_ofChar_inj hforms)

end Text
end MessageBus
