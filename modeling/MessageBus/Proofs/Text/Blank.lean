/-
# Trimmed texts

A text is trimmed when neither its first nor its last character is blank.
Trimming gives a trimmed text, leaves a trimmed one alone, and drops characters
only. Trimmed texts one after the other are trimmed.

Key definition: `Text.Trimmed`.
Key theorems: `Text.trim_eq_self_iff`, `Text.trim_trim`, `Text.trim_append_cons`.
-/
import Mathlib.Data.List.DropRight
import MessageBus.Text

namespace MessageBus
namespace Text

/-- A text with no blank character at either end. -/
structure Trimmed (s : List Char) : Prop where
  head : ∀ c ∈ s.head?, isBlank c = false
  last : ∀ c ∈ s.getLast?, isBlank c = false

theorem trim_eq_rdropWhile (s : List Char) :
    trim s = (s.dropWhile isBlank).rdropWhile isBlank := rfl

theorem mem_of_mem_trim {s : List Char} {c : Char} (h : c ∈ trim s) : c ∈ s :=
  (List.dropWhile_suffix isBlank).subset ((List.rdropWhile_prefix isBlank _).subset h)

/-- Trimming gives a trimmed text. -/
theorem trimmed_trim (s : List Char) : Trimmed (trim s) := by
  rw [trim_eq_rdropWhile]
  refine ⟨fun c hc => ?_, fun c hc => ?_⟩
  · -- what is left after trimming the end begins as the text before it did
    obtain ⟨ending, hsplit⟩ := List.rdropWhile_prefix isBlank (s.dropWhile isBlank)
    have hhead : c ∈ (s.dropWhile isBlank).head? := by
      rw [← hsplit, List.head?_append, Option.mem_def.1 hc]
      rfl
    have hstart := List.head?_dropWhile_not isBlank s
    rw [Option.mem_def.1 hhead] at hstart
    exact hstart
  · obtain ⟨hne, hlast⟩ := List.mem_getLast?_eq_getLast hc
    rw [hlast]
    exact eq_false_of_ne_true (List.rdropWhile_last_not isBlank _ hne)

/-- **Trimming leaves alone exactly the trimmed texts.** -/
theorem trim_eq_self_iff {s : List Char} : trim s = s ↔ Trimmed s := by
  refine ⟨fun h => h ▸ trimmed_trim s, fun h => ?_⟩
  have hstart : s.dropWhile isBlank = s := by
    cases s with
    | nil => rfl
    | cons c rest => exact List.dropWhile_cons_of_neg (by simp [h.head c rfl])
  rw [trim_eq_rdropWhile, hstart, List.rdropWhile_eq_self_iff]
  intro hne
  rw [h.last _ (List.getLast?_eq_some_getLast hne)]
  exact Bool.false_ne_true

theorem trim_trim (s : List Char) : trim (trim s) = trim s :=
  trim_eq_self_iff.2 (trimmed_trim s)

theorem trimmed_of_forall {s : List Char} (h : ∀ c ∈ s, isBlank c = false) : Trimmed s where
  head c hc := h c (List.mem_of_mem_head? hc)
  last c hc := h c (List.mem_of_mem_getLast? hc)

/-- Nothing is dropped beyond an element that stays. -/
theorem dropWhile_append_cons {p : Char → Bool} {c : Char} (hc : p c = false) (t : List Char) :
    ∀ s : List Char, (s ++ c :: t).dropWhile p = s.dropWhile p ++ c :: t
  | [] => by simp [hc]
  | first :: s => by
    cases hfirst : p first with
    | false => simp [hfirst]
    | true => simpa [hfirst] using dropWhile_append_cons hc t s

/-- On either side of a character with ink, only the far end is trimmed. -/
theorem trim_append_cons {c : Char} (hc : isBlank c = false) (s t : List Char) :
    trim (s ++ c :: t) = trimStartWhere isBlank s ++ c :: trimEndWhere isBlank t := by
  have hend (kept : List Char) :
      trimEndWhere isBlank (kept ++ c :: t) = kept ++ c :: trimEndWhere isBlank t := by
    have hreverse : (kept ++ c :: t).reverse = t.reverse ++ c :: kept.reverse := by simp
    unfold trimEndWhere
    rw [hreverse, dropWhile_append_cons hc]
    simp
  unfold trim trimWhere trimStartWhere
  rw [dropWhile_append_cons hc, hend]

/-- Text that was trimmed at its start is trimmed as a whole the same. -/
theorem trim_trimStartWhere (s : List Char) : trim (trimStartWhere isBlank s) = trim s := by
  unfold trim trimWhere trimStartWhere
  rw [List.dropWhile_idempotent]

theorem Trimmed.append {s t : List Char} (hs : Trimmed s) (ht : Trimmed t) : Trimmed (s ++ t) where
  head c hc := by
    rw [List.head?_append, Option.mem_def, Option.or_eq_some_iff] at hc
    exact hc.elim (hs.head c) fun hc => ht.head c hc.2
  last c hc := by
    rw [List.getLast?_append, Option.mem_def, Option.or_eq_some_iff] at hc
    exact hc.elim (ht.last c) fun hc => hs.last c hc.2

/-- Between two trimmed texts that are not empty there may be anything. -/
theorem Trimmed.around {s t : List Char} (hs : Trimmed s) (ht : Trimmed t) (hs' : s ≠ [])
    (ht' : t ≠ []) (between : List Char) : Trimmed (s ++ between ++ t) where
  head c hc := by
    rw [List.append_assoc, List.head?_append_of_ne_nil s hs'] at hc
    exact hs.head c hc
  last c hc := by
    rw [List.getLast?_append_of_ne_nil _ ht'] at hc
    exact ht.last c hc

end Text
end MessageBus
