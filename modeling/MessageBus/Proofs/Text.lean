/-
# Cutting what was joined

Pieces that do not hold the separator come back from their join, and the first
separator after a text without one is where that text ends.

Key theorems: `Text.join_cons`, `Text.join_append_cons`, `Text.cutOnce_append`,
`Text.mem_cut_join`, `Text.cut_join`, `Text.toList_intercalate`.
-/
import MessageBus.Text

namespace MessageBus
namespace Text

/-- A join is its first piece, and then a separator before every other. -/
theorem join_cons (sep piece : List Char) : ∀ pieces : List (List Char),
    join sep (piece :: pieces) = piece ++ pieces.flatMap (sep ++ ·)
  | [] => by simp [join]
  | next :: pieces => by
    rw [join, join_cons sep next pieces]
    · simp
    · simp

/-- What stands before and after one piece of a join does not depend on the piece. -/
theorem join_append_cons (sep piece : List Char) (pieces : List (List Char)) :
    ∀ before : List (List Char), join sep (before ++ piece :: pieces) =
      before.flatMap (· ++ sep) ++ (piece ++ pieces.flatMap (sep ++ ·))
  | [] => join_cons sep piece pieces
  | first :: before => by
    have hne : before ++ piece :: pieces ≠ [] := by simp
    have ih := join_append_cons sep piece pieces before
    obtain ⟨next, rest, hsplit⟩ := List.exists_cons_of_ne_nil hne
    rw [List.cons_append, hsplit, join, ← hsplit, ih]
    · simp
    · simp

/-- Strings with a separator between them hold the join of their characters. -/
theorem toList_intercalate (sep : String) : ∀ pieces : List String,
    (sep.intercalate pieces).toList = join sep.toList (pieces.map String.toList)
  | [] => by simp [join]
  | [piece] => by simp [join]
  | piece :: next :: pieces => by
    have ih := toList_intercalate sep (next :: pieces)
    rw [String.intercalate_cons_cons, String.toList_append, String.toList_append, ih]
    rfl

theorem mem_of_mem_join {sep : List Char} {c : Char} : ∀ {pieces : List (List Char)},
    c ∈ join sep pieces → c ∈ sep ∨ ∃ piece ∈ pieces, c ∈ piece
  | [], h => by simp [join] at h
  | [piece], h => .inr ⟨piece, List.mem_cons_self, h⟩
  | piece :: next :: pieces, h => by
    simp only [join, List.mem_append] at h
    rcases h with (h | h) | h
    · exact .inr ⟨piece, List.mem_cons_self, h⟩
    · exact .inl h
    · obtain hsep | ⟨other, hother, hc⟩ := mem_of_mem_join h
      · exact .inl hsep
      · exact .inr ⟨other, List.mem_cons_of_mem _ hother, hc⟩

/-- The first separator after a text that holds none. -/
theorem cutOnce_append {sep : Char} {rest : List Char} : ∀ {s : List Char}, sep ∉ s →
    cutOnce sep (s ++ sep :: rest) = some (s, rest)
  | [], _ => by simp [cutOnce]
  | c :: s, h => by
    have hc : c ≠ sep := fun he => h (he ▸ List.mem_cons_self)
    have hs : sep ∉ s := fun hs => h (List.mem_cons_of_mem _ hs)
    simp [cutOnce, hc, cutOnce_append hs]

theorem cutOnce_eq_none {sep : Char} : ∀ {s : List Char}, sep ∉ s → cutOnce sep s = none
  | [], _ => rfl
  | c :: s, h => by
    have hc : c ≠ sep := fun he => h (he ▸ List.mem_cons_self)
    have hs : sep ∉ s := fun hs => h (List.mem_cons_of_mem _ hs)
    simp [cutOnce, hc, cutOnce_eq_none hs]

/-- The two sides of the first separator, with it between them, are the text. -/
theorem cutOnce_eq_some {sep : Char} : ∀ {s before after : List Char},
    cutOnce sep s = some (before, after) → s = before ++ sep :: after
  | c :: s, before, after, h => by
    unfold cutOnce at h
    by_cases hc : c = sep
    · rw [if_pos hc] at h
      cases h
      rw [hc, List.nil_append]
    · rw [if_neg hc] at h
      obtain ⟨⟨front, back⟩, hrest, heq⟩ := Option.map_eq_some_iff.1 h
      cases heq
      rw [cutOnce_eq_some hrest, List.cons_append]

theorem not_mem_of_cutOnce {sep : Char} : ∀ {s before after : List Char},
    cutOnce sep s = some (before, after) → sep ∉ before
  | c :: s, before, after, h => by
    unfold cutOnce at h
    by_cases hc : c = sep
    · rw [if_pos hc] at h
      cases h
      exact List.not_mem_nil
    · rw [if_neg hc] at h
      obtain ⟨⟨front, back⟩, hrest, heq⟩ := Option.map_eq_some_iff.1 h
      cases heq
      have hfront : sep ∉ front := not_mem_of_cutOnce hrest
      simp [hfront, Ne.symm hc]

theorem cut_of_not_mem {sep : Char} : ∀ {s : List Char}, sep ∉ s → cut sep s = [s]
  | [], _ => rfl
  | c :: s, h => by
    have hc : c ≠ sep := fun he => h (he ▸ List.mem_cons_self)
    rw [cut, if_neg hc, cut_of_not_mem fun hs => h (List.mem_cons_of_mem _ hs)]

/-- A separator cuts a text in two, whatever else cuts it. -/
theorem cut_append_cons (sep : Char) (rest : List Char) : ∀ s : List Char,
    cut sep (s ++ sep :: rest) = cut sep s ++ cut sep rest
  | [] => by simp [cut]
  | c :: s => by
    have ih := cut_append_cons sep rest s
    by_cases hc : c = sep
    · simp [cut, hc, ih]
    · obtain ⟨piece, pieces, hcut⟩ := List.exists_cons_of_ne_nil (cut_ne_nil sep s)
      simp [cut, hc, ih, hcut]

theorem cut_append {sep : Char} {s rest : List Char} (h : sep ∉ s) :
    cut sep (s ++ sep :: rest) = s :: cut sep rest := by
  rw [cut_append_cons, cut_of_not_mem h, List.singleton_append]

/-- The pieces of a join are those of what was joined. -/
theorem mem_cut_join {sep : Char} {parts : List (List Char)} {piece : List Char} (hne : parts ≠ [])
    (h : piece ∈ cut sep (join [sep] parts)) : ∃ part ∈ parts, piece ∈ cut sep part := by
  induction parts with
  | nil => exact absurd rfl hne
  | cons part parts ih =>
    cases parts with
    | nil => exact ⟨part, List.mem_cons_self, h⟩
    | cons next parts =>
      have hjoin : join [sep] (part :: next :: parts) = part ++ sep :: join [sep] (next :: parts) := by
        simp [join]
      rw [hjoin, cut_append_cons] at h
      rcases List.mem_append.1 h with h | h
      · exact ⟨part, List.mem_cons_self, h⟩
      · obtain ⟨other, hother, hpiece⟩ := ih (List.cons_ne_nil next parts) h
        exact ⟨other, List.mem_cons_of_mem _ hother, hpiece⟩

/-- A piece has the characters of the text. -/
theorem mem_of_mem_cut {sep : Char} {s piece : List Char} {c : Char} (h : piece ∈ cut sep s)
    (hc : c ∈ piece) : c ∈ s := by
  induction s generalizing piece with
  | nil =>
    obtain rfl := List.mem_singleton.1 h
    exact hc
  | cons first s ih =>
    unfold cut at h
    split at h
    · rcases List.mem_cons.1 h with rfl | h
      · cases hc
      · exact List.mem_cons_of_mem _ (ih h hc)
    · obtain ⟨start, pieces, hcut⟩ := List.exists_cons_of_ne_nil (cut_ne_nil sep s)
      rw [hcut] at h ih
      rcases List.mem_cons.1 h with rfl | h
      · rcases List.mem_cons.1 hc with rfl | hc
        · exact List.mem_cons_self
        · exact List.mem_cons_of_mem _ (ih List.mem_cons_self hc)
      · exact List.mem_cons_of_mem _ (ih (List.mem_cons_of_mem _ h) hc)

/-- **Pieces without the separator come back from their join.** -/
theorem cut_join {sep : Char} : ∀ {pieces : List (List Char)}, pieces ≠ [] →
    (∀ piece ∈ pieces, sep ∉ piece) → cut sep (join [sep] pieces) = pieces
  | [], h, _ => absurd rfl h
  | [piece], _, h => cut_of_not_mem (h piece List.mem_cons_self)
  | piece :: next :: pieces, _, h => by
    have ih := cut_join (List.cons_ne_nil next pieces) fun p hp => h p (List.mem_cons_of_mem _ hp)
    rw [join, List.append_assoc, List.singleton_append,
      cut_append (h piece List.mem_cons_self), ih]
    simp

end Text
end MessageBus
