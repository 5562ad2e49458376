/-
# The laws of dictionaries

What a dictionary answers to `get?` is all there is to it: its entries are the
pairs that it answers with, dictionaries that answer alike are equal, and a
dictionary that is made anew from its own entries is the same one.

Key theorems: `Dictionary.mem_entries_iff`, `Dictionary.eq_of_get?`,
`Dictionary.get?_ofList`, `Dictionary.ofList_entries`.
-/
import Mathlib.Data.List.Perm.Basic
import MessageBus.Dictionary

namespace MessageBus
namespace Dictionary

variable {α β : Type}

/-! ### Entry lists -/

theorem lookup_append (name : String) : ∀ (xs ys : List (String × α)),
    lookup name (xs ++ ys) = (lookup name xs).or (lookup name ys)
  | [], _ => by simp [lookup]
  | (key, value) :: xs, ys => by
    by_cases h : key = name
    · simp [lookup, h]
    · simp [lookup, h, lookup_append name xs ys]

theorem lookup_of_mem {name : String} {value : α} : ∀ {entries : List (String × α)},
    entries.Pairwise (fun a b => a.1 < b.1) → (name, value) ∈ entries →
      lookup name entries = some value
  | [], _, h => by simp at h
  | (key, old) :: rest, hord, h => by
    obtain ⟨hhead, hrest⟩ := List.pairwise_cons.1 hord
    rcases List.mem_cons.1 h with h | h
    · cases h
      simp [lookup]
    · have hne : key ≠ name := by
        rintro rfl
        exact String.lt_irrefl _ (hhead (key, value) h)
      simp [lookup, hne, lookup_of_mem hrest h]

/-- The last entry is the one with the greatest name. -/
theorem getLast?_eq_some_iff {entries : List (String × α)}
    (h : entries.Pairwise fun a b => a.1 < b.1) {e : String × α} :
    entries.getLast? = some e ↔ e ∈ entries ∧ ∀ x ∈ entries, x.1 ≤ e.1 := by
  rcases List.eq_nil_or_concat entries with rfl | ⟨before, last, rfl⟩
  · simp
  · rw [List.concat_eq_append] at h ⊢
    have hbefore : ∀ x ∈ before, x.1 < last.1 := fun x hx =>
      (List.pairwise_append.1 h).2.2 x hx last List.mem_cons_self
    rw [List.getLast?_concat, Option.some.injEq]
    constructor
    · rintro rfl
      refine ⟨List.mem_concat_self, fun x hx => ?_⟩
      rcases List.mem_append.1 hx with hx | hx
      · exact Std.le_of_lt (hbefore x hx)
      · exact Std.le_of_eq (congrArg Prod.fst (List.mem_singleton.1 hx))
    · rintro ⟨he, hgreatest⟩
      rcases List.mem_append.1 he with he | he
      · exact absurd (hbefore e he) (String.not_lt.2 (hgreatest last List.mem_concat_self))
      · exact (List.mem_singleton.1 he).symm

/-- A name greater than all others is placed at the end. -/
theorem place_of_all_lt (name : String) (value : α) : ∀ {entries : List (String × α)},
    (∀ e ∈ entries, e.1 < name) → place name value entries = entries ++ [(name, value)]
  | [], _ => rfl
  | (key, old) :: rest, h => by
    have hlt : key < name := h _ List.mem_cons_self
    have hnot : ¬ name < key := fun h' => String.lt_irrefl _ (String.lt_trans hlt h')
    have hne : name ≠ key := by
      rintro rfl
      exact String.lt_irrefl _ hlt
    rw [place, if_neg hnot, if_neg hne,
      place_of_all_lt name value fun e he => h e (List.mem_cons_of_mem _ he), List.cons_append]

/-- Entry lists in order with the same entries are the same list. -/
theorem eq_of_mem_iff {xs ys : List (String × α)} (hxs : xs.Pairwise fun a b => a.1 < b.1)
    (hys : ys.Pairwise fun a b => a.1 < b.1) (h : ∀ e, e ∈ xs ↔ e ∈ ys) : xs = ys := by
  have nodup {entries : List (String × α)} (hord : entries.Pairwise fun a b => a.1 < b.1) :
      entries.Nodup := by
    refine hord.imp fun {a b} hlt heq => ?_
    subst heq
    exact String.lt_irrefl _ hlt
  have hperm : xs.Perm ys := (List.perm_ext_iff_of_nodup (nodup hxs) (nodup hys)).2 h
  refine hperm.eq_of_pairwise (fun a b _ _ hab hba => ?_) hxs hys
  exact absurd (String.lt_trans hab hba) (String.lt_irrefl _)

/-! ### Dictionaries -/

theorem eq_of_entries {d e : Dictionary α} (h : d.entries = e.entries) : d = e := by
  cases d
  cases e
  simpa using h

/-- The entries are the pairs that `get?` answers with. -/
theorem mem_entries_iff {d : Dictionary α} {name : String} {value : α} :
    (name, value) ∈ d.entries ↔ d.get? name = some value :=
  ⟨lookup_of_mem d.ordered, mem_of_lookup⟩

/-- **Dictionaries that answer alike are equal.** -/
theorem eq_of_get? {d e : Dictionary α} (h : ∀ name, d.get? name = e.get? name) : d = e := by
  refine eq_of_entries (eq_of_mem_iff d.ordered e.ordered fun ⟨name, value⟩ => ?_)
  rw [mem_entries_iff, mem_entries_iff, h name]

@[simp] theorem extendList_nil (d : Dictionary α) : d.extendList [] = d := rfl

@[simp] theorem extendList_cons (d : Dictionary α) (e : String × α) (rest : List (String × α)) :
    d.extendList (e :: rest) = (d.insert e.1 e.2).extendList rest := rfl

theorem get?_extendList (name : String) : ∀ (entries : List (String × α)) (d : Dictionary α),
    (d.extendList entries).get? name = (lookup name entries.reverse).or (d.get? name)
  | [], d => by simp [lookup]
  | (key, value) :: rest, d => by
    rw [extendList_cons, get?_extendList name rest, List.reverse_cons, lookup_append, get?_insert,
      Option.or_assoc]
    by_cases h : key = name <;> simp [lookup, h]

/-- In a dictionary made of a list the last entry of a name counts. -/
theorem get?_ofList (name : String) (entries : List (String × α)) :
    (ofList entries).get? name = lookup name entries.reverse := by
  rw [ofList, get?_extendList, get?_empty, Option.or_none]

theorem mem_of_mem_ofList {entries : List (String × α)} {e : String × α}
    (h : e ∈ (ofList entries).entries) : e ∈ entries := by
  have hget := mem_entries_iff.1 h
  rw [get?_ofList] at hget
  exact List.mem_reverse.1 (mem_of_lookup hget)

/-- Entries that continue the order of a dictionary go to its end. -/
theorem entries_extendList : ∀ (rest : List (String × α)) (d : Dictionary α),
    (d.entries ++ rest).Pairwise (fun a b => a.1 < b.1) →
      (d.extendList rest).entries = d.entries ++ rest
  | [], d, _ => by simp
  | e :: rest, d, h => by
    have hlt : ∀ x ∈ d.entries, x.1 < e.1 := fun x hx =>
      (List.pairwise_append.1 h).2.2 x hx e List.mem_cons_self
    have hins : (d.insert e.1 e.2).entries = d.entries ++ [e] :=
      place_of_all_lt e.1 e.2 hlt
    have hord : ((d.insert e.1 e.2).entries ++ rest).Pairwise fun a b => a.1 < b.1 := by
      rw [hins, List.append_assoc]
      exact h
    rw [extendList_cons, entries_extendList rest _ hord, hins, List.append_assoc]
    rfl

/-- **A dictionary is what its own entries make.** -/
theorem ofList_entries (d : Dictionary α) : ofList d.entries = d :=
  eq_of_entries (entries_extendList d.entries empty d.ordered)

/-- A dictionary over another answers first. -/
theorem get?_extend (d other : Dictionary α) (name : String) :
    (d.extend other).get? name = (other.get? name).or (d.get? name) := by
  have hother : lookup name other.entries.reverse = other.get? name := by
    rw [← get?_ofList, ofList_entries]
  rw [extend, get?_extendList, hother]

end Dictionary
end MessageBus
