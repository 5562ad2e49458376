/-
# Dictionaries

A finite map from names to values, kept in ascending order of the names. The
order is part of the type, so a dictionary is determined by what it answers to
`get?`: two dictionaries that answer alike are equal.

Key definitions:

* `get?`, `insert`: the value of a name, and the dictionary with one more.
* `ofList`, `extend`: later entries win.
-/

namespace MessageBus

/-- Values under names, in ascending order of the names. -/
structure Dictionary (α : Type) where
  entries : List (String × α)
  ordered : entries.Pairwise fun a b => a.1 < b.1
  deriving DecidableEq

namespace Dictionary

variable {α β : Type}

/-! ### Entry lists -/

/-- The value of the first entry with a name. -/
def lookup (name : String) : List (String × α) → Option α
  | [] => none
  | (key, value) :: rest => if key = name then some value else lookup name rest

/-- Puts an entry at its place, over an entry of the same name. -/
def place (name : String) (value : α) : List (String × α) → List (String × α)
  | [] => [(name, value)]
  | (key, old) :: rest =>
    if name < key then (name, value) :: (key, old) :: rest
    else if name = key then (name, value) :: rest
    else (key, old) :: place name value rest

theorem mem_of_mem_place {name : String} {value : α} {entries : List (String × α)}
    {e : String × α} (h : e ∈ place name value entries) : e = (name, value) ∨ e ∈ entries := by
  induction entries with
  | nil => simpa [place] using h
  | cons head rest ih =>
    obtain ⟨key, old⟩ := head
    unfold place at h
    split at h
    · simpa using h
    · split at h
      · rcases List.mem_cons.1 h with h | h
        · exact .inl h
        · exact .inr (List.mem_cons_of_mem _ h)
      · rcases List.mem_cons.1 h with h | h
        · exact .inr (h ▸ List.mem_cons_self)
        · exact (ih h).imp id (List.mem_cons_of_mem _)

theorem lt_of_not_lt_of_ne {a b : String} (h : ¬ a < b) (hne : a ≠ b) : b < a := by
  rcases Decidable.em (b < a) with hlt | hlt
  · exact hlt
  · exact absurd (String.le_antisymm (String.not_lt.1 hlt) (String.not_lt.1 h)) hne

theorem ordered_place (name : String) (value : α) {entries : List (String × α)}
    (h : entries.Pairwise fun a b => a.1 < b.1) :
    (place name value entries).Pairwise fun a b => a.1 < b.1 := by
  induction entries with
  | nil => simp [place]
  | cons head rest ih =>
    obtain ⟨key, old⟩ := head
    obtain ⟨hhead, hrest⟩ := List.pairwise_cons.1 h
    unfold place
    split
    · next hlt =>
      refine List.pairwise_cons.2 ⟨fun e he => ?_, h⟩
      rcases List.mem_cons.1 he with rfl | he
      · exact hlt
      · exact String.lt_trans hlt (hhead e he)
    · next hlt =>
      split
      · next heq => subst heq; exact List.pairwise_cons.2 ⟨hhead, hrest⟩
      · next hne =>
        refine List.pairwise_cons.2 ⟨fun e he => ?_, ih hrest⟩
        rcases mem_of_mem_place he with rfl | he
        · exact lt_of_not_lt_of_ne hlt hne
        · exact hhead e he

theorem lookup_place (name other : String) (value : α) (entries : List (String × α)) :
    lookup other (place name value entries) =
      if name = other then some value else lookup other entries := by
  induction entries with
  | nil => simp [place, lookup]
  | cons head rest ih =>
    obtain ⟨key, old⟩ := head
    unfold place
    split
    · simp [lookup]
    · split
      · next heq => subst heq; by_cases h : name = other <;> simp [lookup, h]
      · next hne =>
        by_cases h : key = other
        · subst h; simp [lookup, hne]
        · simp [lookup, h, ih]

theorem mem_of_lookup {name : String} {value : α} {entries : List (String × α)}
    (h : lookup name entries = some value) : (name, value) ∈ entries := by
  induction entries with
  | nil => simp [lookup] at h
  | cons head rest ih =>
    obtain ⟨key, old⟩ := head
    by_cases hk : key = name
    · simp [lookup, hk] at h; simp [hk, h]
    · simp [lookup, hk] at h; exact List.mem_cons_of_mem _ (ih h)

/-! ### Dictionaries -/

def empty : Dictionary α := ⟨[], .nil⟩

instance : Inhabited (Dictionary α) := ⟨empty⟩

instance : EmptyCollection (Dictionary α) := ⟨empty⟩

def get? (d : Dictionary α) (name : String) : Option α := lookup name d.entries

/-- The dictionary in which `name` has the value `value`. -/
def insert (d : Dictionary α) (name : String) (value : α) : Dictionary α :=
  ⟨place name value d.entries, ordered_place name value d.ordered⟩

/-- The dictionary with the entries of a list over its own, later ones over
earlier ones. -/
def extendList (d : Dictionary α) (entries : List (String × α)) : Dictionary α :=
  entries.foldl (fun d (name, value) => d.insert name value) d

/-- The dictionary of a list of entries, later ones over earlier ones. -/
def ofList (entries : List (String × α)) : Dictionary α := empty.extendList entries

/-- The dictionary with the entries of another over its own. -/
def extend (d other : Dictionary α) : Dictionary α := d.extendList other.entries

/-- The names, in ascending order. -/
def names (d : Dictionary α) : List String := d.entries.map Prod.fst

/-- The dictionary whose values are `f` of these. -/
def mapValues (f : α → β) (d : Dictionary α) : Dictionary β :=
  ⟨d.entries.map fun e => (e.1, f e.2), by
    simpa [List.pairwise_map] using d.ordered⟩

@[simp] theorem get?_empty (name : String) : (empty : Dictionary α).get? name = none := rfl

/-- **An inserted name has its new value, every other name the one it had.** -/
theorem get?_insert (d : Dictionary α) (name other : String) (value : α) :
    (d.insert name value).get? other = if name = other then some value else d.get? other :=
  lookup_place name other value d.entries

@[simp] theorem get?_insert_self (d : Dictionary α) (name : String) (value : α) :
    (d.insert name value).get? name = some value := by
  simp [get?_insert]

theorem get?_mapValues (f : α → β) (d : Dictionary α) (name : String) :
    (d.mapValues f).get? name = (d.get? name).map f := by
  show lookup name (d.entries.map fun e => (e.1, f e.2)) = (lookup name d.entries).map f
  induction d.entries with
  | nil => rfl
  | cons head rest ih =>
    obtain ⟨key, value⟩ := head
    by_cases h : key = name <;> simp [lookup, h, ih]

end Dictionary
end MessageBus
