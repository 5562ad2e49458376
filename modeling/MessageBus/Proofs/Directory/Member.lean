/-
# Types of objects within one type

The objects of a registry share one type. A type of objects is lawfully among
them if its objects are stored there as they are by themselves, and can be told
apart from all others. Two types of objects, and so any number of them, are
lawfully among the objects of their sum.

Key definition: `LawfulMember`.
Key theorem: `LawfulMember.reference_embed`.
-/
import MessageBus.Proofs.Directory.Reference

namespace MessageBus

/-- The objects of `α` are stored among those of `ω` as they are by themselves, and are told
apart from all others there. -/
class LawfulMember (α ω : Type) [Storable α] [Storable ω] [Member α ω] : Prop where
  project?_eq_some_iff {o : ω} {a : α} : Member.project? o = some a ↔ Member.embed a = o
  kind_embed (a : α) : Storable.kind (Member.embed a : ω) = Storable.kind a
  properties_embed (a : α) : Storable.properties (Member.embed a : ω) = Storable.properties a

namespace LawfulMember

variable {α ω : Type} [Storable α] [Storable ω] [Member α ω] [LawfulMember α ω]

theorem project?_embed (a : α) : Member.project? (Member.embed a : ω) = some a :=
  project?_eq_some_iff.2 rfl

theorem project?_eq_none_iff {o : ω} :
    (Member.project? o : Option α) = none ↔ ∀ a : α, Member.embed a ≠ o := by
  rw [Option.eq_none_iff_forall_ne_some]
  exact forall_congr' fun a => not_congr project?_eq_some_iff

/-- An object has the same reference among the others. -/
theorem reference_embed (a : α) :
    Storable.reference (Member.embed a : ω) = Storable.reference a := by
  simp only [Storable.reference, kind_embed, properties_embed]

end LawfulMember

instance {α : Type} [Storable α] : LawfulMember α α where
  project?_eq_some_iff := by simp [Member.project?, Member.embed, eq_comm]
  kind_embed _ := rfl
  properties_embed _ := rfl

/-! ### Sums -/

section Sum

variable {α β γ : Type}

instance : Member α (α ⊕ β) := ⟨Sum.inl, Sum.getLeft?⟩

instance [Member γ β] : Member γ (α ⊕ β) :=
  ⟨fun c => .inr (Member.embed c), fun o => o.getRight?.bind Member.project?⟩

variable [Storable α] [Storable β]

/-- An object of one of two types is stored as it is by itself. -/
instance : Storable (α ⊕ β) where
  kind := Sum.elim Storable.kind Storable.kind
  properties := Sum.elim Storable.properties Storable.properties

instance : LawfulMember α (α ⊕ β) where
  project?_eq_some_iff := by
    intro o a
    cases o with
    | inl a' => simp [Member.project?, Member.embed, eq_comm]
    | inr b => simp [Member.project?, Member.embed]
  kind_embed _ := rfl
  properties_embed _ := rfl

instance [Storable γ] [Member γ β] [LawfulMember γ β] : LawfulMember γ (α ⊕ β) where
  project?_eq_some_iff := by
    intro o c
    cases o with
    | inl a => simp [Member.project?, Member.embed]
    | inr b =>
      rw [show (Member.project? (Sum.inr b : α ⊕ β) : Option γ) = Member.project? b from rfl,
        LawfulMember.project?_eq_some_iff]
      simp [Member.embed]
  kind_embed c := LawfulMember.kind_embed (ω := β) c
  properties_embed c := LawfulMember.properties_embed (ω := β) c

end Sum

end MessageBus
