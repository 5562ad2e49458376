/-
# Which address a property comes from

Three rules meet when a property of a reference is looked up. An address is got
as the first one of its type, the properties hold the content of the last one of
each type, and of the types that spell a name in different letter case the
greatest counts, in the order of their bytes. So a property comes from the last
address of the greatest spelling of its name, wherever the addresses of the
other spellings stand.

Key definition: `Reference.Decides`.
Key theorems: `Reference.get?_properties`, `Reference.find?_properties_iff`,
`Reference.property_source`.
-/
import MessageBus.Proofs.Directory.Reference
import MessageBus.Proofs.Text.ByteOrder

namespace MessageBus
namespace Reference

/-- Among addresses, in the order in which they were added, the one that the property
`name` comes from. -/
structure Decides (addresses : List Address) (name : String) (a : Address) : Prop where
  /-- Its type is the name up to case. -/
  spelled : Text.sameIgnoringCase a.type name = true
  /-- No address spells the name in a way that is greater, byte by byte. -/
  greatest : ∀ b ∈ addresses, Text.sameIgnoringCase b.type name = true →
    Text.bytes b.type ≤ Text.bytes a.type
  last : ∃ before after, addresses = before ++ a :: after ∧ ∀ b ∈ after, b.type ≠ a.type

theorem foldl_add : ∀ (addresses : List Address) (r : Reference),
    (addresses.foldl add r).addresses = r.addresses ++ addresses
  | [], r => (List.append_nil _).symm
  | a :: rest, r => by
    rw [List.foldl_cons, foldl_add rest, add, List.append_assoc]
    rfl

/-! ### The last address of a type -/

theorem lookup_contents (type : String) : ∀ addresses : List Address,
    Dictionary.lookup type (addresses.map fun a => (a.type, a.content.getD "")) =
      (addresses.find? (·.type = type)).map (·.content.getD "")
  | [] => rfl
  | a :: rest => by
    by_cases h : a.type = type
    · simp [Dictionary.lookup, h]
    · simp [Dictionary.lookup, h, lookup_contents type rest]

/-- The properties hold the contents of the last addresses. -/
theorem get?_properties (r : Reference) (type : String) :
    r.properties.get? type =
      (r.addresses.reverse.find? (·.type = type)).map (·.content.getD "") := by
  rw [properties, Dictionary.get?_ofList, ← List.map_reverse, lookup_contents]

theorem find?_reverse_eq_some_iff {addresses : List Address} {type : String} {a : Address} :
    addresses.reverse.find? (·.type = type) = some a ↔
      a.type = type ∧ ∃ before after, addresses = before ++ a :: after ∧
        ∀ b ∈ after, b.type ≠ a.type := by
  rw [List.find?_eq_some_iff_append, decide_eq_true_iff]
  refine and_congr_right fun htype => ?_
  subst htype
  constructor
  · rintro ⟨after, before, heq, hafter⟩
    refine ⟨before.reverse, after.reverse, ?_, fun b hb => ?_⟩
    · rw [← List.reverse_reverse addresses, heq]
      simp
    · simpa using hafter b (List.mem_reverse.1 hb)
  · rintro ⟨before, after, rfl, hafter⟩
    refine ⟨after.reverse, before.reverse, by simp, fun b hb => ?_⟩
    simpa using hafter b (List.mem_reverse.1 hb)

/-- The properties have the types of the addresses for names. -/
theorem exists_mem_entries_iff {r : Reference} {type : String} :
    (∃ e ∈ r.properties.entries, e.1 = type) ↔ ∃ a ∈ r.addresses, a.type = type := by
  have hentries : (∃ e ∈ r.properties.entries, e.1 = type) ↔ (r.properties.get? type).isSome := by
    rw [Option.isSome_iff_exists]
    constructor
    · rintro ⟨⟨name, value⟩, he, rfl⟩
      exact ⟨value, Dictionary.mem_entries_iff.1 he⟩
    · rintro ⟨value, hvalue⟩
      exact ⟨(type, value), Dictionary.mem_entries_iff.2 hvalue, rfl⟩
  rw [hentries, get?_properties, Option.isSome_map, List.find?_isSome]
  simp

/-- What is so of the types of all addresses is so of all names. -/
theorem forall_entries_iff {r : Reference} {P : String → Prop} :
    (∀ e ∈ r.properties.entries, P e.1) ↔ ∀ a ∈ r.addresses, P a.type := by
  constructor
  · intro h a ha
    obtain ⟨e, he, htype⟩ := exists_mem_entries_iff.2 ⟨a, ha, rfl⟩
    exact htype ▸ h e he
  · intro h e he
    obtain ⟨a, ha, htype⟩ := exists_mem_entries_iff.1 ⟨e, he, rfl⟩
    exact htype ▸ h a ha

/-! ### Looking up -/

theorem find?_properties_eq_none_iff {r : Reference} {name : String} :
    r.properties.find? name = none ↔
      ∀ a ∈ r.addresses, ¬ Text.sameIgnoringCase a.type name = true :=
  Properties.find?_eq_none_iff.trans
    (forall_entries_iff (P := fun type => ¬ Text.sameIgnoringCase type name = true))

/-- **A property is the content of the address that decides it.** -/
theorem find?_properties_iff {r : Reference} {name value : String} :
    r.properties.find? name = some value ↔
      ∃ a, Decides r.addresses name a ∧ a.content.getD "" = value := by
  rw [Properties.find?_eq_some_iff]
  have hgreatest (key : String) :
      (∀ e ∈ r.properties.entries, Text.sameIgnoringCase e.1 name = true → e.1 ≤ key) ↔
        ∀ b ∈ r.addresses, Text.sameIgnoringCase b.type name = true →
          Text.bytes b.type ≤ Text.bytes key := by
    simp only [Text.bytes_le_iff]
    exact forall_entries_iff (P := fun type => Text.sameIgnoringCase type name = true → type ≤ key)
  constructor
  · rintro ⟨key, hget, hsame, hall⟩
    rw [get?_properties, Option.map_eq_some_iff] at hget
    obtain ⟨a, hfind, hvalue⟩ := hget
    obtain ⟨rfl, hlast⟩ := find?_reverse_eq_some_iff.1 hfind
    exact ⟨a, ⟨hsame, (hgreatest _).1 hall, hlast⟩, hvalue⟩
  · rintro ⟨a, h, hvalue⟩
    refine ⟨a.type, ?_, h.spelled, (hgreatest _).2 h.greatest⟩
    rw [get?_properties, find?_reverse_eq_some_iff.2 ⟨rfl, h.last⟩, Option.map_some, hvalue]

/-- The first address of a type. -/
theorem get?_eq_some_iff {r : Reference} {type : String} {a : Address} :
    r.get? type = some a ↔ a.type = type ∧
      ∃ before after, r.addresses = before ++ a :: after ∧ ∀ b ∈ before, b.type ≠ type := by
  rw [get?, List.find?_eq_some_iff_append]
  simp

/-- Of types that are not repeated the first address is the last. -/
theorem find?_reverse_of_nodup {addresses : List Address} (h : (addresses.map (·.type)).Nodup)
    (type : String) :
    addresses.reverse.find? (·.type = type) = addresses.find? (·.type = type) := by
  refine Option.ext fun a => ?_
  have hall : addresses.Pairwise fun a b => a.type ≠ b.type := List.pairwise_map.1 h
  rw [find?_reverse_eq_some_iff, List.find?_eq_some_iff_append, decide_eq_true_iff]
  refine and_congr_right fun htype => ?_
  subst htype
  constructor
  · rintro ⟨before, after, rfl, -⟩
    refine ⟨before, after, rfl, fun b hb => ?_⟩
    simpa using (List.pairwise_append.1 hall).2.2 b hb a List.mem_cons_self
  · rintro ⟨before, after, rfl, -⟩
    refine ⟨before, after, rfl, fun b hb => ?_⟩
    exact ((List.pairwise_cons.1 (List.pairwise_append.1 hall).2.1).1 b hb).symm

/-- **A property comes from the last address of the greatest spelling of its name, whatever
was added in between; it is required of that address alone; and an address is got as the first
of its type, which makes no difference as long as no type is repeated.** -/
theorem property_source (kind : String) (addresses : List Address) :
    let r := addresses.foldl add (ofKind kind)
    (∀ name, r.properties.find? name = none ↔
      ∀ a ∈ addresses, ¬ Text.sameIgnoringCase a.type name = true) ∧
    (∀ name value, r.properties.find? name = some value ↔
      ∃ a, Decides addresses name a ∧ a.content.getD "" = value) ∧
    (∀ owner name e, r.properties.require owner name = .error e ↔
      e = .requiredProperty owner name ∧
        (r.properties.find? name = none ∨ r.properties.find? name = some "")) ∧
    (∀ owner name value, r.properties.require owner name = .ok value ↔
      r.properties.find? name = some value ∧ value ≠ "") ∧
    (∀ type a, r.get? type = some a ↔ a.type = type ∧
      ∃ before after, addresses = before ++ a :: after ∧ ∀ b ∈ before, b.type ≠ type) ∧
    ((addresses.map (·.type)).Nodup →
      ∀ type, r.properties.get? type = (r.get? type).map (·.content.getD "")) := by
  intro r
  have hr : r.addresses = addresses := foldl_add addresses (ofKind kind)
  refine ⟨fun name => ?_, fun name value => ?_, fun owner name e => ?_, fun owner name value => ?_,
    fun type a => ?_, fun hnodup type => ?_⟩
  · rw [find?_properties_eq_none_iff, hr]
  · rw [find?_properties_iff, hr]
  · exact Properties.require_eq_error_iff
  · exact Properties.require_eq_ok_iff
  · rw [get?_eq_some_iff, hr]
  · rw [get?_properties, get?, hr, find?_reverse_of_nodup hnodup]

/-- The smaller spelling has the content that is not empty, and does not count. -/
theorem property_source_capitals :
    let r := [⟨"name", none⟩, ⟨"NAME", some "orders"⟩].foldl add (ofKind "sample")
    r.properties.get? "NAME" = (r.get? "NAME").map (·.content.getD "") ∧
      r.properties.require "sample" "Name" = .error (.requiredProperty "sample" "Name") := by
  intro r
  obtain ⟨-, -, hrequired, -, -, hget⟩ :=
    property_source "sample" [⟨"name", none⟩, ⟨"NAME", some "orders"⟩]
  exact ⟨hget (by decide) "NAME", (hrequired "sample" "Name" _).2 ⟨rfl, .inr (by decide)⟩⟩

end Reference
end MessageBus
