/-
# What a reference keeps of an object

A reference has the kind of its object and one address for each property, in the
order of the names, and the properties that are read from it are the object's,
an absent value as the empty text. So nothing else is lost, and if no two names
are equal up to case every property is found again in any letter case.

A destination is its name, and comes back from its reference unless the name is
empty. What the registry of destinations makes of any reference comes back when
it is stored again.

Key definitions: `Storable.Kept`, `StoredByName`, `Registry.GivesBack`.
Key theorems: `Storable.kept`, `StoredByName.decode_stored`,
`Registry.kept_and_given_back`.
-/
import MessageBus.Proofs.Directory.Registry
import MessageBus.Proofs.Text.ByteOrder

namespace MessageBus
namespace Storable

variable {α : Type} [Storable α]

/-- What a reference keeps of an object. -/
structure Kept (a : α) : Prop where
  kind : (reference a).kind = Storable.kind a
  /-- There is one address for each property, in the order of the names. -/
  types : (reference a).addresses.map (·.type) = (properties a).names
  ascending : ((reference a).addresses.map (·.type)).Pairwise
    fun type later => Text.bytes type < Text.bytes later
  /-- Every address has a content, that of its property. -/
  contents : ∀ address ∈ (reference a).addresses, ∃ value,
    (properties a).get? address.type = some value ∧ address.content = some (value.getD "")
  /-- The properties are read as they are, an absent value as the empty text. -/
  readBack : ∀ name,
    (reference a).properties.get? name = ((properties a).get? name).map (·.getD "")
  /-- They are found in any letter case if no two names are equal up to case. -/
  found : (∀ name ∈ (properties a).names, ∀ other ∈ (properties a).names,
      Text.sameIgnoringCase name other = true → name = other) →
    ∀ key value, (properties a).get? key = some value →
      ∀ name, Text.sameIgnoringCase name key = true →
        (reference a).properties.find? name = some (value.getD "")

theorem names_properties_reference (a : α) :
    (reference a).properties.names = (properties a).names := by
  simp [properties_reference, Dictionary.names, Dictionary.mapValues, Function.comp_def]

/-- **A reference keeps everything of its object but whether a value is absent or empty.** -/
theorem kept (a : α) : Kept a where
  kind := rfl
  types := by
    simp [reference, Dictionary.names, Function.comp_def]
  ascending := by
    simp only [Text.bytes_lt_iff, reference, List.map_map, List.pairwise_map, Function.comp_def]
    exact (properties a).ordered
  contents := by
    intro address haddress
    obtain ⟨⟨name, value⟩, hmem, rfl⟩ := List.mem_map.1 haddress
    exact ⟨value, Dictionary.mem_entries_iff.1 hmem, rfl⟩
  readBack name := by
    rw [properties_reference, Dictionary.get?_mapValues]
  found := by
    intro hdistinct key value hvalue name hname
    have hkey : key ∈ (properties a).names :=
      List.mem_map_of_mem (f := Prod.fst) (Dictionary.mem_entries_iff.2 hvalue)
    -- of the names only the key itself is equal to the given name up to case
    have honly : ∀ e ∈ (reference a).properties.entries,
        Text.sameIgnoringCase e.1 name = true ↔ e.1 = key := by
      intro e he
      have hmem : e.1 ∈ (properties a).names :=
        names_properties_reference a ▸ List.mem_map_of_mem (f := Prod.fst) he
      rw [Text.sameIgnoringCase_iff] at hname ⊢
      constructor
      · intro hsame
        exact hdistinct e.1 hmem key hkey (Text.sameIgnoringCase_iff.2 (hsame.trans hname))
      · rintro rfl
        exact hname.symm
    rw [Properties.find?_eq_get? honly, properties_reference, Dictionary.get?_mapValues, hvalue]
    rfl

end Storable

/-! ### Objects that are their names -/

/-- The objects of a type are their names, and are stored and restored as such. -/
structure StoredByName (α : Type) [Restorable α] (make : String → α) : Prop where
  kind : ∀ name, Storable.kind (make name) = Restorable.kindName α
  properties : ∀ name, Storable.properties (make name) = .ofList [(nameProperty, some name)]
  restore : ∀ p, Restorable.restore p =
    (Properties.require (Restorable.kindName α) p nameProperty).map make

theorem storedByName_queue : StoredByName Queue Queue.mk := ⟨fun _ => rfl, fun _ => rfl, fun _ => rfl⟩

theorem storedByName_topic : StoredByName Topic Topic.mk := ⟨fun _ => rfl, fun _ => rfl, fun _ => rfl⟩

namespace StoredByName

variable {α ω : Type} [Restorable α] [Member α ω] {make : String → α} {g : Registry ω}

theorem find?_reference (h : StoredByName α make) (name : String) :
    (Storable.reference (make name)).properties.find? nameProperty = some name := by
  refine (Storable.kept (make name)).found ?_ nameProperty (some name) ?_ nameProperty
    (Text.sameIgnoringCase_self nameProperty)
  · -- there is one name only
    rw [h.properties]
    intro first hfirst second hsecond _
    exact (List.mem_singleton.1 hfirst).trans (List.mem_singleton.1 hsecond).symm
  · rw [h.properties]
    rfl

/-- **An object comes back from its reference unless its name is empty.** -/
theorem decode_stored (h : StoredByName α make) (hg : g.Restores α) (name : String) :
    g.decode (Storable.reference (make name)) =
      if name = "" then .error (.requiredProperty (Restorable.kindName α) nameProperty)
      else .ok (Member.embed (make name)) := by
  have hfind := h.find?_reference name
  rw [hg.decode (h.kind name), h.restore]
  split
  · next hempty =>
    rw [hempty] at hfind ⊢
    rw [Properties.require_eq_error_iff.2 ⟨rfl, .inr hfind⟩]
    rfl
  · next hne =>
    rw [Properties.require_eq_ok hfind hne]
    rfl

/-- What is decoded has a name that is not empty. -/
theorem eq_of_decode (h : StoredByName α make) (hg : g.Restores α) {r : Reference}
    (hkind : r.kind = Restorable.kindName α) {o : ω} (hdecode : g.decode r = .ok o) :
    ∃ name, name ≠ "" ∧ o = Member.embed (make name) := by
  rw [hg.decode hkind, h.restore] at hdecode
  cases hrequire : Properties.require (Restorable.kindName α) r.properties nameProperty with
  | error e =>
    rw [hrequire] at hdecode
    cases hdecode
  | ok name =>
    rw [hrequire] at hdecode
    cases hdecode
    exact ⟨name, (Properties.require_eq_ok_iff.1 hrequire).2, rfl⟩

/-- What is decoded is decoded again from its own reference. -/
theorem decode_stored_of_decode [Storable ω] [LawfulMember α ω] (h : StoredByName α make)
    (hg : g.Restores α) {r : Reference} (hkind : r.kind = Restorable.kindName α) {o : ω}
    (hdecode : g.decode r = .ok o) : g.decode (Storable.reference o) = .ok o := by
  obtain ⟨name, hne, rfl⟩ := h.eq_of_decode hg hkind hdecode
  rw [LawfulMember.reference_embed, h.decode_stored hg, if_neg hne]

end StoredByName

/-- A registry gives back the objects of a type that are stored under a name, as objects of
the type and under its kind, and refuses an empty name. -/
structure Registry.GivesBack {ω : Type} [Storable ω] (g : Registry ω) (α : Type) [Restorable α]
    [Member α ω] (make : String → α) : Prop where
  decode : ∀ name, name ≠ "" →
    g.decode (Storable.reference (make name)) = .ok (Member.embed (make name))
  kind : ∀ name, Storable.kind (Member.embed (make name) : ω) = Storable.kind (make name)
  instanceOf : ∀ name, name ≠ "" →
    g.instanceOf α (Storable.reference (make name)) = .ok (make name)
  unnamed : g.decode (Storable.reference (make "")) =
    .error (.requiredProperty (Restorable.kindName α) nameProperty)

theorem StoredByName.givesBack {α ω : Type} [Restorable α] [Storable ω] [Member α ω]
    [LawfulMember α ω] {make : String → α} {g : Registry ω} (h : StoredByName α make)
    (hg : g.Restores α) : g.GivesBack α make where
  decode name hne := by
    rw [h.decode_stored hg, if_neg hne]
  kind name := LawfulMember.kind_embed (make name)
  instanceOf name hne := by
    refine (Registry.instanceOf_eq g _).2.1 (make name) ?_
    rw [h.decode_stored hg, if_neg hne]
  unnamed := by
    rw [h.decode_stored hg, if_pos rfl]

/-! ### The registry of destinations -/

namespace Registry

variable {ω : Type} [Member Queue ω] [Member Topic ω]

theorem restores_queue_destinations : (destinations : Registry ω).Restores Queue :=
  (restores_register Queue .empty).registerWith (by decide) _

theorem restores_topic_destinations : (destinations : Registry ω).Restores Topic :=
  restores_register Topic _

/-- The registry of destinations knows of nothing else. -/
theorem kind_of_decode_destinations {r : Reference} {o : ω}
    (h : (destinations : Registry ω).decode r = .ok o) :
    r.kind = Restorable.kindName Queue ∨ r.kind = Restorable.kindName Topic := by
  refine Decidable.by_contra fun hother => ?_
  rw [not_or] at hother
  have hunknown : (destinations : Registry ω).constructors.get? r.kind = none := by
    unfold destinations register registerWith
    rw [Dictionary.get?_insert, if_neg (Ne.symm hother.2), Dictionary.get?_insert,
      if_neg (Ne.symm hother.1)]
    rfl
  rw [decode_eq, hunknown] at h
  cases h

variable [Storable ω] [LawfulMember Queue ω] [LawfulMember Topic ω]

/-- What the registry of destinations decodes comes back when it is stored again. -/
theorem decode_stored_of_decode_destinations {r : Reference} {o : ω}
    (h : (destinations : Registry ω).decode r = .ok o) :
    (destinations : Registry ω).decode (Storable.reference o) = .ok o := by
  rcases kind_of_decode_destinations h with hkind | hkind
  · exact storedByName_queue.decode_stored_of_decode restores_queue_destinations hkind h
  · exact storedByName_topic.decode_stored_of_decode restores_topic_destinations hkind h

variable (ω) in
/-- **A reference keeps everything of its object but whether a value is absent or empty, so
that queues and topics with names come back from theirs, and whatever a reference of a queue or
a topic decodes to comes back when it is stored again.** -/
theorem kept_and_given_back :
    (∀ (α : Type) [Storable α] (a : α), Storable.Kept a) ∧
    (destinations : Registry ω).GivesBack Queue Queue.mk ∧
    (destinations : Registry ω).GivesBack Topic Topic.mk ∧
    ∀ (r : Reference) (o : ω), (destinations : Registry ω).decode r = .ok o →
      (destinations : Registry ω).decode (Storable.reference o) = .ok o := by
  refine ⟨fun α _ a => Storable.kept a, ?_, ?_, fun r o h => ?_⟩
  · exact storedByName_queue.givesBack restores_queue_destinations
  · exact storedByName_topic.givesBack restores_topic_destinations
  · exact decode_stored_of_decode_destinations h

/-- A topic that is written in other letter case, from another hand, is stored again. -/
theorem kept_and_given_back_capitals :
    let g : Registry (Queue ⊕ Topic) := destinations
    let r : Reference := ⟨Restorable.kindName Topic, "elsewhere", [⟨"PHYSICALNAME", some "events"⟩]⟩
    let topic : Topic := ⟨"events"⟩
    g.decode r = .ok (.inr topic) ∧
      g.decode (Storable.reference (.inr topic : Queue ⊕ Topic)) = .ok (.inr topic) ∧
        g.instanceOf Topic (Storable.reference topic) = .ok topic := by
  intro g r topic
  have hdecode : g.decode r = .ok (.inr topic) := rfl
  obtain ⟨-, -, htopic, hagain⟩ := kept_and_given_back (Queue ⊕ Topic)
  exact ⟨hdecode, hagain r (.inr topic) hdecode, htopic.instanceOf "events" (by decide)⟩

end Registry
end MessageBus
