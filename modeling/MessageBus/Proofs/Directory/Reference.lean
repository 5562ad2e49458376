/-
# Properties through a reference

A reference carries the properties of its object: decoding sees each of them
again, an absent value as the empty text. A property has the value of the
greatest name that is equal to its own up to case, which is its own name when
no other is.

Key theorems: `Storable.properties_reference`, `Properties.find?_eq_some_iff`,
`Properties.find?_eq_get?`, `Properties.require_eq_error_iff`.
-/
import MessageBus.Directory.Registry
import MessageBus.Proofs.Dictionary
import MessageBus.Proofs.Outcome

namespace MessageBus

/-- The objects of a type, among themselves. -/
instance {α : Type} : Member α α := ⟨id, some⟩

/-- The properties of a reference are those of the object. -/
theorem Storable.properties_reference {α : Type} [Storable α] (a : α) :
    (Storable.reference a).properties = (Storable.properties a).mapValues (·.getD "") := by
  have hentries : ((Storable.reference a).addresses.map fun x => (x.type, x.content.getD "")) =
      ((Storable.properties a).mapValues (·.getD "")).entries := by
    simp [Storable.reference, Dictionary.mapValues]
  rw [Reference.properties, hentries, Dictionary.ofList_entries]

namespace Properties

/-- **A property has the value of the greatest name that is equal to its own up to case.** -/
theorem find?_eq_some_iff {p : Properties} {name value : String} :
    p.find? name = some value ↔ ∃ key, p.get? key = some value ∧
      Text.sameIgnoringCase key name = true ∧
        ∀ e ∈ p.entries, Text.sameIgnoringCase e.1 name = true → e.1 ≤ key := by
  have hordered := p.ordered.filter fun e => Text.sameIgnoringCase e.1 name
  have hlast (e : String × String) := Dictionary.getLast?_eq_some_iff hordered (e := e)
  simp only [List.mem_filter] at hlast
  rw [find?, Option.map_eq_some_iff]
  constructor
  · rintro ⟨⟨key, found⟩, he, rfl⟩
    obtain ⟨⟨hmem, hsame⟩, hgreatest⟩ := (hlast _).1 he
    exact ⟨key, Dictionary.mem_entries_iff.1 hmem, hsame, fun e he hs => hgreatest e ⟨he, hs⟩⟩
  · rintro ⟨key, hget, hsame, hgreatest⟩
    refine ⟨(key, value), (hlast _).2 ⟨⟨Dictionary.mem_entries_iff.2 hget, hsame⟩, ?_⟩, rfl⟩
    exact fun e he => hgreatest e he.1 he.2

theorem find?_eq_none_iff {p : Properties} {name : String} :
    p.find? name = none ↔ ∀ e ∈ p.entries, ¬ Text.sameIgnoringCase e.1 name = true := by
  rw [find?, Option.map_eq_none_iff, List.getLast?_eq_none_iff, List.filter_eq_nil_iff]

/-- **Among names that differ up to case a property is the one of its name.** -/
theorem find?_eq_get? {p : Properties} {name key : String}
    (h : ∀ e ∈ p.entries, Text.sameIgnoringCase e.1 name = true ↔ e.1 = key) :
    p.find? name = p.get? key := by
  refine Option.ext fun value => ?_
  rw [find?_eq_some_iff]
  constructor
  · rintro ⟨found, hget, hsame, -⟩
    rwa [← (h _ (Dictionary.mem_entries_iff.2 hget)).1 hsame]
  · intro hget
    refine ⟨key, hget, (h _ (Dictionary.mem_entries_iff.2 hget)).2 rfl, fun e he hsame => ?_⟩
    exact Std.le_of_eq ((h e he).1 hsame)

/-- A property that is not empty satisfies a requirement. -/
theorem require_eq_ok {p : Properties} {kind name value : String} (h : p.find? name = some value)
    (hne : value ≠ "") : p.require kind name = .ok value := by
  simp only [require, h, if_neg hne]

/-- **A requirement fails exactly on a property that is absent or empty.** -/
theorem require_eq_error_iff {p : Properties} {kind name : String} {e : Error} :
    p.require kind name = .error e ↔
      e = .requiredProperty kind name ∧ (p.find? name = none ∨ p.find? name = some "") := by
  unfold require
  cases p.find? name with
  | none => simp [eq_comm]
  | some value => by_cases h : value = "" <;> simp [h, eq_comm]

/-- A requirement that is satisfied gives the value of the property. -/
theorem require_eq_ok_iff {p : Properties} {kind name value : String} :
    p.require kind name = .ok value ↔ p.find? name = some value ∧ value ≠ "" := by
  refine ⟨fun h => ?_, fun h => require_eq_ok h.1 h.2⟩
  unfold require at h
  split at h
  · next found hfound =>
    obtain ⟨hne, hvalue⟩ := Outcome.refuse_eq_ok.1 h
    cases hvalue
    exact ⟨hfound, hne⟩
  · cases h

end Properties
end MessageBus
