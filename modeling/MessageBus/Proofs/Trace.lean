/-
# What of a trace context arrives

A trace context is written under lower-case keys and read under the exact key.
So an entry is found again under the lower-case form of its key, with the value
that was written last under any spelling of it. Under the key itself it is
found only if that is in lower case; under any other key the reader finds what
the message had there before, as nothing is ever written there.

Key definition: `Trace.lastValue?`.
Key theorems: `Trace.get?_inject`, `Trace.value?_inject`.
-/
import MessageBus.Proofs.Dictionary
import MessageBus.Proofs.Text.Lowercase
import MessageBus.Trace

namespace MessageBus
namespace Trace

/-- The property that an entry is written as. -/
def written (entry : String × String) : String × PropertyValue :=
  (Text.lowercase entry.1, .string entry.2)

/-- The value that entries give a key last, in whatever case they spell it. -/
def lastValue? (entries : List (String × String)) (key : String) : Option String :=
  (entries.reverse.find? fun entry => Text.lowercase entry.1 = Text.lowercase key).map Prod.snd

theorem foldl_setEntry : ∀ (entries : List (String × String))
    (properties : Dictionary PropertyValue),
    entries.foldl setEntry properties = properties.extendList (entries.map written)
  | [], _ => rfl
  | entry :: later, properties => foldl_setEntry later (setEntry properties entry)

theorem lookup_written (name : String) : ∀ entries : List (String × String),
    Dictionary.lookup name (entries.map written) =
      (entries.find? fun entry => Text.lowercase entry.1 = name).map (.string ·.2)
  | [] => rfl
  | entry :: later => by
    by_cases h : Text.lowercase entry.1 = name
    · simp [written, Dictionary.lookup, h]
    · have ih := lookup_written name later
      simp [written, Dictionary.lookup, h] at ih ⊢
      exact ih

/-- **A property is the last entry whose key it is the lower-case form of**, or as it was. -/
theorem get?_inject (entries : List (String × String)) (m : Message) (name : String) :
    (inject entries m).properties.get? name =
      ((entries.reverse.find? fun entry => Text.lowercase entry.1 = name).map (.string ·.2)).or
        (m.properties.get? name) := by
  have hproperties : (inject entries m).properties =
      m.properties.extendList (entries.map written) := foldl_setEntry entries m.properties
  rw [hproperties, Dictionary.get?_extendList, ← List.map_reverse, lookup_written]

/-- A key with an entry has a last value. -/
theorem exists_lastValue {entries : List (String × String)} {key : String}
    (h : key ∈ entries.map Prod.fst) : ∃ value, lastValue? entries key = some value := by
  obtain ⟨entry, hmem, rfl⟩ := List.mem_map.1 h
  have hsome : (entries.reverse.find? fun e =>
      Text.lowercase e.1 = Text.lowercase entry.1).isSome = true :=
    List.find?_isSome.2 ⟨entry, List.mem_reverse.2 hmem, decide_eq_true rfl⟩
  obtain ⟨last, hlast⟩ := Option.isSome_iff_exists.1 hsome
  exact ⟨last.2, by rw [lastValue?, hlast, Option.map_some]⟩

theorem value?_inject_lowercase (m : Message) {entries : List (String × String)}
    {key value : String} (h : lastValue? entries key = some value) :
    value? (inject entries m) (Text.lowercase key) = some value := by
  obtain ⟨last, hlast, rfl⟩ := Option.map_eq_some_iff.1 h
  rw [value?, get?_inject, hlast]
  rfl

/-- Nothing is written under a key that is not in lower case. -/
theorem value?_inject_of_ne (m : Message) (entries : List (String × String)) {key : String}
    (h : Text.lowercase key ≠ key) : value? (inject entries m) key = value? m key := by
  have hnone : (entries.reverse.find? fun entry => Text.lowercase entry.1 = key) = none := by
    rw [List.find?_eq_none]
    intro entry _ hkey
    have hform : Text.lowercase entry.1 = key := of_decide_eq_true hkey
    exact h (hform ▸ Text.lowercase_lowercase entry.1)
  rw [value?, get?_inject, hnone, Option.map_none, Option.none_or, value?]

/-- **An entry is found again under the lower-case form of its key, with the value that was
written last.** Under the key itself it is found if that is in lower case; else the reader
finds there what the message had before. -/
theorem value?_inject (m : Message) {entries : List (String × String)} {key : String}
    (h : key ∈ entries.map Prod.fst) : ∃ value, lastValue? entries key = some value ∧
      value? (inject entries m) (Text.lowercase key) = some value ∧
      value? (inject entries m) key =
        if Text.lowercase key = key then some value else value? m key := by
  obtain ⟨value, hlast⟩ := exists_lastValue h
  have hfound := value?_inject_lowercase m hlast
  refine ⟨value, hlast, hfound, ?_⟩
  by_cases hlower : Text.lowercase key = key
  · rw [if_pos hlower]
    rwa [hlower] at hfound
  · rw [if_neg hlower, value?_inject_of_ne m entries hlower]

/-- A message with a count under the lower-case key of a trace. -/
def counted : Message := { properties := Dictionary.empty.insert "traceparent" (.int 3) }

/-- Two spellings of the key, one after the other. -/
def respelled : List (String × String) :=
  [("traceparent", "00-abc-def-00"), ("TraceParent", "00-abc-def-01")]

/-- The second spelling is read under the first one only. -/
theorem value?_inject_respelled : "traceparent" ∈ respelled.map Prod.fst ∧
    value? (inject respelled counted) "traceparent" = some "00-abc-def-01" := by
  have hmem : "traceparent" ∈ respelled.map Prod.fst := by decide
  obtain ⟨value, hlast, -, hread⟩ := value?_inject counted hmem
  have hlower : Text.lowercase "traceparent" = "traceparent" := by decide +kernel
  have hvalue : lastValue? respelled "traceparent" = some "00-abc-def-01" := by decide +kernel
  rw [if_pos hlower] at hread
  exact ⟨hmem, by rw [hread, ← hlast, hvalue]⟩

/-- What is written under a key with capital letters is not read under that key. -/
theorem not_read_capitalized : let entries := [("TraceParent", "00-abc-def-01")]
    lastValue? entries "TraceParent" = some "00-abc-def-01" ∧
      value? (inject entries {}) "TraceParent" = none := by
  intro entries
  exact ⟨by decide +kernel, by decide +kernel⟩

end Trace
end MessageBus
