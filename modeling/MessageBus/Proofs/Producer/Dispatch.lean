/-
# What sending changes in a message

A message that is handed to the client library is the caller's message but for its id and its
properties. An id is given only to a message without one. Over the properties lie the entries
of the trace context, each under the lower-case form of its key: where several entries have
the same lower-case form the last one counts, and a property with any other name keeps its
value, whatever its type. So nothing is ever written over a name that is not in lower case.

Key definitions: `Trace.Overlays`, `Producer.Identified`, `Producer.SameContent`,
`Producer.Sends`.
Key theorems: `Trace.overlays_inject`, `Producer.dispatch_sends`.
-/
import MessageBus.Proofs.Producer
import MessageBus.Proofs.Trace

namespace MessageBus

/-! ### The properties -/

namespace Trace

/-- Properties with the entries of a trace context over those that were there. -/
structure Overlays (entries : List (String × String)) (old new : Dictionary PropertyValue) :
    Prop where
  /-- Of the entries with one lower-case form of their keys, the last one is the property of
  that name. -/
  written : ∀ earlier entry later, entries = earlier ++ entry :: later →
    (∀ other ∈ later, Text.lowercase other.1 ≠ Text.lowercase entry.1) →
    new.get? (Text.lowercase entry.1) = some (.string entry.2)
  /-- A property with another name is as it was, or absent as it was. -/
  kept : ∀ name, (∀ entry ∈ entries, Text.lowercase entry.1 ≠ name) → new.get? name = old.get? name
  /-- So is every spelling of a key that is not in lower case. -/
  respelled : ∀ name, Text.lowercase name ≠ name → new.get? name = old.get? name

section Overlays

variable {entries : List (String × String)}

/-- The last of the entries with a lower-case form, searched for from the end. -/
theorem find?_reverse_of_last {earlier later : List (String × String)} {entry : String × String}
    (hlast : ∀ other ∈ later, Text.lowercase other.1 ≠ Text.lowercase entry.1) :
    (earlier ++ entry :: later).reverse.find?
      (fun other => Text.lowercase other.1 = Text.lowercase entry.1) = some entry := by
  have hlater : later.reverse.find?
      (fun other => Text.lowercase other.1 = Text.lowercase entry.1) = none := by
    rw [List.find?_eq_none]
    intro other hmem
    simpa using hlast other (List.mem_reverse.1 hmem)
  rw [List.reverse_append, List.reverse_cons, List.append_assoc, List.find?_append, hlater]
  simp

/-- Without an entry whose key has a lower-case form the property of that name stays. -/
theorem get?_inject_of_forall_ne (m : Message) {name : String}
    (h : ∀ entry ∈ entries, Text.lowercase entry.1 ≠ name) :
    (inject entries m).properties.get? name = m.properties.get? name := by
  have hnone : (entries.reverse.find? fun entry => Text.lowercase entry.1 = name) = none := by
    rw [List.find?_eq_none]
    intro entry hmem
    simpa using h entry (List.mem_reverse.1 hmem)
  rw [get?_inject, hnone, Option.map_none, Option.none_or]

/-- **The entries of a trace context lie over the properties.** -/
theorem overlays_inject (entries : List (String × String)) (m : Message) :
    Overlays entries m.properties (inject entries m).properties where
  written earlier entry later hsplit hlast := by
    rw [get?_inject, hsplit, find?_reverse_of_last hlast]
    rfl
  kept name h := get?_inject_of_forall_ne m h
  respelled name h := by
    refine get?_inject_of_forall_ne m fun entry _ hform => h ?_
    rw [← hform, Text.lowercase_lowercase]

end Overlays

end Trace

/-! ### The message -/

namespace Producer

/-- The id that a message is handed over with, and what is asked for it: the one that it has,
also if that is empty, or else a fresh one. -/
inductive Identified (m : Message) : List Exchange → Option String → Prop
  | own {id : String} (h : m.messageId = some id) : Identified m [] (some id)
  | assigned (h : m.messageId = none) (id : String) :
    Identified m [⟨.freshId, id⟩] (some ("ID:" ++ id))

/-- Two messages that differ at most in their ids and properties. -/
structure SameContent (m ready : Message) : Prop where
  body : ready.body = m.body
  correlationId : ready.correlationId = m.correlationId
  messageType : ready.messageType = m.messageType
  replyTo : ready.replyTo = m.replyTo
  redelivered : ready.redelivered = m.redelivered

/-- What handing over a message comes to: it is given an id if it has none, the trace context
is asked for and laid over its properties, and it is handed over once, to be taken or not. -/
inductive Sends (p : Producer) (destination : Option Destination) (m : Message) :
    List Exchange → Except Error Unit → Prop
  | handed {asked : List Exchange} {entries : List (String × String)} {ready : Message}
    (hid : Identified m asked ready.messageId) (hcontent : SameContent m ready)
    (hproperties : Trace.Overlays entries m.properties ready.properties)
    (reply : Except String Unit) :
    Sends p destination m
      (asked ++ ⟨.traceEntries, entries⟩ :: performed (.send p.handle destination ready) reply)
      (reply.mapError .client)

/-- **Only the id and the properties of a message may change when it is handed over**, however
that is answered: the id if it has none, and the properties by the entries of the trace context
that lie over them. -/
theorem dispatch_sends (p : Producer) (destination : Option Destination) (m : Message) :
    (p.dispatch destination m).run.Ensures (p.Sends destination m) := by
  refine (p.dispatch_ensures destination m).mono ?_
  rintro log outcome ⟨preparing, ready, reply, hready, rfl, rfl⟩
  cases hready with
  | named hid entries =>
    obtain ⟨id, hown⟩ := Option.isSome_iff_exists.1 hid
    have hidentified : Identified m [] (Trace.inject entries m).messageId := by
      show Identified m [] m.messageId
      rw [hown]
      exact .own hown
    have hcontent : SameContent m (Trace.inject entries m) := ⟨rfl, rfl, rfl, rfl, rfl⟩
    exact .handed hidentified hcontent (Trace.overlays_inject entries m) reply
  | unnamed hid id entries =>
    have hcontent : SameContent m
        (Trace.inject entries { m with messageId := some (Message.assignedIdStart ++ id) }) :=
      ⟨rfl, rfl, rfl, rfl, rfl⟩
    have hproperties := Trace.overlays_inject entries
      { m with messageId := some (Message.assignedIdStart ++ id) }
    exact .handed (.assigned hid id) hcontent hproperties reply

end Producer
end MessageBus
