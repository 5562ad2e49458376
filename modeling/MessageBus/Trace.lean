/-
# Trace context

A trace context travels from a producer to a consumer as entries among the
properties of a message. It is written under keys in lower case, over whatever
was there, and read under the exact key, from string properties only.
-/
import MessageBus.Message
import MessageBus.Text.Lowercase

namespace MessageBus
namespace Trace

/-- The properties with an entry of a trace context. -/
def setEntry (properties : Dictionary PropertyValue) (entry : String × String) :
    Dictionary PropertyValue :=
  properties.insert (Text.lowercase entry.1) (.string entry.2)

/-- The message with the entries of a trace context, written one after the other. -/
def inject (entries : List (String × String)) (m : Message) : Message :=
  { m with properties := entries.foldl setEntry m.properties }

/-- The entry that a message carries under a key. -/
def value? (m : Message) (key : String) : Option String :=
  match m.properties.get? key with
  | some (.string value) => some value
  | _ => none

/-- All keys under which a message may carry entries. -/
def keys (m : Message) : List String := m.properties.names

/-- What a reader of trace contexts sees of a message. -/
structure Carrier where
  value? : String → Option String
  keys : List String

/-- The carrier that a message is. -/
def carrier (m : Message) : Carrier := ⟨value? m, keys m⟩

/-- The part a span plays in an exchange of messages. -/
inductive SpanKind
  | producer
  | consumer
  deriving DecidableEq

def SpanKind.text : SpanKind → String
  | .producer => "Producer"
  | .consumer => "Consumer"

/-- A span and the context it continues. -/
structure Span (Context : Type) where
  name : String
  kind : SpanKind
  parent : Context

/-- The context that a message carries, by a reader of contexts. -/
def extract {Context : Type} (read : Carrier → Context) (m : Message) : Context :=
  read (carrier m)

/-- The context that a message carries and a span for processing the message,
whose parent is that context. -/
def consumerSpan {Context : Type} (read : Carrier → Context) (m : Message) (name : String) :
    Context × Span Context :=
  let context := extract read m
  (context, ⟨name, .consumer, context⟩)

end Trace
end MessageBus
