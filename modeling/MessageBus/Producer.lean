/-
# Producers

A producer sends messages, either always to the destination it is bound to or
to one that is named with every message. A message without an id is given a
fresh one, and carries the trace context of the caller.
-/
import MessageBus.Client.Program
import MessageBus.Trace

namespace MessageBus

/-- A producer, and the destination it is bound to. -/
structure Producer where
  handle : Handle .producer
  destination : Option Destination
  deriving DecidableEq

namespace Producer

/-- The message with an id: the one it has, or a fresh one. -/
def withId (m : Message) : Operation Message :=
  match m.messageId with
  | some _ => return m
  | none => do
    let id : String ← ask .freshId
    return { m with messageId := some (Message.assignedIdStart ++ id) }

/-- Hands a message to the client library. -/
def dispatch (p : Producer) (destination : Option Destination) (m : Message) : Operation Unit := do
  let m ← withId m
  let entries : List (String × String) ← ask .traceEntries
  perform (.send p.handle destination (Trace.inject entries m))

/-- Sends a message to the destination of a bound producer. -/
def send (p : Producer) (m : Message) : Operation Unit :=
  match p.destination with
  | none => throw (.configuration .unboundProducer)
  | some _ => p.dispatch none m

/-- Sends a message to a destination from an unbound producer. -/
def sendTo (p : Producer) (destination : Destination) (m : Message) : Operation Unit :=
  match p.destination with
  | some _ => throw (.configuration .boundProducer)
  | none => p.dispatch (some destination) m

def close (p : Producer) : Operation Unit := perform (.closeProducer p.handle)

end Producer
end MessageBus
