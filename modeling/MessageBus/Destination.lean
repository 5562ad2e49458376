/-
# Destinations

Where messages go and come from. Queues and topics have a physical name and
outlive the connection; temporary ones are named by the client library and
last as long as the connection that created them.
-/
import MessageBus.Inspect

namespace MessageBus

/-- A queue, by its physical name. -/
structure Queue where
  name : String
  deriving DecidableEq

/-- A topic, by its physical name. -/
structure Topic where
  name : String
  deriving DecidableEq

/-- Anything that messages are sent to or received from. -/
inductive Destination
  | queue (queue : Queue)
  | topic (topic : Topic)
  | temporaryQueue (name : String)
  | temporaryTopic (name : String)
  deriving DecidableEq

instance : Coe Queue Destination := ⟨.queue⟩
instance : Coe Topic Destination := ⟨.topic⟩

instance : Inspect Queue := ⟨fun q => Inspect.record "ServiceBusQueue" [("name", inspect q.name)]⟩
instance : Inspect Topic := ⟨fun t => Inspect.record "ServiceBusTopic" [("name", inspect t.name)]⟩

namespace Destination

/-- The physical name. -/
def name : Destination → String
  | .queue q => q.name
  | .topic t => t.name
  | .temporaryQueue name => name
  | .temporaryTopic name => name

/-- Whether the destination goes with the connection that created it. -/
def isTemporary : Destination → Bool
  | .temporaryQueue _ | .temporaryTopic _ => true
  | _ => false

/-- The text of a destination is its name. -/
def text (d : Destination) : String := d.name

instance : Inspect Destination :=
  ⟨fun
    | .queue q => Inspect.variant "Queue" (inspect q)
    | .topic t => Inspect.variant "Topic" (inspect t)
    | .temporaryQueue name => Inspect.variant "TemporaryQueue" (inspect name)
    | .temporaryTopic name => Inspect.variant "TemporaryTopic" (inspect name)⟩

end Destination
end MessageBus
