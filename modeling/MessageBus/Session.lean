/-
# Sessions

A session makes destinations, producers, consumers and browsers, and is what
messages are acknowledged on. Everything it does is a call on the client
library. A queue session knows queues only, a topic session topics only; both
are sessions otherwise.

Key definitions:

* `Session.create…`: the objects of a session.
* `ConsumerSpec.plain`, `durable`, `shared`: the kinds of consumers: on a
  destination, and on a subscription to a topic of its own or shared with others.
-/
import MessageBus.Consumer
import MessageBus.Producer

namespace MessageBus

/-- A consumer on a destination. -/
def ConsumerSpec.plain (destination : Destination) (selector : Option String) (noLocal : Bool) :
    ConsumerSpec :=
  { destination, selector, noLocal }

/-- A consumer on a subscription of its own to a topic, which outlives it. -/
def ConsumerSpec.durable (topic : Topic) (name : String) (selector : Option String)
    (noLocal : Bool) : ConsumerSpec :=
  { destination := topic, selector, noLocal, subscription := some ⟨name, true, false⟩ }

/-- A consumer on a subscription to a topic that it shares with others. -/
def ConsumerSpec.shared (topic : Topic) (name : String) (selector : Option String)
    (durable : Bool) : ConsumerSpec :=
  { destination := topic, selector, subscription := some ⟨name, durable, true⟩ }

structure Session where
  handle : Handle .session
  deriving DecidableEq

namespace Session

/-- How the session acknowledges messages. -/
def mode (s : Session) : Operation SessionMode := ask (.sessionMode s.handle)

def isTransacted (s : Session) : Operation Bool := return (← s.mode).isTransacted

/-- The queue of a name, under the name that the client library knows it by. -/
def createQueue (s : Session) (name : String) : Operation Queue :=
  return ⟨← perform (.createQueue s.handle name)⟩

/-- The topic of a name, under the name that the client library knows it by. -/
def createTopic (s : Session) (name : String) : Operation Topic :=
  return ⟨← perform (.createTopic s.handle name)⟩

/-- A queue that goes with the connection. -/
def createTemporaryQueue (s : Session) : Operation Destination :=
  return .temporaryQueue (← perform (.createTemporaryQueue s.handle))

/-- A topic that goes with the connection. -/
def createTemporaryTopic (s : Session) : Operation Destination :=
  return .temporaryTopic (← perform (.createTemporaryTopic s.handle))

/-- A producer that is bound to a destination, or to none. -/
def createProducer (s : Session) (destination : Option Destination) : Operation Producer :=
  return ⟨← perform (.createProducer s.handle destination), destination⟩

/-- The consumer that is asked for. -/
def consume (s : Session) (spec : ConsumerSpec) : Operation Consumer :=
  return ⟨← perform (.createConsumer s.handle spec)⟩

/-- A consumer on a destination. -/
def createConsumer (s : Session) (destination : Destination) (selector : Option String)
    (noLocal : Bool) : Operation Consumer :=
  s.consume (.plain destination selector noLocal)

/-- A consumer on a durable subscription of its own. -/
def createDurableSubscriber (s : Session) (topic : Topic) (name : String)
    (selector : Option String) (noLocal : Bool) : Operation Consumer :=
  s.consume (.durable topic name selector noLocal)

/-- A consumer on a shared subscription. -/
def createSharedConsumer (s : Session) (topic : Topic) (name : String) (selector : Option String)
    (durable : Bool) : Operation Consumer :=
  s.consume (.shared topic name selector durable)

def createBrowser (s : Session) (queue : Queue) (selector : Option String) : Operation Browser :=
  return ⟨← perform (.createBrowser s.handle queue selector)⟩

/-- Deletes a durable subscription. -/
def unsubscribe (s : Session) (name : String) : Operation Unit :=
  perform (.unsubscribe s.handle name)

/-- Acknowledges all messages that were received so far. -/
def acknowledge (s : Session) : Operation Unit := perform (.acknowledge s.handle)

def commit (s : Session) : Operation Unit := perform (.commit s.handle)

def rollback (s : Session) : Operation Unit := perform (.rollback s.handle)

/-- Starts delivery again at the first message that is not acknowledged. -/
def recover (s : Session) : Operation Unit := perform (.recover s.handle)

def close (s : Session) : Operation Unit := perform (.closeSession s.handle)

end Session

/-- A session for queues only. -/
structure QueueSession extends Session
  deriving DecidableEq

namespace QueueSession

def createSender (s : QueueSession) (queue : Queue) : Operation Producer :=
  s.createProducer (some queue)

def createReceiver (s : QueueSession) (queue : Queue) (selector : Option String) :
    Operation Consumer :=
  s.createConsumer queue selector false

end QueueSession

/-- A session for topics only. -/
structure TopicSession extends Session
  deriving DecidableEq

namespace TopicSession

def createPublisher (s : TopicSession) (topic : Topic) : Operation Producer :=
  s.createProducer (some topic)

def createSubscriber (s : TopicSession) (topic : Topic) (selector : Option String)
    (noLocal : Bool) : Operation Consumer :=
  s.createConsumer topic selector noLocal

end TopicSession
end MessageBus
