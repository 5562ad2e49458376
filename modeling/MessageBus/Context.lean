/-
# Contexts

A context is a session that has its connection with it. It does what a session
does, except that its producers are bound to no destination and its consumers
start the connection, unless its `autoStart` is off. Contexts that derive from
one another are a family: they share the connection, which is closed with the
last of them, and whether it has been started.

Key definitions:

* `Context.openOn`, `Context.createContext`: a first context on a connection,
  and one that derives from another.
* `Context.consume`: a consumer, on a connection that has been started.
* `Context.close`: closes the session, and the connection after the last session.
-/
import MessageBus.Connection

namespace MessageBus

/-- A session and the connection that it is on. -/
structure Context extends Session where
  connection : Connection
  family : Family
  autoStart : Bool := true
  deriving DecidableEq

namespace Context

/-- The first context of a family. A connection on which no session can be
created stays open. -/
def openOn (connection : Connection) (mode : SessionMode) : Operation Context := do
  let session ← connection.createSessionWithMode mode
  let family : Family ← ask .newFamily
  return { toSession := session, connection, family }

/-- A context with a session of its own on the same connection. It starts the
connection if this one does. -/
def createContext (c : Context) (mode : SessionMode) : Operation Context := do
  let session ← c.connection.createSessionWithMode mode
  ask (.joinFamily c.family)
  return { c with toSession := session }

/-- The context that starts the connection with its first consumer, or not. -/
def setAutoStart (c : Context) (autoStart : Bool) : Context := { c with autoStart }

/-- Starts the delivery of messages. -/
def start (c : Context) : Operation Unit := do
  c.connection.start
  ask (.setStarted c.family true)

/-- Pauses the delivery of messages. -/
def stop (c : Context) : Operation Unit := do
  c.connection.stop
  ask (.setStarted c.family false)

/-- Whether a consumer of this context has to start the connection. -/
def mustStart (c : Context) : Operation Bool := do
  if c.autoStart then
    let started : Bool ← ask (.isStarted c.family)
    return !started
  else return false

/-- The consumer that is asked for, on a connection that has been started. When
the connection cannot be started the consumer is closed, and what becomes of
that makes no difference. -/
def consume (c : Context) (spec : ConsumerSpec) : Operation Consumer := do
  let consumer ← c.toSession.consume spec
  if ← c.mustStart then
    match ← attempt c.start with
    | .ok _ => return consumer
    | .error e =>
      let _ ← attempt consumer.close
      throw e
  else return consumer

/-- A consumer on a destination. -/
def createConsumer (c : Context) (destination : Destination) (selector : Option String)
    (noLocal : Bool) : Operation Consumer :=
  c.consume (.plain destination selector noLocal)

/-- A consumer on a durable subscription of its own. -/
def createDurableConsumer (c : Context) (topic : Topic) (name : String) (selector : Option String)
    (noLocal : Bool) : Operation Consumer :=
  c.consume (.durable topic name selector noLocal)

/-- A consumer on a shared subscription that goes with its consumers. -/
def createSharedConsumer (c : Context) (topic : Topic) (name : String)
    (selector : Option String) : Operation Consumer :=
  c.consume (.shared topic name selector false)

/-- A consumer on a shared subscription that outlives its consumers. -/
def createSharedDurableConsumer (c : Context) (topic : Topic) (name : String)
    (selector : Option String) : Operation Consumer :=
  c.consume (.shared topic name selector true)

/-- A producer that is bound to no destination. -/
def createProducer (c : Context) : Operation Producer := c.toSession.createProducer none

/-- Closes the session, and then the connection if no other context of the
family is open. Fails with the first failure of the two. -/
def close (c : Context) : Operation Unit := do
  let ofSession ← attempt c.toSession.close
  let openBefore : UInt64 ← ask (.leaveFamily c.family)
  if openBefore = 1 then
    let ofConnection ← attempt c.connection.close
    fromOutcome ofSession
    fromOutcome ofConnection
  else fromOutcome ofSession

def clientId (c : Context) : Operation (Option String) := c.connection.clientId

def setClientId (c : Context) (clientId : String) : Operation Unit :=
  c.connection.setClientId clientId

end Context
end MessageBus
