/-
# Connections

A connection to the broker. It makes sessions, and messages arrive while it is
started. Copies of a connection are the same connection. A queue connection
makes queue sessions besides, a topic connection topic sessions.
-/
import MessageBus.Session

namespace MessageBus

structure Connection where
  handle : Handle .connection
  deriving DecidableEq

namespace Connection

/-- A session of a mode, which may be the transacted one. -/
def createSessionWithMode (c : Connection) (mode : SessionMode) : Operation Session :=
  return ⟨← perform (.createSession c.handle mode)⟩

/-- A session that is transacted or has an acknowledge mode. -/
def createSession (c : Connection) (transacted : Bool) (mode : SessionMode) : Operation Session :=
  c.createSessionWithMode (.resolve transacted mode)

/-- A session that acknowledges messages by itself. -/
def createDefaultSession (c : Connection) : Operation Session :=
  c.createSessionWithMode .autoAcknowledge

def clientId (c : Connection) : Operation (Option String) := ask (.clientId c.handle)

def setClientId (c : Connection) (clientId : String) : Operation Unit :=
  perform (.setClientId c.handle clientId)

/-- Starts the delivery of messages. -/
def start (c : Connection) : Operation Unit := perform (.start c.handle)

/-- Pauses the delivery of messages. -/
def stop (c : Connection) : Operation Unit := perform (.stop c.handle)

/-- Closes the connection and its sessions. -/
def close (c : Connection) : Operation Unit := perform (.closeConnection c.handle)

end Connection

/-- A connection for queues only. -/
structure QueueConnection extends Connection
  deriving DecidableEq

/-- A session for queues that is transacted or has an acknowledge mode. -/
def QueueConnection.createQueueSession (c : QueueConnection) (transacted : Bool)
    (mode : SessionMode) : Operation QueueSession :=
  return ⟨← c.createSession transacted mode⟩

/-- A connection for topics only. -/
structure TopicConnection extends Connection
  deriving DecidableEq

/-- A session for topics that is transacted or has an acknowledge mode. -/
def TopicConnection.createTopicSession (c : TopicConnection) (transacted : Bool)
    (mode : SessionMode) : Operation TopicSession :=
  return ⟨← c.createSession transacted mode⟩

end MessageBus
