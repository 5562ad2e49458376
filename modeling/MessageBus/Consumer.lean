/-
# Consumers and browsers

A consumer takes messages from a destination, one at a time or as a stream. A
browser walks over the messages of a queue and leaves them there.

Key definitions:

* `Consumer.receive` and its kin: the next message, or none.
* `MessageStream.next`: a poll of a stream. Its items are the messages up to the
  first failure, which is the last item, or until there is none left; a stream
  that is polled again after its end panics.
-/
import MessageBus.Client.Program

namespace MessageBus

structure Consumer where
  handle : Handle .consumer
  deriving DecidableEq

namespace Consumer

/-- Waits for the next message; there is none once the consumer is closed. -/
def receive (c : Consumer) : Operation (Option Message) := perform (.receive c.handle none)

/-- Waits for the next message for some milliseconds. -/
def receiveWithin (c : Consumer) (milliseconds : Nat) : Operation (Option Message) :=
  perform (.receive c.handle (some milliseconds))

/-- The next message if it is there already. -/
def receiveNow (c : Consumer) : Operation (Option Message) := c.receiveWithin 0

def close (c : Consumer) : Operation Unit := perform (.closeConsumer c.handle)

end Consumer

/-- A stream of the messages of a consumer. Each poll unfolds an item from what the stream goes
on with: its consumer, or nothing after a failure. -/
inductive MessageStream
  | unfolding (seed : Option Consumer)
  /-- It has said that there is no item left. -/
  | ended
  deriving DecidableEq

/-- What a poll of a stream comes to. -/
inductive Polled
  | item (item : Except Error Message)
  /-- There is no item left. -/
  | ended
  /-- The stream had ended before, and must not be polled again. -/
  | panicked

/-- The stream of a consumer's messages. -/
def Consumer.stream (c : Consumer) : MessageStream := .unfolding (some c)

namespace MessageStream

/-- The next item, if there is one, and what the stream goes on with. -/
def unfold : Option Consumer → Program (Option (Except Error Message × Option Consumer))
  | none => return none
  | some c => do
    match ← c.receive.run with
    | .ok (some m) => return some (.ok m, some c)
    | .ok none => return none
    | .error e => return some (.error e, none)

/-- Polls a stream, until there is an item or none is left. -/
def next : MessageStream → Program (Polled × MessageStream)
  | unfolding seed => do
    match ← unfold seed with
    | some (item, seed) => return (.item item, unfolding seed)
    | none => return (.ended, ended)
  | ended => return (.panicked, ended)

end MessageStream

structure Browser where
  handle : Handle .browser
  deriving DecidableEq

namespace Browser

/-- The next message of the queue; there is none past the last. -/
def next (b : Browser) : Operation (Option Message) := perform (.browse b.handle)

def close (b : Browser) : Operation Unit := perform (.closeBrowser b.handle)

end Browser
end MessageBus
