/-
# Calls on the client library

The client library opens connections and moves messages. This library reaches
it through calls: each names the object it is made on and its arguments, and is
answered by a result of its type or by the text of a failure.

Key definitions:

* `Call`, `Call.Result`: the calls and the types of their results.
* `Call.failure`: how the failure of a call is reported.
* `ConnectRequest`, `ConsumerSpec`: what the library needs to open a connection
  and to create a consumer.
-/
import MessageBus.Message
import MessageBus.Settings

namespace MessageBus

/-- How a session acknowledges messages. -/
inductive SessionMode
  | autoAcknowledge
  | clientAcknowledge
  | dupsOkAcknowledge
  | transacted
  deriving DecidableEq

namespace SessionMode

instance : Inhabited SessionMode := ⟨autoAcknowledge⟩

instance : Inspect SessionMode :=
  ⟨fun
    | autoAcknowledge => "AutoAcknowledge"
    | clientAcknowledge => "ClientAcknowledge"
    | dupsOkAcknowledge => "DupsOkAcknowledge"
    | transacted => "Transacted"⟩

/-- The mode of a session that is transacted or has an acknowledge mode: being
transacted outweighs the mode. -/
def resolve (transacted : Bool) (mode : SessionMode) : SessionMode :=
  if transacted then .transacted else mode

def isTransacted (mode : SessionMode) : Bool := mode = .transacted

end SessionMode

/-- What is needed to open a connection. -/
structure ConnectRequest where
  remoteUri : String
  username : String
  password : String
  clientId : Option String
  openProperties : Dictionary PropertyValue
  proxy : Option Proxy
  deriving DecidableEq

instance : Inspect ConnectRequest :=
  ⟨fun r => Inspect.partialRecord "ConnectRequest"
    [("remote_uri", inspect r.remoteUri), ("username", inspect r.username),
      ("client_id", inspect r.clientId), ("open_properties", inspect r.openProperties),
      ("proxy_handler", inspect r.proxy.isSome)]⟩

/-- A named subscription on a topic: a durable one outlives its consumers, the
consumers of a shared one compete for its messages. -/
structure Subscription where
  name : String
  durable : Bool
  shared : Bool
  deriving DecidableEq

/-- What is needed to create a consumer. -/
structure ConsumerSpec where
  destination : Destination
  selector : Option String := none
  noLocal : Bool := false
  subscription : Option Subscription := none
  deriving DecidableEq

/-- The kinds of objects that the client library makes. -/
inductive Role
  | connection
  | session
  | producer
  | consumer
  | browser
  deriving DecidableEq

/-- An object of the client library. -/
structure Handle (role : Role) where
  number : Nat
  deriving DecidableEq

/-- A call on the client library. Times are in milliseconds; a receive without
timeout waits for ever. -/
inductive Call
  | connect (request : ConnectRequest)
  | createSession (connection : Handle .connection) (mode : SessionMode)
  | setClientId (connection : Handle .connection) (clientId : String)
  | start (connection : Handle .connection)
  | stop (connection : Handle .connection)
  | closeConnection (connection : Handle .connection)
  | createQueue (session : Handle .session) (name : String)
  | createTopic (session : Handle .session) (name : String)
  | createTemporaryQueue (session : Handle .session)
  | createTemporaryTopic (session : Handle .session)
  | createProducer (session : Handle .session) (destination : Option Destination)
  | createConsumer (session : Handle .session) (spec : ConsumerSpec)
  | createBrowser (session : Handle .session) (queue : Destination) (selector : Option String)
  | unsubscribe (session : Handle .session) (name : String)
  | acknowledge (session : Handle .session)
  | commit (session : Handle .session)
  | rollback (session : Handle .session)
  | recover (session : Handle .session)
  | closeSession (session : Handle .session)
  | send (producer : Handle .producer) (destination : Option Destination) (message : Message)
  | closeProducer (producer : Handle .producer)
  | receive (consumer : Handle .consumer) (timeout : Option Nat)
  | closeConsumer (consumer : Handle .consumer)
  | browse (browser : Handle .browser)
  | closeBrowser (browser : Handle .browser)
  deriving DecidableEq

namespace Call

def Result : Call → Type
  | .connect _ => Handle .connection
  | .createSession .. => Handle .session
  | .createQueue .. | .createTopic .. | .createTemporaryQueue _ | .createTemporaryTopic _ => String
  | .createProducer .. => Handle .producer
  | .createConsumer .. => Handle .consumer
  | .createBrowser .. => Handle .browser
  | .receive .. | .browse _ => Option Message
  | _ => Unit

/-- What is reported when a call fails. -/
def failure : Call → String
  | .connect _ => "failure to connect"
  | .createSession .. => "failure to create a session"
  | .setClientId .. => "failure to set client id"
  | .start _ => "failure to start connection"
  | .stop _ => "failure to stop connection"
  | .closeConnection _ => "failure to close connection"
  | .createQueue .. => "failure to create queue"
  | .createTopic .. => "failure to create topic"
  | .createTemporaryQueue _ => "failure to create temporary queue"
  | .createTemporaryTopic _ => "failure to create temporary topic"
  | .createProducer .. => "failure to create producer"
  | .createConsumer .. => "failure to create consumer"
  | .createBrowser .. => "failure to create browser"
  | .unsubscribe .. => "failure to unsubscribe"
  | .acknowledge _ => "failure to ack messages"
  | .commit _ => "failure to commit"
  | .rollback _ => "failure to rollback"
  | .recover _ => "failure to recover"
  | .closeSession _ => "failure to close session"
  | .send .. => "error publishing message"
  | .closeProducer _ => "failure to close producer"
  | .receive .. => "failure to consume message"
  | .closeConsumer _ => "failure to close consumer"
  | .browse _ => "failure to browse queue"
  | .closeBrowser _ => "failure to close browser"

end Call
end MessageBus
