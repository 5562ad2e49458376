/-
# Connection factories

A connection factory opens connections and contexts to one namespace. It knows
where the broker is, what to authenticate with, and what to say about itself.

Key definitions:

* `ConnectionFactory.openProperties`: what a connection says about itself.
* `ConnectionFactory.connect`: opens a connection. An explicit login replaces
  the factory's key pair, but never its token.
-/
import MessageBus.Context
import MessageBus.Credential
import MessageBus.RemoteUri

namespace MessageBus

/-- A connection factory; `Builder.build` makes them. -/
structure ConnectionFactory where
  host : String
  credentials : Credentials
  settings : Settings
  /-- Where the client library finds the broker, by the host and the settings. -/
  remoteUri : String
  /-- The connection string of the factory; a factory with a token has none,
  unless it was made from one. -/
  connectionString : Option ConnectionString
  customUserAgent : Option String
  clientId : Option String
  deriving DecidableEq

/-- A user name and a password. -/
structure Login where
  username : String
  password : String
  deriving DecidableEq

/-- A text that is there only when it is not empty. -/
def nonEmpty (text : String) : Option String := if text = "" then none else some text

namespace ConnectionFactory

/-- The factory with another client id for its connections to come; an empty one
takes the client id away. -/
def setClientId (f : ConnectionFactory) (clientId : String) : ConnectionFactory :=
  { f with clientId := nonEmpty clientId }

/-! ### What a connection says about itself -/

def version : String := "0.1.0"

/-- The user agent: the library with its version, and a custom part. -/
def userAgent (f : ConnectionFactory) : String :=
  "ServiceBusJms-" ++ version ++
    match f.customUserAgent with
    | none => ""
    | some custom => "/" ++ custom

/-- The property that tells how long something lives while it is idle, if that
is set. It is as long as the type of the value allows. -/
def idleLifeProperty (object : String) (seconds : UInt64) : List (String × PropertyValue) :=
  if seconds = 0 then []
  else [("com.microsoft:" ++ object ++ "-auto-delete-on-idle-duration-in-seconds",
    .long (Int64.ofNat (min seconds.toNat Int64.maxValue.toNatClampNeg)))]

/-- What a connection says about itself when it is opened. -/
def openProperties (f : ConnectionFactory) : Dictionary PropertyValue :=
  .ofList ([("com.microsoft:is-client-provider", .bool true), ("user-agent", .string f.userAgent)] ++
    idleLifeProperty "queue" f.settings.queueIdleLife ++
    idleLifeProperty "topic" f.settings.topicIdleLife ++
    idleLifeProperty "subscriber" f.settings.subscriberIdleLife)

/-! ### Opening connections -/

/-- What to authenticate with: the explicit login if the factory has a key pair
itself, and else what the factory presents. -/
def loginFor (f : ConnectionFactory) (explicit : Option Login) : Operation Login :=
  match f.credentials, explicit with
  | .sharedAccessKey .., some login => return login
  | credentials, _ => return ⟨credentials.username, ← credentials.password⟩

/-- What the client library needs to open a connection. -/
def request (f : ConnectionFactory) (login : Login) : ConnectRequest where
  remoteUri := f.remoteUri
  username := login.username
  password := login.password
  clientId := f.clientId
  openProperties := f.openProperties
  proxy := f.settings.proxy

def connect (f : ConnectionFactory) (explicit : Option Login) : Operation Connection := do
  let login ← f.loginFor explicit
  return ⟨← perform (.connect (f.request login))⟩

def createConnection (f : ConnectionFactory) (explicit : Option Login) : Operation Connection :=
  f.connect explicit

def createQueueConnection (f : ConnectionFactory) (explicit : Option Login) :
    Operation QueueConnection :=
  return ⟨← f.connect explicit⟩

def createTopicConnection (f : ConnectionFactory) (explicit : Option Login) :
    Operation TopicConnection :=
  return ⟨← f.connect explicit⟩

/-- A context with a connection of its own. -/
def createContext (f : ConnectionFactory) (mode : SessionMode) (explicit : Option Login) :
    Operation Context := do
  Context.openOn (← f.connect explicit) mode

/-- Keys do not show. -/
instance : Inspect ConnectionFactory :=
  ⟨fun f => Inspect.partialRecord "ServiceBusConnectionFactory"
    [("host", inspect f.host), ("credentials", inspect f.credentials),
      ("remote_uri", inspect f.remoteUri), ("client_id", inspect f.clientId)]⟩

end ConnectionFactory
end MessageBus
