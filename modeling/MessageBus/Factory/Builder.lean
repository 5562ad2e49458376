/-
# Building connection factories

A builder gathers what a connection factory needs, in any order, the last value
of each part counting. Only `Builder.build` checks it.

Key definitions:

* `Builder.Start`, `Builder.Change`: where a builder starts from, and one part
  that is set.
* `Builder.build`: the factory, or what is wrong: first with the host, then with
  the credentials, then with the user agent.
-/
import MessageBus.Factory

namespace MessageBus

/-- What has been gathered for a connection factory. -/
structure Builder where
  host : Option String := none
  credentials : Option Credentials := none
  settings : Option Settings := none
  connectionString : Option ConnectionString := none
  customUserAgent : Option String := none
  clientId : Option String := none
  deriving DecidableEq

namespace Builder

instance : Inhabited Builder := ⟨{}⟩

/-- The credentials in a connection string: a key pair, if both parts are there. -/
def credentialsOf (c : ConnectionString) : Option Credentials :=
  match c.keyName, c.key with
  | some keyName, some key => some (.sharedAccessKey keyName key)
  | _, _ => none

/-- The builder for the namespace of a connection string. -/
def ofConnectionString (c : ConnectionString) : Builder :=
  { host := some c.host, credentials := credentialsOf c, connectionString := some c }

/-- The builder for a namespace and credentials. -/
def ofHost (host : String) (credentials : Credentials) : Builder :=
  { host := some host, credentials := some credentials }

/-- Where a builder starts from. -/
inductive Start
  | blank
  | connectionText (text : String)
  | connectionString (parsed : ConnectionString)
  | sharedAccessKey (keyName key host : String)
  | token (cache : TokenCache) (host : String)
  deriving DecidableEq

/-- The builder at its start. A text has to be a connection string. -/
def start : Start → Except Error Builder
  | .blank => .ok {}
  | .connectionText text => (ConnectionString.parse text).map ofConnectionString
  | .connectionString parsed => .ok (ofConnectionString parsed)
  | .sharedAccessKey keyName key host => .ok (ofHost host (.sharedAccessKey keyName key))
  | .token cache host => .ok (ofHost host (.token cache))

inductive Change
  | host (host : String)
  | credentials (credentials : Credentials)
  | settings (settings : Settings)
  | customUserAgent (userAgent : String)
  | clientId (clientId : String)
  deriving DecidableEq

/-- The builder with a part set. A connection string that it started from stays. -/
def apply (b : Builder) : Change → Builder
  | .host host => { b with host := some host }
  | .credentials credentials => { b with credentials := some credentials }
  | .settings settings => { b with settings := some settings }
  | .customUserAgent userAgent => { b with customUserAgent := some userAgent }
  | .clientId clientId => { b with clientId := some clientId }

/-- The builder with parts set, one after the other. -/
def applyAll (b : Builder) (changes : List Change) : Builder := changes.foldl apply b

/-! ### Building -/

/-- The length that a custom user agent must not exceed, in characters. -/
def maxUserAgentLength : Nat := 128

/-- The host, which must not be empty. -/
def checkedHost (b : Builder) : Except Error String :=
  match b.host.bind nonEmpty with
  | some host => .ok host
  | none => .error (.configuration .missingHost)

/-- The credentials. Neither part of a key pair may be empty. -/
def checkedCredentials (b : Builder) : Except Error Credentials :=
  match b.credentials with
  | none => .error (.configuration .missingCredentials)
  | some (.sharedAccessKey keyName key) =>
    if keyName = "" ∨ key = "" then .error (.configuration .emptyKeyPair)
    else .ok (.sharedAccessKey keyName key)
  | some (.token cache) => .ok (.token cache)

/-- The custom user agent, which must not be too long; an empty one is none. -/
def checkedUserAgent (b : Builder) : Except Error (Option String) :=
  match b.customUserAgent with
  | none => .ok none
  | some userAgent =>
    if userAgent.length > maxUserAgentLength then .error (.userAgentTooLong maxUserAgentLength)
    else .ok (nonEmpty userAgent)

/-- The connection string: the one that the builder started from, or that of the
host and the key pair. -/
def connectionStringFor (b : Builder) (host : String) (credentials : Credentials) :
    Option ConnectionString :=
  match b.connectionString, credentials with
  | some c, _ => some c
  | none, .sharedAccessKey keyName key => some (.ofKeyPair host keyName key)
  | none, .token _ => none

def build (b : Builder) : Except Error ConnectionFactory := do
  let host ← b.checkedHost
  let credentials ← b.checkedCredentials
  let customUserAgent ← b.checkedUserAgent
  let settings := b.settings.getD {}
  return {
    host, credentials, settings, customUserAgent
    remoteUri := RemoteUri.build host settings
    connectionString := b.connectionStringFor host credentials
    clientId := b.clientId.bind nonEmpty }

instance : Inspect Builder :=
  ⟨fun b => Inspect.record "ServiceBusConnectionFactoryBuilder"
    [("host", inspect b.host), ("credentials", inspect b.credentials),
      ("settings", inspect b.settings), ("connection_string", inspect b.connectionString),
      ("custom_user_agent", inspect b.customUserAgent), ("client_id", inspect b.clientId)]⟩

end Builder
end MessageBus
