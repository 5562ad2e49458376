/-
# Objects in a directory

Queues, topics and connection factories can be stored. A destination is its
name. A connection factory is its connection string, its settings as a
document, and its custom user agent and client id if it has them; a factory
without a connection string can be stored but not restored.
-/
import MessageBus.Directory.Registry
import MessageBus.Factory.Builder
import MessageBus.Settings.Document

namespace MessageBus

def nameProperty : String := "physicalName"

instance : Restorable Queue where
  kindName := "servicebus_jms::ServiceBusQueue"
  kind _ := "servicebus_jms::ServiceBusQueue"
  properties q := .ofList [(nameProperty, some q.name)]
  restore p := do return ⟨← p.require "servicebus_jms::ServiceBusQueue" nameProperty⟩

instance : Restorable Topic where
  kindName := "servicebus_jms::ServiceBusTopic"
  kind _ := "servicebus_jms::ServiceBusTopic"
  properties t := .ofList [(nameProperty, some t.name)]
  restore p := do return ⟨← p.require "servicebus_jms::ServiceBusTopic" nameProperty⟩

namespace ConnectionFactory

def kindName : String := "servicebus_jms::ServiceBusConnectionFactory"

def connectionStringProperty : String := "connectionString"

def settingsProperty : String := "settings"

def userAgentProperty : String := "customUserAgent"

def clientIdProperty : String := "clientId"

/-- A property that is there only when there is a value. -/
def optionalProperty (name : String) : Option String → List (String × Option String)
  | none => []
  | some value => [(name, some value)]

/-- The properties that a connection factory can be restored from. -/
def storedProperties (f : ConnectionFactory) : Dictionary (Option String) :=
  .ofList ([(connectionStringProperty, f.connectionString.map ConnectionString.render),
      (settingsProperty, some f.settings.toJson)] ++
    optionalProperty userAgentProperty f.customUserAgent ++
    optionalProperty clientIdProperty f.clientId)

/-- The settings of a document, if there is one that is not empty. -/
def storedSettings (p : Properties) : Except Error (List Builder.Change) :=
  match (p.find? settingsProperty).bind nonEmpty with
  | none => .ok []
  | some document => return [.settings (← Settings.ofJson document)]

/-- The custom user agent, if there is one that is not empty. -/
def storedUserAgent (p : Properties) : List Builder.Change :=
  match (p.find? userAgentProperty).bind nonEmpty with
  | none => []
  | some userAgent => [.customUserAgent userAgent]

/-- The client id, if there is one. -/
def storedClientId (p : Properties) : List Builder.Change :=
  match p.find? clientIdProperty with
  | none => []
  | some clientId => [.clientId clientId]

/-- The connection factory of properties, which must have a connection string. -/
def restore (p : Properties) : Except Error ConnectionFactory := do
  let text ← p.require kindName connectionStringProperty
  let builder ← Builder.start (.connectionText text)
  let settings ← storedSettings p
  (builder.applyAll (settings ++ storedUserAgent p ++ storedClientId p)).build

instance : Restorable ConnectionFactory where
  kindName := kindName
  kind _ := kindName
  properties := storedProperties
  restore := restore

end ConnectionFactory

/-- The registry that knows queues and topics. -/
def Registry.destinations {ω : Type} [Member Queue ω] [Member Topic ω] : Registry ω :=
  (Registry.empty.register Queue).register Topic

end MessageBus
