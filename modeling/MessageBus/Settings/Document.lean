/-
# Settings as documents

Settings are written as a JSON object with one member for every value but the
proxy, and read from an object with any of these members in any order, or from
a list of values in their order. What a document does not name keeps its
default; a member of another name, or named twice, is a problem.

Key definitions:

* `Field`: one value of the settings, with its name and how it is read and
  written.
* `fields`: the eighteen values, in the order in which they are written.
* `ofJson`, `toJson`: from and to text.
-/
import MessageBus.Json.Codec
import MessageBus.Settings

namespace MessageBus
namespace Settings

/-- A value of the settings under its name. -/
structure Field where
  name : String
  read : Settings → Json.Reader Settings
  write : Settings → List Char

/-- The field of a codec, given how its value is taken from settings and put
into them. -/
def Field.of {α : Type} (name : String) (codec : Json.Codec α) (get : Settings → α)
    (set : Settings → α → Settings) : Field where
  name := name
  read s text := (codec.read text).map fun (value, rest) => (set s value, rest)
  write s := codec.write (get s)

/-- Merge actions by their names. -/
def mergeActionCodec : Json.Codec MergeAction :=
  Json.choice (MergeAction.all.map fun action => (action.text, action))

open Json in
/-- The values of settings, in the order in which they are written. -/
def fields : List Field :=
  [.of "connectionIdleTimeoutMs" word64 (·.idleTimeout) fun s v => { s with idleTimeout := v },
    .of "traceFrames" boolean (·.traceFrames) fun s v => { s with traceFrames := v },
    .of "queueAutoDeleteOnIdleSeconds" word64 (·.queueIdleLife)
      fun s v => { s with queueIdleLife := v },
    .of "topicAutoDeleteOnIdleSeconds" word64 (·.topicIdleLife)
      fun s v => { s with topicIdleLife := v },
    .of "subscriberAutoDeleteOnIdleSeconds" word64 (·.subscriberIdleLife)
      fun s v => { s with subscriberIdleLife := v },
    .of "configurationOptions" (dictionary text) (·.options) fun s v => { s with options := v },
    .of "shouldReconnect" boolean (·.shouldReconnect) fun s v => { s with shouldReconnect := v },
    .of "reconnectHosts" (optional (list text)) (·.reconnectHosts)
      fun s v => { s with reconnectHosts := v },
    .of "initialReconnectDelay" (optional word64) (·.initialReconnectDelay)
      fun s v => { s with initialReconnectDelay := v },
    .of "reconnectDelay" (optional word64) (·.reconnectDelay)
      fun s v => { s with reconnectDelay := v },
    .of "maxReconnectDelay" (optional word64) (·.maxReconnectDelay)
      fun s v => { s with maxReconnectDelay := v },
    .of "useReconnectBackOff" (optional boolean) (·.useBackOff)
      fun s v => { s with useBackOff := v },
    .of "reconnectBackOffMultiplier" (optional float) (·.backOffMultiplier)
      fun s v => { s with backOffMultiplier := v },
    .of "maxReconnectAttempts" (optional signed32) (·.maxReconnectAttempts)
      fun s v => { s with maxReconnectAttempts := v },
    .of "startupMaxReconnectAttempts" (optional signed32) (·.startupMaxReconnectAttempts)
      fun s v => { s with startupMaxReconnectAttempts := v },
    .of "warnAfterReconnectAttempts" (optional signed32) (·.warnAfterReconnectAttempts)
      fun s v => { s with warnAfterReconnectAttempts := v },
    .of "randomize" (optional boolean) (·.randomize) fun s v => { s with randomize := v },
    .of "serverListMergeAction" (optional mergeActionCodec) (·.mergeAction)
      fun s v => { s with mergeAction := v }]

def fieldNames : List String := fields.map Field.name

/-- The settings read so far, and the names of the members they were read from. -/
structure Progress where
  settings : Settings
  seen : List String

/-- How the value of a member is read, if the member may stand where it does. -/
def readMember (name : String) (p : Progress) : Except Json.Problem (Json.Reader Progress) :=
  match fields.find? fun field => field.name == name with
  | none => .error (.unknownField name fieldNames)
  | some field =>
    if name ∈ p.seen then .error (.duplicateField name)
    else .ok fun text =>
      (field.read p.settings text).map fun (settings, rest) => (⟨settings, name :: p.seen⟩, rest)

/-- Reads the values of a list, each into the next field; fields beyond the end
of the list keep their values. -/
def readInOrder : List Field → Bool → Settings → Json.Reader Settings
  | [], _, s, text => do
    match Json.skipSpace text with
    | [] => .error .endOfList
    | c :: rest =>
      if c = ']' then return (s, rest)
      else if c = ',' then
        match Json.skipSpace rest with
        | ']' :: _ => .error .trailingComma
        | _ => .error .trailingCharacters
      else .error .trailingCharacters
  | field :: later, first, s, text => do
    match ← Json.nextElement first text with
    | .inr rest => return (s, rest)
    | .inl text =>
      let (s, rest) ← field.read s text
      readInOrder later false s rest

/-- Reads settings from an object or a list. -/
def readDocument : Json.Reader Settings :=
  Json.readBy "struct ConnectionFactorySettings" fun c rest =>
    if c = '\x7b' then
      some ((Json.readMembers readMember ⟨{}, []⟩ rest).map fun (p, rest) => (p.settings, rest))
    else if c = '[' then some (readInOrder fields true {} rest)
    else none

def ofJson (document : String) : Except Error Settings :=
  match Json.readAll readDocument document with
  | .ok s => .ok s
  | .error problem => .error (.configuration (.badSettings problem))

/-- The document of settings. The proxy is left out. -/
def toJson (s : Settings) : String :=
  String.ofList (Json.writeObject (fields.map fun field => (field.name, field.write s)))

end Settings
end MessageBus
