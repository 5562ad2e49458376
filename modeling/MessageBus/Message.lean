/-
# Messages

A message has a body, standard header fields and application properties of a
few types. Properties also carry the trace context.
-/
import MessageBus.Destination
import MessageBus.Dictionary

namespace MessageBus

inductive PropertyValue
  | bool (value : Bool)
  | int (value : Int32)
  | long (value : Int64)
  | double (value : Float)
  | string (value : String)
  deriving DecidableEq

instance : Inspect PropertyValue :=
  ⟨fun
    | .bool b => Inspect.variant "Bool" (inspect b)
    | .int n => Inspect.variant "Int" (inspect n)
    | .long n => Inspect.variant "Long" (inspect n)
    | .double x => Inspect.variant "Double" (inspect x)
    | .string s => Inspect.variant "String" (inspect s)⟩

/-- What a message carries. -/
inductive Body
  | empty
  | text (text : String)
  | bytes (bytes : List UInt8)
  | map (entries : Dictionary PropertyValue)
  deriving DecidableEq

instance : Inspect Body :=
  ⟨fun
    | .empty => "Empty"
    | .text text => Inspect.variant "Text" (inspect text)
    | .bytes bytes => Inspect.variant "Bytes" (inspect bytes)
    | .map entries => Inspect.variant "Map" (inspect entries)⟩

/-- A message as it is sent and received. -/
structure Message where
  messageId : Option String := none
  correlationId : Option String := none
  messageType : Option String := none
  replyTo : Option Destination := none
  redelivered : Bool := false
  body : Body := .empty
  properties : Dictionary PropertyValue := .empty
  deriving DecidableEq

namespace Message

instance : Inhabited Message := ⟨{}⟩

/-- A message that only carries a text. -/
def ofText (text : String) : Message := { body := .text text }

/-- A message that only carries bytes. -/
def ofBytes (bytes : List UInt8) : Message := { body := .bytes bytes }

/-- A message that only carries named values. -/
def ofMap (entries : Dictionary PropertyValue) : Message := { body := .map entries }

/-- The message with an application property, over one of the same name. -/
def withProperty (m : Message) (name : String) (value : PropertyValue) : Message :=
  { m with properties := m.properties.insert name value }

def text? (m : Message) : Option String :=
  match m.body with
  | .text text => some text
  | _ => none

/-- What the ids begin with that producers assign. -/
def assignedIdStart : String := "ID:"

instance : Inspect Message :=
  ⟨fun m => Inspect.record "Message"
    [("message_id", inspect m.messageId), ("correlation_id", inspect m.correlationId),
      ("message_type", inspect m.messageType), ("reply_to", inspect m.replyTo),
      ("redelivered", inspect m.redelivered), ("body", inspect m.body),
      ("properties", inspect m.properties)]⟩

end Message
end MessageBus
