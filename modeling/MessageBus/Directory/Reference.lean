/-
# References

An object is stored in a naming directory as a reference: its kind, the name of
the factory that decodes it, and a list of addresses, each a type and perhaps a
content. Decoding sees the properties of a reference: the content of the last
address of each type, with a missing content as the empty text.

A property is looked up without regard to the case of its name. When a
reference spells one name in several ways, the greatest spelling counts.

Key definitions:

* `Reference.get?`, `Reference.properties`: the first address of a type, and
  the contents by type.
* `Properties.find?`, `Properties.require`: the value of a property.
* `Storable`, `Storable.reference`: objects that can be stored.
-/
import MessageBus.Dictionary
import MessageBus.Error
import MessageBus.Text

namespace MessageBus

structure Address where
  type : String
  content : Option String
  deriving DecidableEq

/-- An object as it is stored in a directory. -/
structure Reference where
  kind : String
  factory : String
  addresses : List Address
  deriving DecidableEq

/-- The properties that an object is restored from. -/
abbrev Properties := Dictionary String

namespace Reference

/-- The factory that decodes the references of this library. -/
def factoryName : String := "servicebus_jms::ReferenceFactory"

/-- The reference of a kind, without addresses. -/
def ofKind (kind : String) : Reference := ⟨kind, factoryName, []⟩

/-- The reference with one more address at the end. -/
def add (r : Reference) (address : Address) : Reference :=
  { r with addresses := r.addresses ++ [address] }

/-- The first address of a type. -/
def get? (r : Reference) (type : String) : Option Address := r.addresses.find? (·.type = type)

/-- The contents by type: the last address of a type counts. -/
def properties (r : Reference) : Properties :=
  .ofList (r.addresses.map fun a => (a.type, a.content.getD ""))

instance : Inspect Address :=
  ⟨fun a => Inspect.record "RefAddr"
    [("addr_type", inspect a.type), ("content", inspect a.content)]⟩

instance : Inspect Reference :=
  ⟨fun r => Inspect.record "Reference"
    [("class_name", inspect r.kind), ("factory_name", inspect r.factory),
      ("addrs", inspect r.addresses)]⟩

end Reference

namespace Properties

/-- The value of a property: of the names equal to `name` up to case, the
greatest counts. -/
def find? (p : Properties) (name : String) : Option String :=
  ((p.entries.filter fun (key, _) => Text.sameIgnoringCase key name).getLast?).map Prod.snd

/-- The value of a property that an object of a kind needs, and that must not be
empty. -/
def require (kind : String) (p : Properties) (name : String) : Except Error String :=
  match p.find? name with
  | some value => if value = "" then .error (.requiredProperty kind name) else .ok value
  | none => .error (.requiredProperty kind name)

end Properties

/-- Objects that can be stored in a directory. -/
class Storable (α : Type) where
  kind : α → String
  /-- The properties that the object can be restored from. -/
  properties : α → Dictionary (Option String)

/-- The reference of an object: one address for each of its properties, with an
absent value as the empty text. -/
def Storable.reference {α : Type} [Storable α] (a : α) : Reference where
  kind := Storable.kind a
  factory := Reference.factoryName
  addresses := (Storable.properties a).entries.map fun (type, value) => ⟨type, some (value.getD "")⟩

/-- Objects that can be restored from their properties alone. -/
class Restorable (α : Type) extends Storable α where
  kindName : String
  restore : Properties → Except Error α

end MessageBus
