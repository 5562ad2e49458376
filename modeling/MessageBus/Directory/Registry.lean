/-
# Registries

A registry decodes references: for every kind that is registered it knows how
to make an object from properties. Registering a kind again replaces what was
known about it. The objects of a registry share one type, which collects the
types that are stored. Looking an object up also reports what can only be a
mistake: a kind that nothing is registered for, and an object that is no
reference. What a constructor fails with is not reported.

Key definitions:

* `Registry.decode`: the object of a reference.
* `Registry.objectOf`: the same for anything, which may be no reference.
* `Registry.instanceOf`: the object as one of a given type.
* `Registry.lookUp`, `Registry.lookUpAs`: the same, with mistakes reported.
-/
import MessageBus.Client.Program
import MessageBus.Directory.Reference

namespace MessageBus

/-- The objects of `α` among the objects of `ω`. -/
class Member (α ω : Type) where
  embed : α → ω
  project? : ω → Option α

/-- Makes an object from the properties of a reference. -/
abbrev Constructor (ω : Type) := Properties → Except Error ω

/-- What is known about the kinds that are registered. -/
structure Registry (ω : Type) where
  constructors : Dictionary (Constructor ω)

namespace Registry

variable {ω : Type}

/-- The registry that knows no kind. -/
def empty : Registry ω := ⟨.empty⟩

instance : Inhabited (Registry ω) := ⟨empty⟩

def registerWith (g : Registry ω) (kind : String) (constructor : Constructor ω) : Registry ω :=
  ⟨g.constructors.insert kind constructor⟩

/-- Registers a type of objects under its kind. -/
def register (α : Type) [Restorable α] [Member α ω] (g : Registry ω) : Registry ω :=
  g.registerWith (Restorable.kindName α) fun p =>
    (Restorable.restore p : Except Error α).map (Member.embed (ω := ω))

def isRegistered (g : Registry ω) (kind : String) : Bool := (g.constructors.get? kind).isSome

def decode (g : Registry ω) (r : Reference) : Except Error ω :=
  match g.constructors.get? r.kind with
  | none => .error (.unknownKind r.kind)
  | some constructor => constructor r.properties

/-- The object of anything that may be a reference. -/
def objectOf (g : Registry ω) : Option Reference → Except Error ω
  | none => .error .notAReference
  | some r => g.decode r

/-- The object of a reference as one of a given type. -/
def instanceOf (α : Type) [Member α ω] (g : Registry ω) (r : Reference) : Except Error α :=
  match g.decode r with
  | .error e => .error e
  | .ok object => match Member.project? (α := α) object with
    | some a => .ok a
    | none => .error (.kindMismatch r.kind)

/-! ### Looking objects up -/

/-- What is reported about an object that may be a reference. -/
def mistake? (g : Registry ω) : Option Reference → Option Event
  | none => some { message := "object handed to the reference factory is not a reference" }
  | some r =>
    if g.isRegistered r.kind then none
    else some { message := "unknown storable kind", kind := some r.kind }

/-- Reports a mistake about an object that may be a reference. -/
def reportMistake (g : Registry ω) (object : Option Reference) : Operation Unit :=
  match g.mistake? object with
  | none => return ()
  | some event => report event

/-- The object of anything that may be a reference, with mistakes reported. -/
def lookUp (g : Registry ω) (object : Option Reference) : Operation ω := do
  g.reportMistake object
  fromOutcome (g.objectOf object)

/-- The object of a reference as one of a given type, with mistakes reported. -/
def lookUpAs (α : Type) [Member α ω] (g : Registry ω) (r : Reference) : Operation α := do
  g.reportMistake (some r)
  fromOutcome (g.instanceOf α r)

instance : Inspect (Registry ω) :=
  ⟨fun g => Inspect.record "ReferenceFactory" [("kinds", inspect g.constructors.names)]⟩

end Registry
end MessageBus
