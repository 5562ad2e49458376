/-
# Diagnostic texts

The text of a value for a log or a console: its constructor, and its fields by
name. A type says by its `Inspect` instance which of its fields are shown; a
record that keeps some to itself ends in two dots.
-/
import MessageBus.Dictionary
import MessageBus.Number.Decimal
import MessageBus.Text.Quoted

namespace MessageBus

/-- Types whose values have a diagnostic text. -/
class Inspect (α : Type) where
  inspect : α → String

export Inspect (inspect)

namespace Inspect

/-- Texts one after the other with a comma between them. -/
def commaSeparated (items : List String) : String := ", ".intercalate items

/-- Named fields between braces, after the record's name. -/
def record (name : String) (fields : List (String × String)) : String :=
  name ++ " \x7b " ++ commaSeparated (fields.map fun (field, text) => field ++ ": " ++ text) ++ " \x7d"

/-- A record that does not show all of its fields. -/
def partialRecord (name : String) (fields : List (String × String)) : String :=
  name ++ " \x7b " ++ commaSeparated (fields.map (fun (field, text) => field ++ ": " ++ text) ++ [".."]) ++
    " \x7d"

/-- A constructor with an argument. -/
def variant (name argument : String) : String := name ++ "(" ++ argument ++ ")"

instance : Inspect String := ⟨Text.quoted⟩
instance : Inspect Bool := ⟨fun b => if b then "true" else "false"⟩
instance : Inspect Nat := ⟨toString⟩
instance : Inspect Int := ⟨toString⟩
instance : Inspect UInt8 := ⟨fun n => toString n.toNat⟩
instance : Inspect UInt64 := ⟨fun n => toString n.toNat⟩
instance : Inspect Int32 := ⟨fun n => toString n.toInt⟩
instance : Inspect Int64 := ⟨fun n => toString n.toInt⟩
instance : Inspect Float := ⟨Number.text⟩

instance {α : Type} [Inspect α] : Inspect (Option α) :=
  ⟨fun
    | none => "None"
    | some a => variant "Some" (inspect a)⟩

instance {α : Type} [Inspect α] : Inspect (List α) :=
  ⟨fun items => "[" ++ commaSeparated (items.map inspect) ++ "]"⟩

instance {α : Type} [Inspect α] : Inspect (Dictionary α) :=
  ⟨fun d => "\x7b" ++ commaSeparated (d.entries.map fun (name, value) =>
    Text.quoted name ++ ": " ++ inspect value) ++ "\x7d"⟩

end Inspect
end MessageBus
