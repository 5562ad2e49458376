/-
# JSON codecs

A codec reads and writes the values of one type. Writing is compact: no space
between the parts, floats with their shortest digits, and in strings only what
has to be escaped.

Key definitions:

* `Codec`: a reader and a writer.
* `word64`, `signed32`, `boolean`, `float`, `text`, `optional`, `list`,
  `dictionary`, `choice`: the codecs that settings are made of.
-/
import MessageBus.Dictionary
import MessageBus.Json.Reader

namespace MessageBus
namespace Json

/-- Reads and writes the values of a type. -/
structure Codec (α : Type) where
  read : Reader α
  write : α → List Char

/-! ### Writing -/

/-- The hexadecimal digit of a number below sixteen. -/
def hexDigit (n : Nat) : Char := (Nat.toDigits 16 n).headD '0'

/-- How a character stands in a string. -/
def escapeChar (c : Char) : List Char :=
  match c with
  | '"' => ['\\', '"']
  | '\\' => ['\\', '\\']
  | '\x08' => ['\\', 'b']
  | '\x0c' => ['\\', 'f']
  | '\n' => ['\\', 'n']
  | '\r' => ['\\', 'r']
  | '\t' => ['\\', 't']
  | c =>
    if c.toNat < 0x20 then ['\\', 'u', '0', '0', hexDigit (c.toNat / 16), hexDigit (c.toNat % 16)]
    else [c]

def writeString (s : String) : List Char := '"' :: s.toList.flatMap escapeChar ++ ['"']

def writeInt (n : Int) : List Char :=
  if n < 0 then '-' :: Number.digitsOf n.natAbs else Number.digitsOf n.natAbs

/-- A float, or `null` when it is not finite. -/
def writeFloat (x : Float) : List Char :=
  (Number.finiteText? floatLayout x).getD ['n', 'u', 'l', 'l']

/-- Elements between brackets. -/
def writeList (items : List (List Char)) : List Char :=
  '[' :: Text.join [','] items ++ [']']

def writeMember (name : String) (value : List Char) : List Char :=
  writeString name ++ ':' :: value

/-- Members between braces. -/
def writeObject (members : List (String × List Char)) : List Char :=
  '\x7b' :: Text.join [','] (members.map fun (name, value) => writeMember name value) ++ ['\x7d']

/-! ### Codecs -/

/-- Reads a number that `accept` takes. -/
def readNumber {α : Type} (expected : String) (accept : Value → Except Problem α) : Reader α :=
  readBy expected fun c rest =>
    if c = '-' ∨ c.isDigit then
      some do
        let (value, rest) ← readValue (c :: rest)
        return (← accept value, rest)
    else none

def acceptInt (expected : String) (least most : Int) : Value → Except Problem Int
  | .integer n =>
    if least ≤ n ∧ n ≤ most then .ok n else .error (.wrongValue (.integer n) expected)
  | .float x => .error (.wrongType (.float x) expected)

def word64 : Codec UInt64 where
  read := readNumber "u64" fun value =>
    (acceptInt "u64" 0 (UInt64.size - 1) value).map fun n => UInt64.ofNat n.toNat
  write n := writeInt n.toNat

def signed32 : Codec Int32 where
  read := readNumber "i32" fun value =>
    (acceptInt "i32" Int32.minValue.toInt Int32.maxValue.toInt value).map Int32.ofInt
  write n := writeInt n.toInt

def Value.toFloat : Value → Float
  | .integer n => if n < 0 then -(Float.ofNat n.natAbs) else Float.ofNat n.natAbs
  | .float x => x

/-- Floats. One that is not finite is written as `null`. -/
def float : Codec Float where
  read := readNumber "f64" fun value => .ok value.toFloat
  write := writeFloat

def boolean : Codec Bool where
  read := readBy "a boolean" fun c rest =>
    if c = 't' then some ((readWord ['r', 'u', 'e'] rest).map fun rest => (true, rest))
    else if c = 'f' then some ((readWord ['a', 'l', 's', 'e'] rest).map fun rest => (false, rest))
    else none
  write b := if b then ['t', 'r', 'u', 'e'] else ['f', 'a', 'l', 's', 'e']

/-- Strings, under the name by which a problem calls what is expected. -/
def textAs (expected : String) : Codec String where
  read := readBy expected fun c rest => if c = '"' then some (readString rest) else none
  write := writeString

def text : Codec String := textAs "a string"

def optional {α : Type} (codec : Codec α) : Codec (Option α) where
  read s :=
    match skipSpace s with
    | 'n' :: rest => (readWord ['u', 'l', 'l'] rest).map fun rest => (none, rest)
    | rest => (codec.read rest).map fun (value, rest) => (some value, rest)
  write
    | none => ['n', 'u', 'l', 'l']
    | some value => codec.write value

def list {α : Type} (codec : Codec α) : Codec (List α) where
  read := readBy "a sequence" fun c rest =>
    if c = '[' then some (readList codec.read rest) else none
  write items := writeList (items.map codec.write)

/-- Dictionaries. The last of several members of one name wins. -/
def dictionary {α : Type} (codec : Codec α) : Codec (Dictionary α) where
  read := readBy "a map" fun c rest =>
    if c = '\x7b' then
      some (readMembers (fun name d => .ok fun s =>
        (codec.read s).map fun (value, rest) => (d.insert name value, rest)) .empty rest)
    else none
  write d := writeObject (d.entries.map fun (name, value) => (name, codec.write value))

def readUnit : Reader Unit :=
  readBy "unit" fun c rest =>
    if c = 'n' then some ((readWord ['u', 'l', 'l'] rest).map fun rest => ((), rest)) else none

/-- The alternative of a name. -/
def chosen {α : Type} (alternatives : List (String × α)) (name : String) : Except Problem α :=
  match alternatives.find? fun alternative => alternative.1 == name with
  | some (_, value) => .ok value
  | none => .error (.unknownVariant name (alternatives.map Prod.fst))

/-- One of several named alternatives: its name, or an object whose only member
has that name and the value `null`. -/
def choice {α : Type} [BEq α] (alternatives : List (String × α)) : Codec α where
  read s :=
    match skipSpace s with
    | [] => .error .endOfValue
    | c :: rest =>
      if c = '"' then do
        let (name, rest) ← readString rest
        return (← chosen alternatives name, rest)
      else if c = '\x7b' then do
        let (name, rest) ← (textAs "variant identifier").read rest
        let value ← chosen alternatives name
        let rest ← readColon rest
        let ((), rest) ← readUnit rest
        match skipSpace rest with
        | [] => .error .endOfObject
        | d :: rest => if d = '\x7d' then return (value, rest) else .error .valueExpected
      else .error .valueExpected
  write value :=
    match alternatives.find? fun alternative => alternative.2 == value with
    | some (name, _) => writeString name
    | none => []

end Json
end MessageBus
