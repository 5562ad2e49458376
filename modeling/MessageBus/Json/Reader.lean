/-
# Reading JSON texts

A reader takes a value of a known type from the front of a text and leaves the
rest. What is wrong is reported where it is met from left to right: a value of
a wrong type as soon as it is read, before anything that follows it.

Key definitions:

* `Reader`: a value and the rest of the text, or the first problem.
* `readText`, `readList`, `readMembers`: the readers of strings, lists and
  objects.
* `wrongType`: the problem that a value of another type makes.
-/
import MessageBus.Json.Number
import MessageBus.Text.CodeRange

namespace MessageBus
namespace Json

/-- Takes a value from the front of a text. -/
abbrev Reader (α : Type) := List Char → Except Problem (α × List Char)

/-- The four characters that may stand between the parts of a text. -/
def isSpace (c : Char) : Bool := c == ' ' || c == '\n' || c == '\t' || c == '\r'

/-- The text from its first character that is no space. -/
def skipSpace (s : List Char) : List Char := s.dropWhile isSpace

/-! ### Strings -/

/-- The character that a letter after a backslash stands for. -/
def shortEscape? : Char → Option Char
  | '"' => some '"'
  | '\\' => some '\\'
  | '/' => some '/'
  | 'b' => some '\x08'
  | 'f' => some '\x0c'
  | 'n' => some '\n'
  | 'r' => some '\r'
  | 't' => some '\t'
  | _ => none

/-- The number that four hexadecimal digits write. -/
def hexUnit? (a b c d : Char) : Option Nat :=
  match Text.hexDigit? a, Text.hexDigit? b, Text.hexDigit? c, Text.hexDigit? d with
  | some a, some b, some c, some d => some (((a * 16 + b) * 16 + c) * 16 + d)
  | _, _, _, _ => none

/-- The problem with an escape cut short: the text ends within the four bytes
of its digits, or they are not all digits. -/
def shortHex (s : List Char) : Problem :=
  if 4 ≤ s.foldl (fun size c => size + c.utf8Size) 0 then .badEscape else .endOfString

/-- The first of the two units that write a character beyond 16 bits. -/
def isLead (unit : Nat) : Bool := 0xD800 ≤ unit && unit ≤ 0xDBFF

/-- The second of the two units that write a character beyond 16 bits. -/
def isTrail (unit : Nat) : Bool := 0xDC00 ≤ unit && unit ≤ 0xDFFF

/-- The character that two units write. -/
def pairedChar (lead trail : Nat) : Char :=
  Char.ofNat ((lead - 0xD800) * 0x400 + (trail - 0xDC00) + 0x10000)

/-- One more character in front of a string that has been read. -/
def prepend (c : Char) (r : Except Problem (List Char × List Char)) :
    Except Problem (List Char × List Char) :=
  r.map fun (text, rest) => (c :: text, rest)

/-- The characters of a string up to its closing quote. -/
def readTextBody : List Char → Except Problem (List Char × List Char)
  | [] => .error .endOfString
  | c :: rest =>
    if c = '"' then .ok ([], rest)
    else if c = '\\' then
      match rest with
      | [] => .error .endOfString
      | e :: rest =>
        if e = 'u' then
          match rest with
          | a :: b :: c :: d :: rest =>
            match hexUnit? a b c d with
            | none => .error .badEscape
            | some unit =>
              if isTrail unit then .error .loneSurrogate
              else if isLead unit then
                match rest with
                | [] => .error .endOfString
                | x :: rest =>
                  if x = '\\' then
                    match rest with
                    | [] => .error .endOfString
                    | y :: rest =>
                      if y = 'u' then
                        match rest with
                        | a :: b :: c :: d :: rest =>
                          match hexUnit? a b c d with
                          | none => .error .badEscape
                          | some second =>
                            if isTrail second then
                              prepend (pairedChar unit second) (readTextBody rest)
                            else .error .loneSurrogate
                        | short => .error (shortHex short)
                      else .error .halfSurrogate
                  else .error .halfSurrogate
              else prepend (Char.ofNat unit) (readTextBody rest)
          | short => .error (shortHex short)
        else match shortEscape? e with
          | some c => prepend c (readTextBody rest)
          | none => .error .badEscape
    else if c.toNat < 0x20 then .error .controlCharacter
    else prepend c (readTextBody rest)

/-- The string at the front of a text, after its opening quote. -/
def readString : Reader String := fun s =>
  (readTextBody s).map fun (text, rest) => (String.ofList text, rest)

/-! ### Values of a wrong type -/

/-- The rest of a text after the letters of a word. -/
def readWord : List Char → List Char → Except Problem (List Char)
  | [], rest => .ok rest
  | _ :: _, [] => .error .endOfValue
  | letter :: word, c :: rest => if c = letter then readWord word rest else .error .wordExpected

/-- What stands at the front of a text. Lists and objects are not looked into. -/
def readFound (s : List Char) : Except Problem Found :=
  match s with
  | [] => .error .valueExpected
  | c :: rest =>
    if c = 'n' then (readWord ['u', 'l', 'l'] rest).map fun _ => .null
    else if c = 't' then (readWord ['r', 'u', 'e'] rest).map fun _ => .boolean true
    else if c = 'f' then (readWord ['a', 'l', 's', 'e'] rest).map fun _ => .boolean false
    else if c = '-' ∨ c.isDigit then (readValue s).map fun (value, _) => value.found
    else if c = '"' then (readString rest).map fun (text, _) => .text text
    else if c = '[' then .ok .sequence
    else if c = '\x7b' then .ok .map
    else .error .valueExpected

/-- The problem with a value that is not of the expected type. -/
def wrongType (expected : String) (s : List Char) : Problem :=
  match readFound s with
  | .ok found => .wrongType found expected
  | .error problem => problem

/-- Reads a value by its first character; none rejects the value as one of a
wrong type. -/
def readBy (expected : String) {α : Type}
    (choose : Char → List Char → Option (Except Problem (α × List Char))) : Reader α := fun s =>
  match skipSpace s with
  | [] => .error .endOfValue
  | c :: rest =>
    match choose c rest with
    | some result => result
    | none => .error (wrongType expected (c :: rest))

/-! ### Lists and objects -/

/-- The position of the next element of a list, or the rest after its end. -/
def nextElement (first : Bool) (s : List Char) : Except Problem (List Char ⊕ List Char) :=
  match skipSpace s with
  | [] => .error .endOfList
  | c :: rest =>
    if c = ']' then .ok (.inr rest)
    else if first then .ok (.inl (c :: rest))
    else if c = ',' then
      match skipSpace rest with
      | [] => .error .endOfValue
      | d :: after => if d = ']' then .error .trailingComma else .ok (.inl (d :: after))
    else .error .listCommaExpected

/-- Reads elements to the end of a list, at most `fuel` of them. A text of
length `n` holds fewer than `n` elements. -/
def readElements {α : Type} (element : Reader α) : Nat → Bool → Reader (List α)
  | 0, _, _ => .error .endOfList
  | fuel + 1, first, s => do
    match ← nextElement first s with
    | .inr rest => return ([], rest)
    | .inl s =>
      let (value, rest) ← element s
      let (values, rest) ← readElements element fuel false rest
      return (value :: values, rest)

/-- Reads the elements of a list after its opening bracket. -/
def readList {α : Type} (element : Reader α) : Reader (List α) := fun s =>
  readElements element (s.length + 1) true s

/-- The name of the next member of an object and the position after it, or the
rest after the object's end. -/
def nextMember (first : Bool) (s : List Char) :
    Except Problem ((String × List Char) ⊕ List Char) :=
  let name (s : List Char) := (readString s).map Sum.inl
  match skipSpace s with
  | [] => .error .endOfObject
  | c :: rest =>
    if c = '\x7d' then .ok (.inr rest)
    else if first then
      if c = '"' then name rest else .error .keyNotString
    else if c = ',' then
      match skipSpace rest with
      | [] => .error .endOfValue
      | d :: after =>
        if d = '"' then name after
        else if d = '\x7d' then .error .trailingComma
        else .error .keyNotString
    else .error .objectCommaExpected

/-- The rest of a text after the colon of a member. -/
def readColon (s : List Char) : Except Problem (List Char) :=
  match skipSpace s with
  | [] => .error .endOfObject
  | c :: rest => if c = ':' then .ok rest else .error .colonExpected

/-- Reads members to the end of an object, at most `fuel` of them. A member's
name may be refused before its value is read. -/
def readMembersFrom {σ : Type} (accept : String → σ → Except Problem (Reader σ)) :
    Nat → Bool → σ → Reader σ
  | 0, _, _, _ => .error .endOfObject
  | fuel + 1, first, state, s => do
    match ← nextMember first s with
    | .inr rest => return (state, rest)
    | .inl (name, rest) =>
      let value ← accept name state
      let rest ← readColon rest
      let (state, rest) ← value rest
      readMembersFrom accept fuel false state rest

/-- Reads the members of an object after its opening brace, each into the state
that the ones before it left. -/
def readMembers {σ : Type} (accept : String → σ → Except Problem (Reader σ)) (start : σ) :
    Reader σ := fun s =>
  readMembersFrom accept (s.length + 1) true start s

/-- Reads a whole text. -/
def readAll {α : Type} (read : Reader α) (text : String) : Except Problem α := do
  let (value, rest) ← read text.toList
  match skipSpace rest with
  | [] => return value
  | _ :: _ => .error .trailingCharacters

end Json
end MessageBus
