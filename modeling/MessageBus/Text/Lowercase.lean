/-
# Lower-casing

The lower-case form of a text in the whole of Unicode. Each character goes to
its lower-case letter on its own, with two exceptions: the dotted capital I
becomes an i and a combining dot, and a capital sigma at the end of a word
becomes the final sigma.
-/
import MessageBus.Text.Lowercase.Table

namespace MessageBus
namespace Text

namespace Lowercase

def isCased (c : Char) : Bool := casedCodes.contains c.toNat

/-- A mark or sign that does not interrupt a word. -/
def isIgnorable (c : Char) : Bool := ignorableCodes.contains c.toNat

/-- Whether the first character that is not ignorable is a cased letter. -/
def meetsCased (s : List Char) : Bool :=
  match s.dropWhile isIgnorable with
  | [] => false
  | c :: _ => isCased c

/-- A capital sigma between these texts stands at the end of a word. The text
before it is given from its end. -/
def endsWord (before after : List Char) : Bool := meetsCased before && !meetsCased after

/-- The lower-case form of a character between the given texts, the one before
it given from its end. -/
def ofChar (before : List Char) (c : Char) (after : List Char) : List Char :=
  if c.toNat < 0x80 then [c.toLower]
  else if c = '\u0130' then ['i', '\u0307']
  else if c = '\u03A3' then [if endsWord before after then '\u03C2' else '\u03C3']
  else match runs.image? c.toNat with
    | some code => [Char.ofNat code]
    | none => [c]

/-- The lower-case form of a text that follows `before`, given from its end. -/
def after (before : List Char) : List Char → List Char
  | [] => []
  | c :: rest => ofChar before c rest ++ after (c :: before) rest

end Lowercase

/-- The lower-case form of a text. -/
def lowercase (s : String) : String := String.ofList (Lowercase.after [] s.toList)

end Text
end MessageBus
