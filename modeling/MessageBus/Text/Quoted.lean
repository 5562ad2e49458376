/-
# Quoted text

A text for the eyes of a programmer: between double quotes, with `\\` before a
quote, a backslash and the letters that stand for a tab, a line break, a
carriage return and the null character. Characters that are not legible on
their own are shown by their number, `\u` and hexadecimal digits in braces.
-/
import MessageBus.Text.Quoted.Table

namespace MessageBus
namespace Text

namespace Quoted

/-- A character that a quoted text shows by its number. -/
def isIllegible (c : Char) : Bool :=
  let n := c.toNat
  if n < 0x20 then true
  else if n < 0x7F then false
  else illegibleCodes.contains n

/-- The number of a character in braces. -/
def byNumber (c : Char) : List Char :=
  ['\\', 'u', '\x7b'] ++ Nat.toDigits 16 c.toNat ++ ['\x7d']

/-- How a character stands in a quoted text. -/
def ofChar (c : Char) : List Char :=
  match c with
  | '\x00' => ['\\', '0']
  | '\t' => ['\\', 't']
  | '\r' => ['\\', 'r']
  | '\n' => ['\\', 'n']
  | '\\' => ['\\', '\\']
  | '"' => ['\\', '"']
  | c => if isIllegible c then byNumber c else [c]

end Quoted

/-- The text between double quotes, with what is not legible escaped. -/
def quoted (s : String) : String :=
  String.ofList ('"' :: s.toList.flatMap Quoted.ofChar ++ ['"'])

end Text
end MessageBus
