/-
# Hosts

The host of an address: a name, an IPv4 or an IPv6 address. Under the schemes
of the web a host is percent-decoded, then it is a domain name in ASCII or an
IPv4 address. Under any other scheme a host is kept as it is written, with
control characters and characters beyond ASCII percent-encoded. Square
brackets always hold an IPv6 address.

A byte of a character's UTF-8 form is percent-encoded as `%` and two
hexadecimal digits. Decoding replaces every such group, whatever the byte, and
leaves a `%` that begins no group as it is.
-/
import MessageBus.Host.Domain
import MessageBus.Host.Ipv4
import MessageBus.Host.Ipv6

namespace MessageBus

/-! ### Percent encoding -/

namespace Text

/-- The upper-case hexadecimal digit of a number below sixteen. -/
def upperHexDigit (n : Nat) : Char := ((Nat.toDigits 16 n).headD '0').toUpper

/-- A byte as `%` and two digits. -/
def percentByte (byte : UInt8) : List Char :=
  ['%', upperHexDigit (byte.toNat / 16), upperHexDigit (byte.toNat % 16)]

/-- The UTF-8 form of a character, byte by byte. -/
def percentChar (c : Char) : List Char := (String.utf8EncodeChar c).flatMap percentByte

/-- The text with the characters that satisfy `p` percent-encoded. -/
def percentEncode (p : Char → Bool) (s : List Char) : List Char :=
  s.flatMap fun c => if p c then percentChar c else [c]

/-- The bytes of a text, with its percent groups decoded. -/
def percentDecode : List Char → List UInt8
  | [] => []
  | c :: rest =>
    match c, rest with
    | '%', a :: b :: after =>
      match Text.hexDigit? a, Text.hexDigit? b with
      | some a, some b => UInt8.ofNat (a * 16 + b) :: percentDecode after
      | _, _ => 0x25 :: percentDecode (a :: b :: after)
    | c, rest => String.utf8EncodeChar c ++ percentDecode rest

/-- The characters of a text with its percent groups decoded, when the bytes
are UTF-8. -/
def percentDecoded? (s : List Char) : Option (List Char) :=
  (String.fromUTF8? ⟨(percentDecode s).toArray⟩).map String.toList

end Text

/-! ### Hosts -/

inductive Host
  | name (text : List Char)
  | ipv4 (address : Nat)
  | ipv6 (address : List Nat)
  deriving DecidableEq

namespace Host

def render : Host → List Char
  | .name text => text
  | .ipv4 address => Ipv4.render address
  | .ipv6 address => '[' :: Ipv6.render address ++ [']']

/-- An IPv6 address in brackets. -/
def parseBracketed (text : List Char) : Except AddressFault Host :=
  if text.getLast? = some ']' then (Ipv6.parse text.tail.dropLast).map .ipv6
  else .error .badIpv6

def isForbidden (c : Char) : Bool := "\x00\t\n\r #/:<>?@[\\]^|".toList.contains c

def isEncoded (c : Char) : Bool := c.toNat < 0x20 || 0x7F ≤ c.toNat

/-- A host that is kept as it is written. -/
def parseVerbatim (text : List Char) : Except AddressFault Host :=
  if text.head? = some '[' then parseBracketed text
  else if text.any isForbidden then .error .badHostCharacter
  else .ok (.name (Text.percentEncode isEncoded text))

/-- A host under a scheme of the web. -/
def parseWeb (text : List Char) : Except AddressFault Host :=
  if text.head? = some '[' then parseBracketed text
  else match Text.percentDecoded? text with
    | none => .error .badInternationalName
    | some decoded => do
      let name ← Domain.toAscii decoded
      if name = [] then .error .emptyHost
      else if Ipv4.endsInNumber name then (Ipv4.parse name).map .ipv4
      else .ok (.name name)

end Host
end MessageBus
