/-
# Domain names

A domain name is a list of labels between dots. A name with characters beyond
ASCII is first mapped (letters to lower case, wide and compatible forms to
their plain characters, some signs dropped) and composed; then each of its
labels is written in ASCII, `xn--` and the Punycode of the label. A label that
comes already written so has to be the written form of a well-formed label.

Key definitions:

* `mapped?`: the characters of a name after mapping.
* `wellFormed`: what a label beyond ASCII may hold, and in which order.
* `toAscii`: the name in ASCII.
-/
import MessageBus.Host.Domain.Punycode
import MessageBus.Host.Domain.Table
import MessageBus.Error
import MessageBus.Text.Normal

namespace MessageBus
namespace Domain

/-- What a character becomes; none when no domain name may hold it. -/
def mapChar? (c : Char) : Option (List Char) :=
  let code := c.toNat
  if code < 0x80 then some [c.toLower]
  else if refusedCodes.contains code then none
  else if droppedCodes.contains code then some []
  else match replacedCodes.image? code with
    | some image => some [Char.ofNat image]
    | none => match expandedCodes.find? (·.1 = code) with
      | some (_, image) => some (image.map Char.ofNat)
      | none => some [c]

/-- The characters of a name after mapping. -/
def mapped? (name : List Char) : Option (List Char) :=
  (name.mapM mapChar?).map List.flatten

/-- Whether mapping leaves a label as it is. -/
def isMapped (label : List Char) : Bool :=
  match mapped? label with
  | some text => Text.composed text == label
  | none => false

/-! ### Well-formed labels -/

/-- Zero-width characters that join letters or keep them apart. -/
def isJoiner (c : Char) : Bool := c.toNat == 0x200C || c.toNat == 0x200D

/-- Whether a non-joiner stands between letters that would join, whatever marks stand
there too. The text before it is given from its end. -/
def betweenJoining (before after : List Char) : Bool :=
  let first (s : List Char) := (s.dropWhile fun c => transparentCodes.contains c.toNat).head?
  match first before, first after with
  | some b, some a => joiningAfterCodes.contains b.toNat && joiningBeforeCodes.contains a.toNat
  | _, _ => false

/-- Every joiner stands after a virama, or is a non-joiner between letters that
would join. The text before is given from its end. -/
def joinersAllowed (before : List Char) : List Char → Bool
  | [] => true
  | c :: rest =>
    (!isJoiner c || (match before with
      | [] => false
      | b :: _ => viramaCodes.contains b.toNat) ||
      (c.toNat == 0x200C && betweenJoining before rest)) &&
    joinersAllowed (c :: before) rest

/-- The part a character plays in the direction of a label. -/
inductive Direction
  | leftToRight
  | rightToLeft
  | arabicNumber
  | europeanNumber
  | neutral
  | mark
  deriving DecidableEq

def direction (c : Char) : Direction :=
  let code := c.toNat
  if rightToLeftCodes.contains code then .rightToLeft
  else if arabicNumberCodes.contains code then .arabicNumber
  else if europeanNumberCodes.contains code then .europeanNumber
  else if spacelessCodes.contains code then .mark
  else if neutralCodes.contains code then .neutral
  else .leftToRight

/-- The direction of the last character that is no mark. -/
def lastDirection? (directions : List Direction) : Option Direction :=
  (directions.reverse.dropWhile (· = .mark)).head?

/-- Whether a label keeps to the direction of its first character. -/
def keepsDirection (label : List Char) : Bool :=
  let directions := label.map direction
  match directions with
  | [] => true
  | .rightToLeft :: _ =>
    !directions.contains .leftToRight &&
      (match lastDirection? directions with
        | some .rightToLeft | some .europeanNumber | some .arabicNumber => true
        | _ => false) &&
      !(directions.contains .europeanNumber && directions.contains .arabicNumber)
  | .leftToRight :: _ =>
    !directions.contains .rightToLeft && !directions.contains .arabicNumber &&
      (match lastDirection? directions with
        | some .leftToRight | some .europeanNumber => true
        | _ => false)
  | _ => false

/-- Whether a label holds letters or digits written from right to left. -/
def hasRightToLeft (label : List Char) : Bool :=
  label.any fun c => direction c = .rightToLeft || direction c = .arabicNumber

def isBeyondAscii (c : Char) : Bool := 0x80 ≤ c.toNat

/-- A label begins with no mark, and its joiners stand where they may. -/
def wellFormed (label : List Char) : Bool :=
  (match label with
    | [] => true
    | c :: _ => !markCodes.contains c.toNat) &&
  joinersAllowed [] label

/-- The ASCII characters that no name of a host may hold. -/
def isForbidden (c : Char) : Bool :=
  c.toNat ≤ 0x20 || c.toNat == 0x7F || "%#/:<>?@[\\]^|".toList.contains c

/-! ### Names -/

/-- What marks a label as written in ASCII. -/
def asciiMark : List Char := ['x', 'n', '-', '-']

/-- The label that a label of a mapped name stands for. -/
def label? (text : List Char) : Option (List Char) :=
  if asciiMark.isPrefixOf text then
    match Punycode.decode? (text.drop 4) with
    | some label => if label.any isBeyondAscii && isMapped label then some label else none
    | none => none
  else some text

def writeLabel (label : List Char) : List Char :=
  if label.any isBeyondAscii then asciiMark ++ Punycode.encode label else label

/-- The name in ASCII. -/
def toAscii (name : List Char) : Except AddressFault (List Char) :=
  let labels? := (mapped? name).bind fun text =>
    (Text.cut '.' (Text.composed text)).mapM label?
  match labels? with
  | none => .error .badInternationalName
  | some labels =>
    let formed := labels.all fun label => !label.any isBeyondAscii || wellFormed label
    let directed := !labels.any hasRightToLeft || labels.all keepsDirection
    let written := Text.join ['.'] (labels.map writeLabel)
    if formed && directed && !written.any isForbidden && !labels.any (·.any isForbidden) then
      .ok written
    else .error .badInternationalName

end Domain
end MessageBus
