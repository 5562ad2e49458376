/-
# Endpoints

An endpoint is an address such as `sb://contoso.example:5671/`, of which only
the host matters. Reading it is reading an address: the scheme, the authority
after two slashes, in it user information before an `@` and a port after a
colon. What follows the authority cannot be wrong.

The schemes of the web (`http`, `https`, `ws`, `wss`, `ftp`) need a host and
take backslashes for slashes; a `file` address may have a host, unless it names
this machine or a drive.
-/
import MessageBus.Host

namespace MessageBus
namespace Endpoint

/-- Spaces and control characters, which are dropped at both ends. -/
def isEdge (c : Char) : Bool := c.toNat ≤ 0x20

/-- Tabs and line breaks, which are dropped everywhere. -/
def isDropped (c : Char) : Bool := c == '\t' || c == '\n' || c == '\r'

/-- The characters of an address that count. -/
def significant (text : List Char) : List Char :=
  (((text.dropWhile isEdge).reverse.dropWhile isEdge).reverse).filter fun c => !isDropped c

/-- The characters of a scheme after its first letter. -/
def isSchemeChar (c : Char) : Bool := c.isAlphanum || c == '+' || c == '-' || c == '.'

/-- The scheme, in lower case, and what follows its colon. -/
def scheme? (text : List Char) : Option (List Char × List Char) :=
  match text with
  | [] => none
  | c :: _ =>
    if c.isAlpha then
      match text.dropWhile isSchemeChar with
      | ':' :: rest => some ((text.takeWhile isSchemeChar).map Char.toLower, rest)
      | _ => none
    else none

/-- How addresses of a scheme are read. -/
inductive SchemeKind
  | web
  | file
  | other
  deriving DecidableEq

def schemeKind (scheme : List Char) : SchemeKind :=
  if scheme = "file".toList then .file
  else if ["http", "https", "ws", "wss", "ftp"].any fun name => name.toList == scheme then .web
  else .other

/-- A slash, or a backslash where it stands for one. -/
def isSlash (web : Bool) (c : Char) : Bool := c == '/' || (web && c == '\\')

/-- The characters that end an authority. -/
def endsAuthority (web : Bool) (c : Char) : Bool := isSlash web c || c == '?' || c == '#'

/-- Whether user information holds a user name or a password. -/
def namesUser (userInfo : List Char) : Bool := userInfo ≠ [] && userInfo ≠ [':']

/-- The host part of an authority, up to a colon outside of brackets, and the
rest. -/
def spanHost (inBrackets : Bool) : List Char → List Char × List Char
  | [] => ([], [])
  | c :: rest =>
    if c = ':' ∧ ¬ inBrackets then ([], c :: rest)
    else
      let (host, after) :=
        spanHost (if c = '[' then true else if c = ']' then false else inBrackets) rest
      (c :: host, after)

def ofDigits (digits : List Char) : Nat :=
  digits.foldl (fun n c => n * 10 + (c.toNat - '0'.toNat)) 0

/-- The port after the host of an authority is absent, or a colon and digits
that write a number of sixteen bits, up to a slash or backslash. -/
def portAllowed (rest : List Char) : Bool :=
  match rest with
  | ':' :: port =>
    ofDigits (port.takeWhile Char.isDigit) < UInt16.size &&
      (match port.dropWhile Char.isDigit with
        | [] => true
        | c :: _ => c == '\\')
  | _ => true

/-- The host of an authority, given what follows the two slashes. -/
def authorityHost (web : Bool) (text : List Char) : Except AddressFault (Option Host) := do
  let authority := text.takeWhile fun c => !endsAuthority web c
  let continued := authority.length ≠ text.length
  let (userInfo?, place) := match Text.cutLast '@' authority with
    | some (userInfo, place) => (some userInfo, place)
    | none => (none, authority)
  if userInfo? = some [] ∧ place = [] ∧ continued then throw .emptyHost
  let (host, rest) := spanHost false place
  if web ∧ host = [] then throw .emptyHost
  let parsed ← if web then Host.parseWeb host else Host.parseVerbatim host
  if host = [] ∧ rest ≠ [] then throw .emptyHost
  if ¬ portAllowed rest then throw .badPort
  if host = [] then
    if (userInfo?.map namesUser).getD false then throw .emptyHost
    return none
  return some parsed

/-- A letter and a colon or bar, which name a drive. -/
def isDrive (segment : List Char) : Bool :=
  match segment with
  | [letter, mark] => letter.isAlpha && (mark == ':' || mark == '|')
  | _ => false

/-- A path segment that means its own directory. -/
def isDot (segment : List Char) : Bool :=
  let s := segment.map Char.toLower
  s == ".".toList || s == "%2e".toList

/-- A path segment that means the directory above. -/
def isDotDot (segment : List Char) : Bool :=
  let s := segment.map Char.toLower
  ["..", "%2e.", ".%2e", "%2e%2e"].any fun name => name.toList == s

/-- Whether a path names a drive at its top, given how deep it has gone. -/
def namesDrive : Nat → List (List Char) → Bool
  | _, [] => false
  | depth, segment :: rest =>
    if isDotDot segment then namesDrive (depth - 1) rest
    else if isDot segment then namesDrive depth rest
    else (depth == 0 && isDrive segment) || namesDrive (depth + 1) rest

def pathSegments (path : List Char) : List (List Char) :=
  Text.cut '/' ((path.takeWhile fun c => c != '?' && c != '#').map fun c =>
    if c = '\\' then '/' else c)

/-- The host of a `file` address, given what follows the colon. -/
def fileHost (text : List Char) : Except AddressFault (Option Host) := do
  let a :: b :: text := text | return none
  if ¬ (isSlash true a ∧ isSlash true b) then return none
  let host := text.takeWhile fun c => !endsAuthority true c
  if host = [] ∨ isDrive host then return none
  let parsed ← Host.parseWeb host
  if parsed = .name "localhost".toList then return none
  let path := text.drop (host.length + 1)
  if namesDrive 0 (pathSegments path) ∧ (text.drop host.length).head?.any (isSlash true) then
    return none
  return some parsed

/-- The host of an address, if it has one. -/
def parse (text : List Char) : Except AddressFault (Option Host) :=
  match scheme? (significant text) with
  | none => .error .relative
  | some (scheme, rest) =>
    match schemeKind scheme with
    | .web => authorityHost true (rest.dropWhile (isSlash true))
    | .file => fileHost rest
    | .other =>
      match rest with
      | '/' :: '/' :: rest => authorityHost false rest
      | _ => .ok none

end Endpoint
end MessageBus
