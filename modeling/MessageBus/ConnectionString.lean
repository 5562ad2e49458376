/-
# Connection strings

A connection string names the endpoint of a namespace and how to authenticate:

    Endpoint=sb://contoso.example/;SharedAccessKeyName=policy;SharedAccessKey=secret

It is a list of segments between semicolons, each a key, an equals sign and a
value. Blanks around segments, keys and values do not count, keys are read
without regard to case, and the last segment of a key wins. Every endpoint has
to have a host, also one that a later endpoint replaces.

Key definitions:

* `segments`: the segments of a text that are not blank.
* `Draft.apply`: what one segment adds to the ones before it.
* `parse`, `render`: from and to text.
-/
import MessageBus.Endpoint
import MessageBus.Error
import MessageBus.Text

namespace MessageBus

/-- The parts of a connection string. Of the endpoint only the host is kept. -/
structure ConnectionString where
  host : String
  keyName : Option String
  key : Option String
  entityPath : Option String
  deriving DecidableEq

namespace ConnectionString

/-- The connection string of a host and a shared access key pair. -/
def ofKeyPair (host keyName key : String) : ConnectionString := ⟨host, some keyName, some key, none⟩

/-- The connection string for one queue or topic of the namespace. -/
def withEntityPath (c : ConnectionString) (path : String) : ConnectionString :=
  { c with entityPath := some path }

/-! ### Rendering -/

/-- A segment of an optional part. -/
def renderPart (key : String) : Option String → String
  | none => ""
  | some value => ";" ++ key ++ "=" ++ value

/-- The text of a connection string. Nothing in it is escaped. -/
def render (c : ConnectionString) : String :=
  "Endpoint=sb://" ++ c.host ++ "/" ++ renderPart "SharedAccessKeyName" c.keyName ++
    renderPart "SharedAccessKey" c.key ++ renderPart "EntityPath" c.entityPath

/-! ### Parsing -/

def endpointHost (endpoint : String) : Except Error String :=
  match Endpoint.parse endpoint.toList with
  | .error fault => .error (.configuration (.badEndpoint endpoint fault))
  | .ok none => .error (.configuration (.hostlessEndpoint endpoint))
  | .ok (some host) =>
    if host.render = [] then .error (.configuration (.hostlessEndpoint endpoint))
    else .ok (String.ofList host.render)

/-- The segments of a text, trimmed, without the blank ones. -/
def segments (text : List Char) : List (List Char) :=
  ((Text.cut ';' text).map Text.trim).filter (· ≠ [])

/-- What the segments read so far have given. -/
structure Draft where
  host : Option String
  keyName : Option String
  key : Option String
  entityPath : Option String
  deriving DecidableEq

def Draft.blank : Draft := ⟨none, none, none, none⟩

/-- Gives a key its value. Keys that mean nothing are passed over. -/
def Draft.set (d : Draft) (key value : String) : Except Error Draft :=
  if Text.sameIgnoringCase key "Endpoint" then do
    let host ← endpointHost value
    return { d with host := some host }
  else if Text.sameIgnoringCase key "SharedAccessKeyName" then
    return { d with keyName := some value }
  else if Text.sameIgnoringCase key "SharedAccessKey" then
    return { d with key := some value }
  else if Text.sameIgnoringCase key "EntityPath" then
    return { d with entityPath := some value }
  else return d

/-- Reads a segment. Its key ends at the first equals sign. -/
def Draft.apply (d : Draft) (segment : List Char) : Except Error Draft :=
  match Text.cutOnce '=' segment with
  | none => .error (.configuration (.malformedSegment (String.ofList segment)))
  | some (key, value) =>
    d.set (String.ofList (Text.trim key)) (String.ofList (Text.trim value))

/-- The connection string of the parts, which must include a host. -/
def Draft.finish (d : Draft) : Except Error ConnectionString :=
  match d.host with
  | none => .error (.configuration .missingEndpoint)
  | some host => .ok ⟨host, d.keyName, d.key, d.entityPath⟩

def parse (text : String) : Except Error ConnectionString := do
  let draft ← (segments text.toList).foldlM Draft.apply Draft.blank
  draft.finish

instance : Inspect ConnectionString :=
  ⟨fun c => Inspect.record "ConnectionStringBuilder"
    [("host", inspect c.host), ("sas_key_name", inspect c.keyName), ("sas_key", inspect c.key),
      ("entity_path", inspect c.entityPath)]⟩

end ConnectionString
end MessageBus
