/-
# Settings

Everything about a connection factory that can be tuned: the transport, how
long idle queues, topics and subscribers live, free options for the client
library, and how it reconnects. A tuning value that is absent leaves the choice
to the client library; an explicit zero or `false` does not.

Key definitions:

* `Settings`: the values; `{}` has reconnecting on and all else unset.
* `Settings.Change`, `Settings.apply`: one change to them. A change to the
  reconnect hosts by connection strings can fail.
-/
import MessageBus.ConnectionString

namespace MessageBus

/-- What becomes of the reconnect hosts when the broker announces a list of
servers: its list replaces them, is added to them or is ignored. -/
inductive MergeAction
  | replace
  | add
  | ignore
  deriving DecidableEq, BEq, ReflBEq, LawfulBEq

def MergeAction.text : MergeAction → String
  | .replace => "REPLACE"
  | .add => "ADD"
  | .ignore => "IGNORE"

def MergeAction.all : List MergeAction := [.replace, .add, .ignore]

/-- The proxy that the transport goes through. -/
structure Proxy where
  address : String
  deriving DecidableEq

/-- The settings of a connection factory. Times are in milliseconds, idle lives
in seconds; zero means unset. -/
structure Settings where
  idleTimeout : UInt64 := 0
  traceFrames : Bool := false
  proxy : Option Proxy := none
  queueIdleLife : UInt64 := 0
  topicIdleLife : UInt64 := 0
  subscriberIdleLife : UInt64 := 0
  options : Dictionary String := .empty
  shouldReconnect : Bool := true
  reconnectHosts : Option (List String) := none
  initialReconnectDelay : Option UInt64 := none
  reconnectDelay : Option UInt64 := none
  maxReconnectDelay : Option UInt64 := none
  useBackOff : Option Bool := none
  backOffMultiplier : Option Float := none
  maxReconnectAttempts : Option Int32 := none
  startupMaxReconnectAttempts : Option Int32 := none
  warnAfterReconnectAttempts : Option Int32 := none
  randomize : Option Bool := none
  mergeAction : Option MergeAction := none
  deriving DecidableEq

namespace Settings

instance : Inhabited Settings := ⟨{}⟩

def ofOptions (options : Dictionary String) : Settings := { options }

/-- A change to one value, or to one option. -/
inductive Change
  | idleTimeout (milliseconds : UInt64)
  | traceFrames (on : Bool)
  | proxy (proxy : Proxy)
  | queueIdleLife (seconds : UInt64)
  | topicIdleLife (seconds : UInt64)
  | subscriberIdleLife (seconds : UInt64)
  | option (key value : String)
  | shouldReconnect (on : Bool)
  | reconnectHosts (hosts : List String)
  | reconnectHostsOf (connectionStrings : List String)
  | initialReconnectDelay (milliseconds : UInt64)
  | reconnectDelay (milliseconds : UInt64)
  | maxReconnectDelay (milliseconds : UInt64)
  | useBackOff (on : Bool)
  | backOffMultiplier (factor : Float)
  | maxReconnectAttempts (attempts : Int32)
  | startupMaxReconnectAttempts (attempts : Int32)
  | warnAfterReconnectAttempts (attempts : Int32)
  | randomize (on : Bool)
  | mergeAction (action : MergeAction)
  deriving DecidableEq

/-- Settings that fail over to the hosts of connection strings, one host for
each. The first string that does not parse makes this fail. -/
def withReconnectHostsOf (s : Settings) (connectionStrings : List String) :
    Except Error Settings := do
  let hosts ← connectionStrings.mapM fun text => (ConnectionString.parse text).map (·.host)
  return { s with reconnectHosts := some hosts }

def apply (s : Settings) : Change → Except Error Settings
  | .idleTimeout n => .ok { s with idleTimeout := n }
  | .traceFrames on => .ok { s with traceFrames := on }
  | .proxy proxy => .ok { s with proxy := some proxy }
  | .queueIdleLife n => .ok { s with queueIdleLife := n }
  | .topicIdleLife n => .ok { s with topicIdleLife := n }
  | .subscriberIdleLife n => .ok { s with subscriberIdleLife := n }
  | .option key value => .ok { s with options := s.options.insert key value }
  | .shouldReconnect on => .ok { s with shouldReconnect := on }
  | .reconnectHosts hosts => .ok { s with reconnectHosts := some hosts }
  | .reconnectHostsOf connectionStrings => s.withReconnectHostsOf connectionStrings
  | .initialReconnectDelay n => .ok { s with initialReconnectDelay := some n }
  | .reconnectDelay n => .ok { s with reconnectDelay := some n }
  | .maxReconnectDelay n => .ok { s with maxReconnectDelay := some n }
  | .useBackOff on => .ok { s with useBackOff := some on }
  | .backOffMultiplier x => .ok { s with backOffMultiplier := some x }
  | .maxReconnectAttempts n => .ok { s with maxReconnectAttempts := some n }
  | .startupMaxReconnectAttempts n => .ok { s with startupMaxReconnectAttempts := some n }
  | .warnAfterReconnectAttempts n => .ok { s with warnAfterReconnectAttempts := some n }
  | .randomize on => .ok { s with randomize := some on }
  | .mergeAction action => .ok { s with mergeAction := some action }

/-- The settings after a change, or as they were when it fails. -/
def applyOrKeep (s : Settings) (change : Change) : Settings := (s.apply change).toOption.getD s

/-- The settings after a sequence of changes; one that fails changes nothing. -/
def applyAll (s : Settings) (changes : List Change) : Settings := changes.foldl applyOrKeep s

end Settings
end MessageBus
