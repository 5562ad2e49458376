/-
# The queries of settings

The options of an address are pairs of a key and a value. Settings give three
lists of them. The *host* pairs belong to every host: the idle timeout, the
tracing of frames and the options of the transport. The *failover* pairs belong
to the group of hosts: the tuning values that are present, in a fixed order,
and the failover options. The *provider* pairs are all other options.

The options are the caller's over the defaults, in ascending order of keys, and
each of them is in exactly one of the three lists.
-/
import MessageBus.Settings

namespace MessageBus

/-- Pairs of a key and a value. -/
abbrev Query := List (String × String)

namespace Query

/-- A pair with an equals sign between key and value. -/
def pairText : String × String → String
  | (key, value) => key ++ "=" ++ value

/-- The text of a query: its pairs with `&` between them. -/
def text (q : Query) : String := "&".intercalate (q.map pairText)

/-- The pair of a value that may be absent. -/
def ofOption {α : Type} (key : String) (text : α → String) : Option α → Query
  | none => []
  | some value => [(key, text value)]

end Query

namespace Settings

/-- The options that apply when the caller gives none of the same key. -/
def defaultOptions : Dictionary String := .ofList [("jms.prefetchPolicy.all", "0")]

/-- The caller's options over the defaults. -/
def mergedOptions (s : Settings) : Dictionary String := defaultOptions.extend s.options

/-- An option of the transport, which goes to every host. -/
def isHostOption (key : String) : Bool := "amqp.".isPrefixOf key || "transport.".isPrefixOf key

/-- An option of the group of hosts. -/
def isFailoverOption (key : String) : Bool := "failover.".isPrefixOf key

/-- An option of neither. -/
def isProviderOption (key : String) : Bool := !isHostOption key && !isFailoverOption key

/-- The merged options whose key satisfies `p`. -/
def optionsWhere (s : Settings) (p : String → Bool) : Query :=
  s.mergedOptions.entries.filter fun (key, _) => p key

def boolText (b : Bool) : String := if b then "true" else "false"

def wordText (n : UInt64) : String := toString n.toNat

def countText (n : Int32) : String := toString n.toInt

def hostPairs (s : Settings) : Query :=
  (if 0 < s.idleTimeout then [("amqp.idleTimeout", wordText s.idleTimeout)] else []) ++
    (if s.traceFrames then [("amqp.traceFrames", "true")] else []) ++
    s.optionsWhere isHostOption

/-- The pairs of the tuning values that are present. -/
def tuningPairs (s : Settings) : Query :=
  Query.ofOption "failover.initialReconnectDelay" wordText s.initialReconnectDelay ++
    Query.ofOption "failover.reconnectDelay" wordText s.reconnectDelay ++
    Query.ofOption "failover.maxReconnectDelay" wordText s.maxReconnectDelay ++
    Query.ofOption "failover.useReconnectBackOff" boolText s.useBackOff ++
    Query.ofOption "failover.reconnectBackOffMultiplier" Number.text s.backOffMultiplier ++
    Query.ofOption "failover.maxReconnectAttempts" countText s.maxReconnectAttempts ++
    Query.ofOption "failover.startupMaxReconnectAttempts" countText
      s.startupMaxReconnectAttempts ++
    Query.ofOption "failover.warnAfterReconnectAttempts" countText s.warnAfterReconnectAttempts ++
    Query.ofOption "failover.randomize" boolText s.randomize ++
    Query.ofOption "failover.amqpOpenServerListAction" MergeAction.text s.mergeAction

def failoverPairs (s : Settings) : Query := s.tuningPairs ++ s.optionsWhere isFailoverOption

/-- The pairs of all other options. -/
def providerPairs (s : Settings) : Query := s.optionsWhere isProviderOption

def hostQuery (s : Settings) : String := s.hostPairs.text

def failoverQuery (s : Settings) : String := s.failoverPairs.text

def providerQuery (s : Settings) : String := s.providerPairs.text

instance : Inspect Settings :=
  ⟨fun s => Inspect.partialRecord "ConnectionFactorySettings"
    [("connection_idle_timeout_ms", inspect s.idleTimeout),
      ("trace_frames", inspect s.traceFrames),
      ("proxy_handler_factory", inspect s.proxy.isSome),
      ("configuration_options", inspect s.options),
      ("should_reconnect", inspect s.shouldReconnect),
      ("reconnect_hosts", inspect s.reconnectHosts),
      ("failover_query", inspect s.failoverQuery)]⟩

end Settings
end MessageBus
