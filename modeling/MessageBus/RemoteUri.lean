/-
# Remote addresses

The address under which the client library reaches the broker. Without
reconnecting it is one host with a query; with reconnecting it is a group of
hosts, each with the query of a host, and the query of the group after it:

    amqps://host?hostQuery&providerQuery
    failover:(amqps://host?hostQuery,amqps://other?hostQuery)?failoverQuery&providerQuery

Queries without pairs leave no mark; what follows the first of the others is
joined by `&`.
-/
import MessageBus.Settings.Query

namespace MessageBus
namespace RemoteUri

/-- A text with queries after it, from the first that has pairs: `?` before
that one and `&` before those that follow. -/
def withQueries (base : String) (queries : List Query) : String :=
  match queries.filter (· ≠ []) with
  | [] => base
  | queries => base ++ "?" ++ "&".intercalate (queries.map Query.text)

def ofHost (hostPairs : Query) (host : String) : String :=
  withQueries ("amqps://" ++ host) [hostPairs]

def ofGroup (hostPairs : Query) (hosts : List String) : String :=
  "failover:(" ++ ",".intercalate (hosts.map (ofHost hostPairs)) ++ ")"

/-- The hosts of a group: the primary one, then those to reconnect to. -/
def hosts (primary : String) (s : Settings) : List String :=
  primary :: s.reconnectHosts.getD []

/-- The remote address of a host under settings. -/
def build (host : String) (s : Settings) : String :=
  if s.shouldReconnect then
    withQueries (ofGroup s.hostPairs (hosts host s)) [s.failoverPairs, s.providerPairs]
  else withQueries ("amqps://" ++ host) [s.hostPairs, s.providerPairs]

end RemoteUri
end MessageBus
