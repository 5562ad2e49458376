/-
# Scripted surroundings

Surroundings that answer from a script, and keep a record of what they were
asked: for trying programs out without a broker. A script plans which calls
fail, what arrives for consumers and browsers, and which tokens the credential
has. The clock stands still.

Key definitions:

* `Script`: the plan; `Stage`: what is left of it, and what has happened.
* `Stage.answer`: the answer to a request; `Stage.run` runs an operation.
-/
import MessageBus.Client.Program

namespace MessageBus

/-- The name of a call, by which its failures are planned. -/
def Call.name : Call → String
  | .connect _ => "connect"
  | .createSession .. => "create_session"
  | .setClientId .. => "set_client_id"
  | .start _ => "start"
  | .stop _ => "stop"
  | .closeConnection _ => "close_connection"
  | .createQueue .. => "create_queue"
  | .createTopic .. => "create_topic"
  | .createTemporaryQueue _ => "create_temporary_queue"
  | .createTemporaryTopic _ => "create_temporary_topic"
  | .createProducer .. => "create_producer"
  | .createConsumer .. => "create_consumer"
  | .createBrowser .. => "create_browser"
  | .unsubscribe .. => "unsubscribe"
  | .acknowledge _ => "acknowledge"
  | .commit _ => "commit"
  | .rollback _ => "rollback"
  | .recover _ => "recover"
  | .closeSession _ => "close_session"
  | .send .. => "send"
  | .closeProducer _ => "close_producer"
  | .receive .. => "receive"
  | .closeConsumer _ => "close_consumer"
  | .browse _ => "browse"
  | .closeBrowser _ => "close_browser"

/-- The name of an object of the client library. -/
def Handle.text {role : Role} (h : Handle role) : String :=
  (match role with
    | .connection => "connection"
    | .session => "session"
    | .producer => "producer"
    | .consumer => "consumer"
    | .browser => "browser") ++ toString h.number

/-- The name of the object that a call is made on. -/
def Call.object : Call → String
  | .connect _ => "client"
  | .createSession c _ | .setClientId c _ | .start c | .stop c | .closeConnection c => c.text
  | .createQueue s _ | .createTopic s _ | .createTemporaryQueue s | .createTemporaryTopic s
  | .createProducer s _ | .createConsumer s _ | .createBrowser s _ _ | .unsubscribe s _
  | .acknowledge s | .commit s | .rollback s | .recover s | .closeSession s => s.text
  | .send p _ _ | .closeProducer p => p.text
  | .receive c _ | .closeConsumer c => c.text
  | .browse b | .closeBrowser b => b.text

/-- What arrives for a consumer or a browser: a message, none, or a failure. -/
abbrev Arrival := Except String (Option Message)

/-- A plan for the surroundings. Past its end calls succeed, nothing arrives and
the credential has no token. -/
structure Script where
  /-- By the name of a call, how its next ones go: the text of a failure, or none. -/
  failures : Dictionary (List (Option String)) := .empty
  /-- Names of queues and topics that the client library knows by other names. -/
  resolved : Dictionary String := .empty
  received : List Arrival := []
  browsed : List Arrival := []
  tokens : List (Except Error AccessToken) := []

namespace Script

/-- How the next call of a name goes, and the script after it. -/
def outcome (s : Script) (name : String) : Except String Unit × Script :=
  match s.failures.get? name with
  | some (some text :: rest) => (.error text, { s with failures := s.failures.insert name rest })
  | some (none :: rest) => (.ok (), { s with failures := s.failures.insert name rest })
  | _ => (.ok (), s)

/-- The next arrival for a consumer, and the script after it. -/
def receive (s : Script) : Arrival × Script :=
  match s.received with
  | [] => (.ok none, s)
  | arrival :: rest => (arrival, { s with received := rest })

/-- The next arrival for a browser, and the script after it. -/
def browse (s : Script) : Arrival × Script :=
  match s.browsed with
  | [] => (.ok none, s)
  | arrival :: rest => (arrival, { s with browsed := rest })

/-- The next token, and the script after it. -/
def token (s : Script) : Except Error AccessToken × Script :=
  match s.tokens with
  | [] => (.error (.credential "no more tokens"), s)
  | token :: rest => (token, { s with tokens := rest })

/-- The name that the client library knows a queue or topic by. -/
def resolve (s : Script) (name : String) : String := (s.resolved.get? name).getD name

end Script

/-- What a family shares: how many of its contexts are open, and whether its
connection has been started. -/
structure FamilyCell where
  openContexts : UInt64
  started : Bool
  deriving DecidableEq

/-- What the surroundings were asked for: a call, or a token for scopes. -/
inductive Demand
  | call (c : Call)
  | token (scopes : List String)
  deriving DecidableEq

/-- The surroundings on the way: the script that is left, the objects made so
far, the cells, and the record. -/
structure Stage where
  script : Script
  traceEntries : List (String × String) := []
  /-- The client ids of the connections, the first connection first. -/
  clientIds : List (Option String) := []
  /-- The modes of the sessions, the first session first. -/
  modes : List SessionMode := []
  producers : Nat := 0
  consumers : Nat := 0
  browsers : Nat := 0
  temporaryQueues : Nat := 0
  temporaryTopics : Nat := 0
  families : List FamilyCell := []
  /-- The tokens in the caches, the last one kept first. -/
  keptTokens : List (TokenCache × AccessToken) := []
  demands : List Demand := []
  events : List Event := []

namespace Stage

/-- The identifier that the surroundings call fresh. -/
def freshId : String := "00000000-0000-4000-8000-000000000000"

/-- Numbers an object that is made: they count from one. -/
def madeAs (role : Role) (before : Nat) : Handle role := ⟨before + 1⟩

/-- The result of a call that does not fail by plan, and the surroundings after it. -/
def result (stage : Stage) : (c : Call) → Except String c.Result × Stage
  | .connect request =>
    (.ok (madeAs .connection stage.clientIds.length),
      { stage with clientIds := stage.clientIds ++ [request.clientId] })
  | .createSession _ mode =>
    (.ok (madeAs .session stage.modes.length), { stage with modes := stage.modes ++ [mode] })
  | .setClientId connection clientId =>
    (.ok (), { stage with clientIds := stage.clientIds.set (connection.number - 1) (some clientId) })
  | .createQueue _ name => (.ok (stage.script.resolve name), stage)
  | .createTopic _ name => (.ok (stage.script.resolve name), stage)
  | .createTemporaryQueue _ =>
    (.ok ("temp-queue-" ++ toString (stage.temporaryQueues + 1)),
      { stage with temporaryQueues := stage.temporaryQueues + 1 })
  | .createTemporaryTopic _ =>
    (.ok ("temp-topic-" ++ toString (stage.temporaryTopics + 1)),
      { stage with temporaryTopics := stage.temporaryTopics + 1 })
  | .createProducer .. =>
    (.ok (madeAs .producer stage.producers), { stage with producers := stage.producers + 1 })
  | .createConsumer .. =>
    (.ok (madeAs .consumer stage.consumers), { stage with consumers := stage.consumers + 1 })
  | .createBrowser .. =>
    (.ok (madeAs .browser stage.browsers), { stage with browsers := stage.browsers + 1 })
  | .receive .. =>
    let (arrival, script) := stage.script.receive
    (arrival, { stage with script })
  | .browse _ =>
    let (arrival, script) := stage.script.browse
    (arrival, { stage with script })
  | .start _ | .stop _ | .closeConnection _ | .unsubscribe .. | .acknowledge _ | .commit _
  | .rollback _ | .recover _ | .closeSession _ | .send .. | .closeProducer _ | .closeConsumer _
  | .closeBrowser _ => (.ok (), stage)

/-- The answer to a call: it is recorded, and then fails if that is planned. -/
def answerCall (stage : Stage) (c : Call) : Except String c.Result × Stage :=
  let (outcome, script) := stage.script.outcome c.name
  let stage := { stage with script, demands := stage.demands ++ [.call c] }
  match outcome with
  | .error text => (.error text, stage)
  | .ok _ => stage.result c

def changeFamily (stage : Stage) (family : Family) (change : FamilyCell → FamilyCell) : Stage :=
  { stage with families := stage.families.modify family.number change }

/-- The answer to a request, and the surroundings after it. -/
def answer : (r : Request) → Stage → r.Reply × Stage
  | .call c, stage => stage.answerCall c
  | .clientId connection, stage => ((stage.clientIds[connection.number - 1]?).join, stage)
  | .sessionMode session, stage => ((stage.modes[session.number - 1]?).getD default, stage)
  | .newToken _ scopes, stage =>
    let (token, script) := stage.script.token
    (token, { stage with script, demands := stage.demands ++ [.token scopes] })
  | .now, stage => ((0 : Int), stage)
  | .freshId, stage => (freshId, stage)
  | .traceEntries, stage => (stage.traceEntries, stage)
  | .report event, stage => ((), { stage with events := stage.events ++ [event] })
  | .lock _, stage => ((), stage)
  | .unlock _, stage => ((), stage)
  | .cachedToken cache, stage =>
    ((stage.keptTokens.find? (·.1 = cache)).map Prod.snd, stage)
  | .keepToken cache token, stage =>
    ((), { stage with keptTokens := (cache, token) :: stage.keptTokens })
  | .newFamily, stage =>
    ((⟨stage.families.length⟩ : Family), { stage with families := stage.families ++ [⟨1, false⟩] })
  | .joinFamily family, stage =>
    ((), stage.changeFamily family fun cell => { cell with openContexts := cell.openContexts + 1 })
  | .leaveFamily family, stage =>
    (((stage.families[family.number]?).map FamilyCell.openContexts).getD 0,
      stage.changeFamily family fun cell => { cell with openContexts := cell.openContexts - 1 })
  | .isStarted family, stage =>
    (((stage.families[family.number]?).map FamilyCell.started).getD false, stage)
  | .setStarted family started, stage =>
    ((), stage.changeFamily family fun cell => { cell with started })

def runProgram {α : Type} (p : Program α) (stage : Stage) : α × Stage := p.runWith answer stage

def run {α : Type} (operation : Operation α) (stage : Stage) : Except Error α × Stage :=
  runProgram operation.run stage

end Stage
end MessageBus
