/-
# The consumers of contexts and of sessions

A context makes consumers of every kind, and so does the session that it is. A
context that does not have to start its connection, because it does not start it
by itself or because the connection counts as started, comes to the same as its
session: it makes the one call that creates the consumer, with the same request,
and has the same outcome. All that it does besides is to look at the started flag.

Key definitions: `Turns.Creation.onSession`, `Turns.Creation.told`, `Context.Agrees`.
Key theorems: `World.run_onSession`, `World.run_operation`, `Context.agrees_session`.
-/
import MessageBus.Proofs.Client.Calls
import MessageBus.Proofs.Client.Failure
import MessageBus.Proofs.Context.Turns

namespace MessageBus

/-! ### The kinds of consumers -/

namespace Turns.Creation

/-- The operation of a session that creates it. -/
def onSession (s : Session) : Creation → Operation Consumer
  | plain destination selector noLocal => s.createConsumer destination selector noLocal
  | durable topic name selector noLocal => s.createDurableSubscriber topic name selector noLocal
  | shared topic name selector => s.createSharedConsumer topic name selector false
  | sharedDurable topic name selector => s.createSharedConsumer topic name selector true

/-- The request for it, value by value. -/
def told : Creation → ConsumerSpec
  | plain destination selector noLocal =>
    { destination, selector, noLocal, subscription := none }
  | durable topic name selector noLocal =>
    { destination := .topic topic, selector, noLocal
      subscription := some { name, durable := true, shared := false } }
  | shared topic name selector =>
    { destination := .topic topic, selector, noLocal := false
      subscription := some { name, durable := false, shared := true } }
  | sharedDurable topic name selector =>
    { destination := .topic topic, selector, noLocal := false
      subscription := some { name, durable := true, shared := true } }

def isSubscribed : Creation → Bool
  | plain .. => false
  | _ => true

def isShared : Creation → Bool
  | shared .. | sharedDurable .. => true
  | _ => false

theorem spec_eq_told (creation : Creation) : creation.spec = creation.told := by
  cases creation <;> rfl

theorem onSession_eq (s : Session) (creation : Creation) :
    creation.onSession s = s.consume creation.spec := by
  cases creation <;> rfl

end Turns.Creation

/-- The creation of a consumer of a session asks for the consumer and for nothing else. -/
theorem Session.consume_run (s : Session) (spec : ConsumerSpec) : (s.consume spec).run =
    .ask (.call (.createConsumer s.handle spec)) fun reply =>
      match (reply : Except String (Handle .consumer)) with
      | .ok made => .done (.ok ⟨made⟩)
      | .error text => .ask (.report
          { message := (Call.createConsumer s.handle spec).failure, error := some text }) fun _ =>
        .done (.error (.client text)) := by
  refine congrArg (Program.ask _) (funext fun reply => ?_)
  cases reply with
  | ok made => rfl
  | error text => rfl

/-! ### What the creations come to -/

/-- What a creation comes to by the answer to its call. -/
def Consumer.ofReply (reply : Except String (Handle .consumer)) : Except Error Consumer :=
  (reply.map Consumer.mk).mapError .client

namespace World

open Turns

variable {family : Family} (outside : Outside)

/-- The answer that the creation of a consumer gets. -/
def creationReply (outside : Outside) (w : World) (s : Session) (creation : Creation) :
    Except String (Handle .consumer) :=
  outside w.log (.call (.createConsumer s.handle creation.spec))

theorem answer_creation (family : Family) {w : World} {s : Session} {creation : Creation}
    {reply : Except String (Handle .consumer)}
    (hreply : creationReply outside w s creation = reply) :
    FamilyCell.answer family (outside w.log) (.call (.createConsumer s.handle creation.spec))
      w.cell = (reply, w.cell) :=
  congrArg (·, w.cell) hreply

theorem run_onSession (family : Family) (w : World) (s : Session) (creation : Creation) :
    w.run family outside (creation.onSession s) =
      (Consumer.ofReply (creationReply outside w s creation), ⟨w.cell, w.log ++
        performed (.createConsumer s.handle creation.spec)
          (creationReply outside w s creation)⟩) := by
  rw [creation.onSession_eq, run, Session.consume_run]
  cases hreply : creationReply outside w s creation with
  | ok made => exact runWith_ask (answer_creation outside family hreply)
  | error text =>
    exact (runWith_ask (answer_creation outside family hreply)).trans (runWith_ask_append rfl)

/-- A context that does not have to start the connection looks at the started flag at most,
after its call. -/
theorem run_operation {c : Context} (hfamily : c.family = family) {w : World}
    (hidle : c.autoStart = false ∨ w.cell.started = true) (creation : Creation) :
    ∃ looks, (looks = [] ∨ looks = [c.looked true]) ∧
      w.run family outside (creation.operation c) =
        (Consumer.ofReply (creationReply outside w c.toSession creation), ⟨w.cell, w.log ++
          (performed (.createConsumer c.handle creation.spec)
            (creationReply outside w c.toSession creation) ++ looks)⟩) := by
  rw [creation.operation_eq, run, Context.consume_run]
  cases hreply : creationReply outside w c.toSession creation with
  | error text =>
    refine ⟨[], .inl rfl, ?_⟩
    rw [List.append_nil]
    exact (runWith_ask (answer_creation outside family hreply)).trans (runWith_ask_append rfl)
  | ok made =>
    have hmade : (Program.ask (.call (.createConsumer c.handle creation.spec))
        (c.afterConsumer creation.spec)).runWith (answer family outside) w =
          (c.afterConsumer creation.spec (.ok made)).runWith (answer family outside)
            ⟨w.cell, w.log ++ performed (.createConsumer c.handle creation.spec) (.ok made)⟩ :=
      runWith_ask (answer_creation outside family hreply)
    rw [hmade, Context.afterConsumer]
    cases hactive : c.autoStart with
    | false => exact ⟨[], .inl rfl, by rw [List.append_nil]; rfl⟩
    | true =>
      have hstarted : w.cell.started = true := by
        rcases hidle with hpassive | hstarted
        · rw [hactive] at hpassive
          cases hpassive
        · exact hstarted
      refine ⟨[c.looked true], .inr rfl, ?_⟩
      have hlooked := answer_looked hfamily (outside (w.log ++
        performed (.createConsumer c.handle creation.spec) (.ok made))) w.cell
      rw [hstarted] at hlooked
      exact runWith_ask_append hlooked

end World

/-! ### Contexts and their sessions -/

namespace Context

open Turns

/-- A context and its session come to the same in creating a consumer. -/
structure Agrees (c : Context) (outside : Outside) (w : World) (creation : Creation) : Prop where
  /-- Each makes one call, with the same request and the same answer. -/
  calls : ∃ reply,
    calls (w.run c.family outside (creation.operation c)).2.log =
        calls w.log ++ [⟨.createConsumer c.handle creation.told, reply⟩] ∧
      calls (w.run c.family outside (creation.onSession c.toSession)).2.log =
        calls w.log ++ [⟨.createConsumer c.handle creation.told, reply⟩]
  outcome : (w.run c.family outside (creation.operation c)).1 =
    (w.run c.family outside (creation.onSession c.toSession)).1
  events : events (w.run c.family outside (creation.operation c)).2.log =
    events (w.run c.family outside (creation.onSession c.toSession)).2.log
  /-- Neither changes what the family shares. -/
  cell : (w.run c.family outside (creation.operation c)).2.cell = w.cell ∧
    (w.run c.family outside (creation.onSession c.toSession)).2.cell = w.cell
  /-- The request has a subscription if and only if it is for a durable or a shared one. -/
  subscription : creation.told.subscription.isSome = creation.isSubscribed
  /-- A shared consumer also gets what the connection itself has sent. -/
  noLocal : creation.isShared = true → creation.told.noLocal = false

theorem agrees (c : Context) (outside : Outside) (w : World)
    (hidle : c.autoStart = false ∨ w.cell.started = true) (creation : Creation) :
    c.Agrees outside w creation := by
  obtain ⟨looks, hlooks, hcontext⟩ :=
    World.run_operation outside (rfl : c.family = c.family) hidle creation
  have hsession := World.run_onSession outside c.family w c.toSession creation
  have hquiet : MessageBus.calls looks = [] ∧ MessageBus.events looks = [] := by
    rcases hlooks with rfl | rfl <;> exact ⟨rfl, rfl⟩
  refine ⟨⟨World.creationReply outside w c.toSession creation, ?_, ?_⟩, ?_, ?_, ?_, ?_, ?_⟩
  · rw [hcontext, calls_append, calls_append, hquiet.1, List.append_nil, creation.spec_eq_told]
    exact congrArg (_ ++ ·) (calls_performed ..)
  · rw [hsession, calls_append, creation.spec_eq_told]
    exact congrArg (_ ++ ·) (calls_performed ..)
  · rw [hcontext, hsession]
  · rw [hcontext, hsession, events_append, events_append, events_append, hquiet.2, List.append_nil]
  · rw [hcontext, hsession]
    exact ⟨rfl, rfl⟩
  · cases creation <;> rfl
  · intro hshared
    cases creation <;> first | rfl | cases hshared

/-- **Contexts and sessions agree on consumers**: a context that does not have to start the
connection makes a consumer as its session does, whatever the client library answers; and
what queue and topic sessions receive with is a consumer of the session. -/
theorem agrees_session (c : Context) (outside : Outside) (w : World)
    (hidle : c.autoStart = false ∨ w.cell.started = true) :
    (∀ creation, c.Agrees outside w creation) ∧
      (∀ (s : QueueSession) (queue : Queue) (selector : Option String),
        s.createReceiver queue selector = s.createConsumer (.queue queue) selector false) ∧
      ∀ (s : TopicSession) (topic : Topic) (selector : Option String) (noLocal : Bool),
        s.createSubscriber topic selector noLocal =
          s.createConsumer (.topic topic) selector noLocal :=
  ⟨c.agrees outside w hidle, fun _ _ _ => rfl, fun _ _ _ _ => rfl⟩

/-- A context that starts the connection by itself, on one that has been started. -/
theorem agrees_session_started :
    let c : Context := { handle := ⟨1⟩, connection := ⟨⟨1⟩⟩, family := ⟨0⟩ }
    let outside : Outside := Stage.outside { script := {} }
    let w : World := ⟨⟨1, true⟩, []⟩
    let creation : Creation := .sharedDurable ⟨"events"⟩ "workers" none
    (c.autoStart = false ∨ w.cell.started = true) ∧ c.Agrees outside w creation ∧
      (w.run c.family outside (creation.operation c)).1 = .ok ⟨⟨1⟩⟩ := by
  intro c outside w creation
  have hidle : c.autoStart = false ∨ w.cell.started = true := .inr rfl
  exact ⟨hidle, (agrees_session c outside w hidle).1 creation, rfl⟩

end Context
end MessageBus
