/-
# The operations of the library

Everything that factories, connections, sessions, producers, consumers, browsers and
contexts offer, and how it fails: a producer refuses what it is not made for, and every
other operation heeds its failures. Two operations go on after a failure. Creating a
consumer closes it when the connection cannot be started, and closing a context closes
the connection also when the session could not be closed. Both fail with what failed
first, and report what fails after it all the same.

Key definitions: `Offered`, and `Offers` of each object; `Producer.Refuses`.
Key theorems: `Context.heedsFailures_consume`, `Context.heedsFailures_close`,
`Offered.heeds_failures`.
-/
import Mathlib.Data.List.Basic
import MessageBus.Client.Script
import MessageBus.Factory
import MessageBus.Proofs.Client.Failure

namespace MessageBus

open Operation

/-! ### What each object offers -/

inductive Session.Offers (s : Session) : {α : Type} → Operation α → Prop
  | mode : s.Offers s.mode
  | isTransacted : s.Offers s.isTransacted
  | createQueue (name : String) : s.Offers (s.createQueue name)
  | createTopic (name : String) : s.Offers (s.createTopic name)
  | createTemporaryQueue : s.Offers s.createTemporaryQueue
  | createTemporaryTopic : s.Offers s.createTemporaryTopic
  | createProducer (destination : Option Destination) : s.Offers (s.createProducer destination)
  | createConsumer (destination : Destination) (selector : Option String) (noLocal : Bool) :
    s.Offers (s.createConsumer destination selector noLocal)
  | createDurableSubscriber (topic : Topic) (name : String) (selector : Option String)
    (noLocal : Bool) : s.Offers (s.createDurableSubscriber topic name selector noLocal)
  | createSharedConsumer (topic : Topic) (name : String) (selector : Option String)
    (durable : Bool) : s.Offers (s.createSharedConsumer topic name selector durable)
  | createBrowser (queue : Queue) (selector : Option String) :
    s.Offers (s.createBrowser queue selector)
  | unsubscribe (name : String) : s.Offers (s.unsubscribe name)
  | acknowledge : s.Offers s.acknowledge
  | commit : s.Offers s.commit
  | rollback : s.Offers s.rollback
  | recover : s.Offers s.recover
  | close : s.Offers s.close

inductive QueueSession.Offers (s : QueueSession) : {α : Type} → Operation α → Prop
  | ofSession {α : Type} {operation : Operation α} (h : s.toSession.Offers operation) :
    s.Offers operation
  | createSender (queue : Queue) : s.Offers (s.createSender queue)
  | createReceiver (queue : Queue) (selector : Option String) :
    s.Offers (s.createReceiver queue selector)

inductive TopicSession.Offers (s : TopicSession) : {α : Type} → Operation α → Prop
  | ofSession {α : Type} {operation : Operation α} (h : s.toSession.Offers operation) :
    s.Offers operation
  | createPublisher (topic : Topic) : s.Offers (s.createPublisher topic)
  | createSubscriber (topic : Topic) (selector : Option String) (noLocal : Bool) :
    s.Offers (s.createSubscriber topic selector noLocal)

inductive Connection.Offers (c : Connection) : {α : Type} → Operation α → Prop
  | createSession (transacted : Bool) (mode : SessionMode) :
    c.Offers (c.createSession transacted mode)
  | createSessionWithMode (mode : SessionMode) : c.Offers (c.createSessionWithMode mode)
  | createDefaultSession : c.Offers c.createDefaultSession
  | clientId : c.Offers c.clientId
  | setClientId (clientId : String) : c.Offers (c.setClientId clientId)
  | start : c.Offers c.start
  | stop : c.Offers c.stop
  | close : c.Offers c.close

inductive QueueConnection.Offers (c : QueueConnection) : {α : Type} → Operation α → Prop
  | ofConnection {α : Type} {operation : Operation α} (h : c.toConnection.Offers operation) :
    c.Offers operation
  | createQueueSession (transacted : Bool) (mode : SessionMode) :
    c.Offers (c.createQueueSession transacted mode)

inductive TopicConnection.Offers (c : TopicConnection) : {α : Type} → Operation α → Prop
  | ofConnection {α : Type} {operation : Operation α} (h : c.toConnection.Offers operation) :
    c.Offers operation
  | createTopicSession (transacted : Bool) (mode : SessionMode) :
    c.Offers (c.createTopicSession transacted mode)

inductive Producer.Offers (p : Producer) : {α : Type} → Operation α → Prop
  | send (m : Message) : p.Offers (p.send m)
  | sendTo (destination : Destination) (m : Message) : p.Offers (p.sendTo destination m)
  | close : p.Offers p.close

inductive Consumer.Offers (c : Consumer) : {α : Type} → Operation α → Prop
  | receive : c.Offers c.receive
  | receiveWithin (milliseconds : Nat) : c.Offers (c.receiveWithin milliseconds)
  | receiveNow : c.Offers c.receiveNow
  | close : c.Offers c.close

/-- The next message of a stream that has not ended, as an operation that fails if the item is
a failure. -/
def MessageStream.nextMessage (seed : Option Consumer) : Operation (Option Message) :=
  ExceptT.mk ((unfold seed).bind fun unfolded =>
    match unfolded with
    | none => .done (.ok none)
    | some (.ok m, _) => .done (.ok (some m))
    | some (.error e, _) => .done (.error e))

inductive Browser.Offers (b : Browser) : {α : Type} → Operation α → Prop
  | next : b.Offers b.next
  | close : b.Offers b.close

inductive Context.Offers (c : Context) : {α : Type} → Operation α → Prop
  | ofSession {α : Type} {operation : Operation α} (h : c.toSession.Offers operation) :
    c.Offers operation
  | createContext (mode : SessionMode) : c.Offers (c.createContext mode)
  | clientId : c.Offers c.clientId
  | setClientId (clientId : String) : c.Offers (c.setClientId clientId)
  | start : c.Offers c.start
  | stop : c.Offers c.stop
  | createProducer : c.Offers c.createProducer
  | createConsumer (destination : Destination) (selector : Option String) (noLocal : Bool) :
    c.Offers (c.createConsumer destination selector noLocal)
  | createDurableConsumer (topic : Topic) (name : String) (selector : Option String)
    (noLocal : Bool) : c.Offers (c.createDurableConsumer topic name selector noLocal)
  | createSharedConsumer (topic : Topic) (name : String) (selector : Option String) :
    c.Offers (c.createSharedConsumer topic name selector)
  | createSharedDurableConsumer (topic : Topic) (name : String) (selector : Option String) :
    c.Offers (c.createSharedDurableConsumer topic name selector)
  | close : c.Offers c.close

/-- The operations of a connection factory that open a connection. -/
inductive ConnectionFactory.Offers (f : ConnectionFactory) : {α : Type} → Operation α → Prop
  | createConnection (explicit : Option Login) : f.Offers (f.createConnection explicit)
  | createQueueConnection (explicit : Option Login) : f.Offers (f.createQueueConnection explicit)
  | createTopicConnection (explicit : Option Login) : f.Offers (f.createTopicConnection explicit)
  | createContext (mode : SessionMode) (explicit : Option Login) :
    f.Offers (f.createContext mode explicit)

/-- The operations of the library. -/
inductive Offered : {α : Type} → Operation α → Prop
  | factory {α : Type} {operation : Operation α} (f : ConnectionFactory)
    (h : f.Offers operation) : Offered operation
  | connection {α : Type} {operation : Operation α} (c : Connection)
    (h : c.Offers operation) : Offered operation
  | queueConnection {α : Type} {operation : Operation α} (c : QueueConnection)
    (h : c.Offers operation) : Offered operation
  | topicConnection {α : Type} {operation : Operation α} (c : TopicConnection)
    (h : c.Offers operation) : Offered operation
  | session {α : Type} {operation : Operation α} (s : Session)
    (h : s.Offers operation) : Offered operation
  | queueSession {α : Type} {operation : Operation α} (s : QueueSession)
    (h : s.Offers operation) : Offered operation
  | topicSession {α : Type} {operation : Operation α} (s : TopicSession)
    (h : s.Offers operation) : Offered operation
  | producer {α : Type} {operation : Operation α} (p : Producer)
    (h : p.Offers operation) : Offered operation
  | consumer {α : Type} {operation : Operation α} (c : Consumer)
    (h : c.Offers operation) : Offered operation
  | stream (seed : Option Consumer) : Offered (MessageStream.nextMessage seed)
  | browser {α : Type} {operation : Operation α} (b : Browser)
    (h : b.Offers operation) : Offered operation
  | context {α : Type} {operation : Operation α} (c : Context)
    (h : c.Offers operation) : Offered operation

/-- What a producer is not made for: to send to its destination when it has none, and to
another one when it has one. -/
inductive Producer.Refuses (p : Producer) :
    {α : Type} → Operation α → Misconfiguration → Prop
  | send (m : Message) (h : p.destination = none) : p.Refuses (p.send m) .unboundProducer
  | sendTo (destination : Destination) (m : Message) (h : p.destination.isSome) :
    p.Refuses (p.sendTo destination m) .boundProducer

/-! ### How the objects fail -/

theorem Session.Offers.heedsFailures {s : Session} {α : Type} {operation : Operation α}
    (h : s.Offers operation) : HeedsFailures operation := by
  cases h with
  | mode => exact heedsFailures_ask trivial
  | isTransacted =>
    exact (heedsFailures_ask (r := .sessionMode s.handle) trivial).bind fun _ => heedsFailures_pure _
  | unsubscribe | acknowledge | commit | rollback | recover | close =>
    exact heedsFailures_perform _
  | _ => exact heedsFailures_result _ _

theorem Connection.Offers.heedsFailures {c : Connection} {α : Type} {operation : Operation α}
    (h : c.Offers operation) : HeedsFailures operation := by
  cases h with
  | clientId => exact heedsFailures_ask trivial
  | setClientId | start | stop | close => exact heedsFailures_perform _
  | _ => exact heedsFailures_result _ _

theorem QueueSession.Offers.heedsFailures {s : QueueSession} {α : Type}
    {operation : Operation α} (h : s.Offers operation) : HeedsFailures operation := by
  cases h with
  | ofSession h => exact h.heedsFailures
  | _ => exact heedsFailures_result _ _

theorem TopicSession.Offers.heedsFailures {s : TopicSession} {α : Type}
    {operation : Operation α} (h : s.Offers operation) : HeedsFailures operation := by
  cases h with
  | ofSession h => exact h.heedsFailures
  | _ => exact heedsFailures_result _ _

theorem QueueConnection.Offers.heedsFailures {c : QueueConnection} {α : Type}
    {operation : Operation α} (h : c.Offers operation) : HeedsFailures operation := by
  cases h with
  | ofConnection h => exact h.heedsFailures
  | createQueueSession transacted mode =>
    exact HeedsFailures.bind (heedsFailures_result _ _) fun _ => heedsFailures_pure _

theorem TopicConnection.Offers.heedsFailures {c : TopicConnection} {α : Type}
    {operation : Operation α} (h : c.Offers operation) : HeedsFailures operation := by
  cases h with
  | ofConnection h => exact h.heedsFailures
  | createTopicSession transacted mode =>
    exact HeedsFailures.bind (heedsFailures_result _ _) fun _ => heedsFailures_pure _

theorem Producer.heedsFailures_dispatch (p : Producer) (destination : Option Destination)
    (m : Message) : HeedsFailures (p.dispatch destination m) := by
  have hid : HeedsFailures (withId m) := by
    unfold withId
    split
    · exact heedsFailures_pure m
    · exact (heedsFailures_ask (r := .freshId) trivial).bind fun _ => heedsFailures_pure _
  refine hid.bind fun m => ?_
  refine (heedsFailures_ask (r := .traceEntries) trivial).bind fun entries => ?_
  exact heedsFailures_perform _

/-- A producer refuses what it is not made for before it asks for anything. -/
theorem Producer.Refuses.run_eq {p : Producer} {α : Type} {operation : Operation α}
    {cause : Misconfiguration} (h : p.Refuses operation cause) :
    operation.run = .done (.error (.configuration cause)) := by
  cases h with
  | send m h =>
    unfold Producer.send
    rw [h]
    rfl
  | sendTo destination m h =>
    obtain ⟨bound, hbound⟩ := Option.isSome_iff_exists.1 h
    unfold Producer.sendTo
    rw [hbound]
    rfl

theorem Producer.Offers.heedsFailures {p : Producer} {α : Type} {operation : Operation α}
    (h : p.Offers operation) :
    (∃ cause, p.Refuses operation cause) ∨ HeedsFailures operation := by
  cases h with
  | send m =>
    cases hbound : p.destination with
    | none => exact .inl ⟨_, .send m hbound⟩
    | some bound =>
      right
      unfold Producer.send
      rw [hbound]
      exact p.heedsFailures_dispatch none m
  | sendTo destination m =>
    cases hbound : p.destination with
    | some bound => exact .inl ⟨_, .sendTo destination m (Option.isSome_of_mem hbound)⟩
    | none =>
      right
      unfold Producer.sendTo
      rw [hbound]
      exact p.heedsFailures_dispatch (some destination) m
  | close => exact .inr (heedsFailures_perform _)

theorem Consumer.Offers.heedsFailures {c : Consumer} {α : Type} {operation : Operation α}
    (h : c.Offers operation) : HeedsFailures operation := by
  cases h with
  | receive | receiveWithin | receiveNow | close => exact heedsFailures_perform _

theorem Browser.Offers.heedsFailures {b : Browser} {α : Type} {operation : Operation α}
    (h : b.Offers operation) : HeedsFailures operation := by
  cases h with
  | next | close => exact heedsFailures_perform _

theorem MessageStream.heedsFailures_nextMessage (seed : Option Consumer) :
    HeedsFailures (nextMessage seed) := by
  cases seed with
  | none => exact heedsFailures_pure none
  | some c =>
    have hreceive : c.receive.run.Ensures Heeds := heedsFailures_perform (.receive c.handle none)
    show ((c.receive.run.bind _).bind _).Ensures Heeds
    rw [Program.bind_assoc]
    refine hreceive.bind fun log outcome hlog => ?_
    rcases outcome with e | _ | m
    · show Heeds (log ++ []) (.error e)
      rw [List.append_nil]
      exact hlog
    · show Heeds (log ++ []) (.ok none)
      rw [List.append_nil]
      exact hlog
    · show Heeds (log ++ []) (.ok (some m))
      rw [List.append_nil]
      exact hlog

/-! ### Contexts -/

namespace Context

variable (c : Context)

theorem heedsFailures_openOn (connection : Connection) (mode : SessionMode) :
    HeedsFailures (openOn connection mode) := by
  refine HeedsFailures.bind (heedsFailures_result _ _) fun session => ?_
  exact (heedsFailures_ask (r := .newFamily) trivial).bind fun _ => heedsFailures_pure _

theorem heedsFailures_createContext (mode : SessionMode) :
    HeedsFailures (c.createContext mode) := by
  refine HeedsFailures.bind (heedsFailures_result _ _) fun session => ?_
  exact (heedsFailures_ask (r := .joinFamily c.family) trivial).bind fun _ => heedsFailures_pure _

theorem heedsFailures_start : HeedsFailures c.start := by
  refine HeedsFailures.bind (heedsFailures_perform _) fun _ => ?_
  exact heedsFailures_ask (r := .setStarted c.family true) trivial

theorem heedsFailures_stop : HeedsFailures c.stop := by
  refine HeedsFailures.bind (heedsFailures_perform _) fun _ => ?_
  exact heedsFailures_ask (r := .setStarted c.family false) trivial

/-- The close of a consumer that has been created for nothing is reported if it fails, but
the operation fails as the start has. -/
theorem ensures_afterStart (made : Handle .consumer) (reply : Except String Unit) :
    (c.afterStart made reply).Ensures fun log outcome =>
      Heeds (.ofCall (.start c.connection.handle) reply :: log) outcome := by
  have hstart : Heeds (performed (.start c.connection.handle) reply)
      (Except.mapError Error.client reply) := Heeds.performed (.start c.connection.handle) reply
  cases reply with
  | ok _ =>
    intro noted
    exact Heeds.append (a := ()) hstart
      (Heeds.of_quiet (r := .setStarted c.family true) trivial noted)
  | error text =>
    intro _ closing
    have hboth : Heeds (performed (.start c.connection.handle) (.error text) ++
        performed (.closeConsumer made) closing) (.error (.client text) : Except Error Consumer) :=
      (Heeds.performed (.closeConsumer made) closing).performed_error_append text
        fun _ hmem => request_ne_of_mem_performed Call.noConfusion hmem
    cases closing with
    | ok _ => exact hboth
    | error text' =>
      intro _
      exact hboth

theorem heedsFailures_consume (spec : ConsumerSpec) : HeedsFailures (c.consume spec) := by
  show (c.consume spec).run.Ensures Heeds
  rw [consume_run]
  intro reply
  have hcreate : Heeds (performed (.createConsumer c.handle spec) reply)
      (Except.mapError Error.client reply) := Heeds.performed _ reply
  cases reply with
  | error text =>
    intro _
    exact hcreate.retype
  | ok made =>
    unfold afterConsumer
    dsimp only
    split
    · intro started
      have hlooked : Heeds (performed (.createConsumer c.handle spec) (.ok made) ++
          [⟨.isStarted c.family, started⟩]) (.ok ⟨made⟩ : Except Error Consumer) :=
        Heeds.append hcreate (Heeds.of_quiet (r := .isStarted c.family) trivial started)
      unfold afterLook
      split
      · exact hlooked
      · intro reply
        exact (c.ensures_afterStart made reply).mono fun log outcome hlog => hlooked.append hlog
    · exact Heeds.of_ok rfl rfl

/-- A context leaves its family whatever became of its session, and a failure to close the
connection matters only if the session was closed. -/
theorem ensures_leave (reply : Except String Unit) :
    (c.leave (reply.mapError .client)).Ensures fun log outcome =>
      Heeds (performed (.closeSession c.handle) reply ++ log) outcome := by
  have hsession : Heeds (performed (.closeSession c.handle) reply) (reply.mapError .client) :=
    Heeds.performed (.closeSession c.handle) reply
  intro openBefore
  have hleft : Heeds (performed (.closeSession c.handle) reply ++
      [⟨.leaveFamily c.family, openBefore⟩]) (reply.mapError .client) :=
    hsession.concat_quiet (r := .leaveFamily c.family) trivial openBefore
  unfold afterLeave
  split
  · intro reply'
    have hconnection : Heeds (performed (.closeConnection c.connection.handle) reply')
        (reply'.mapError .client) := Heeds.performed (.closeConnection c.connection.handle) reply'
    cases reply with
    | ok _ =>
      have hboth := Heeds.append hleft hconnection
      cases reply' with
      | ok _ => exact hboth
      | error text =>
        intro _
        exact hboth
    | error text =>
      -- the session has failed first, so what becomes of the connection comes after it
      have hlast := hconnection.cons_quiet (r := .leaveFamily c.family) trivial openBefore
      have hboth := hlast.performed_error_append (c := .closeSession c.handle) (β := Unit) text
        fun e hmem => by
          rcases List.mem_cons.1 hmem with rfl | hmem
          · exact Request.noConfusion
          · exact request_ne_of_mem_performed Call.noConfusion hmem
      cases reply' with
      | ok _ => exact hboth
      | error text' =>
        intro _
        exact hboth
  · exact hleft

theorem heedsFailures_close : HeedsFailures c.close := by
  show c.close.run.Ensures Heeds
  rw [close_run]
  intro reply
  have hleave := c.ensures_leave reply
  cases (reply : Except String Unit) with
  | ok _ => exact hleave
  | error text =>
    intro _
    exact hleave

theorem Offers.heedsFailures {c : Context} {α : Type} {operation : Operation α}
    (h : c.Offers operation) : HeedsFailures operation := by
  cases h with
  | ofSession h => exact h.heedsFailures
  | createContext mode => exact c.heedsFailures_createContext mode
  | clientId => exact heedsFailures_ask trivial
  | setClientId => exact heedsFailures_perform _
  | start => exact c.heedsFailures_start
  | stop => exact c.heedsFailures_stop
  | createProducer => exact heedsFailures_result _ _
  | close => exact c.heedsFailures_close
  | createConsumer | createDurableConsumer | createSharedConsumer
  | createSharedDurableConsumer => exact c.heedsFailures_consume _

end Context

/-! ### Connection factories -/

namespace ConnectionFactory

variable (f : ConnectionFactory)

theorem heedsFailures_connect (explicit : Option Login) : HeedsFailures (f.connect explicit) := by
  have hpassword : HeedsFailures f.credentials.password := by
    unfold Credentials.password
    split
    · exact heedsFailures_pure _
    · next cache _ => exact cache.heedsFailures_token
  have hlogin : HeedsFailures (f.loginFor explicit) := by
    unfold loginFor
    split
    · exact heedsFailures_pure _
    · exact hpassword.bind fun password => heedsFailures_pure _
  refine hlogin.bind fun login => ?_
  exact heedsFailures_result _ _

theorem Offers.heedsFailures {f : ConnectionFactory} {α : Type} {operation : Operation α}
    (h : f.Offers operation) : HeedsFailures operation := by
  cases h with
  | createConnection explicit => exact f.heedsFailures_connect explicit
  | createContext mode explicit =>
    refine (f.heedsFailures_connect explicit).bind fun connection => ?_
    exact Context.heedsFailures_openOn connection mode
  | createQueueConnection | createTopicConnection =>
    exact HeedsFailures.bind (f.heedsFailures_connect _) fun _ => heedsFailures_pure _

end ConnectionFactory

/-! ### All operations -/

namespace Offered

/-- **Every operation is refused by a producer before it asks for anything, or heeds its
failures**, in any surroundings: it succeeds exactly when nothing that it asked for has
failed, fails with what has failed first otherwise, repeats nothing that has failed, and
reports each failure once and in order. -/
theorem heeds_failures {α σ : Type} {operation : Operation α} (h : Offered operation)
    (answer : (r : Request) → σ → r.Reply × σ) (s : σ) :
    (∃ p cause, Producer.Refuses p operation cause ∧
        operation.run = .done (.error (.configuration cause))) ∨
      Heeds (operation.run.exchanges answer s) (operation.run.runWith answer s).1 := by
  have hrefuses : (∃ p cause, Producer.Refuses p operation cause) ∨ HeedsFailures operation := by
    cases h with
    | producer p h =>
      rcases h.heedsFailures with ⟨cause, hcause⟩ | hheeds
      · exact .inl ⟨p, cause, hcause⟩
      · exact .inr hheeds
    | stream seed => exact .inr (MessageStream.heedsFailures_nextMessage seed)
    | factory _ h => exact .inr h.heedsFailures
    | connection _ h => exact .inr h.heedsFailures
    | queueConnection _ h => exact .inr h.heedsFailures
    | topicConnection _ h => exact .inr h.heedsFailures
    | session _ h => exact .inr h.heedsFailures
    | queueSession _ h => exact .inr h.heedsFailures
    | topicSession _ h => exact .inr h.heedsFailures
    | consumer _ h => exact .inr h.heedsFailures
    | browser _ h => exact .inr h.heedsFailures
    | context _ h => exact .inr h.heedsFailures
  rcases hrefuses with ⟨p, cause, hcause⟩ | hheeds
  · exact .inl ⟨p, cause, hcause, hcause.run_eq⟩
  · exact .inr (Program.Ensures.run hheeds answer s)

/-- Connections cannot be started, nor consumers closed. -/
def brittle : Stage :=
  { script := { failures :=
      (Dictionary.empty.insert "start" [some "refused"]).insert "close_consumer" [some "gone"] } }

/-- Of the two failures the first one is the outcome, and both are reported. -/
theorem heeds_failures_brittle :
    let c : Context := { handle := ⟨1⟩, connection := ⟨⟨1⟩⟩, family := ⟨0⟩ }
    let operation := c.createConsumer (.queue ⟨"orders"⟩) none false
    let log := operation.run.exchanges Stage.answer brittle
    let outcome := (operation.run.runWith Stage.answer brittle).1
    Offered operation ∧ Heeds log outcome ∧ outcome = .error (.client "refused") ∧
      events log = [{ message := "failure to start connection", error := some "refused" },
        { message := "failure to close consumer", error := some "gone" }] := by
  intro c operation log outcome
  have hoffered : Offered operation := .context c (.createConsumer _ _ _)
  refine ⟨hoffered, ?_, by decide +kernel, by decide +kernel⟩
  rcases hoffered.heeds_failures Stage.answer brittle with ⟨p, cause, -, hrun⟩ | hheeds
  · have hasks : operation.run = _ := c.consume_run (.plain (.queue ⟨"orders"⟩) none false)
    cases hasks.symm.trans hrun
  · exact hheeds

end Offered
end MessageBus
