/-
# Producers at work

A producer is made in one of four ways, which bind it to a destination or to none,
and is then used again and again. What it is not made for it refuses before it asks
for anything, so that a refused use makes no difference to the others. Every other
use is one call on the client library, whatever came of the uses before it, and a
message that is handed over has an id and the trace context of its sender.

Key definitions: `Producer.Use`, `Producer.Way`, `Producer.Comes`, `Producer.Record`,
`Producer.Serves`, `Producer.Way.Runs`.
Key theorems: `Producer.Use.comes`, `Producer.record_uses`, `Producer.Record.serves`,
`Producer.uses_served`, `Producer.Way.serves_uses`.
-/
import MessageBus.Proofs.Client.Calls
import MessageBus.Proofs.Operations

namespace MessageBus
namespace Producer

/-! ### Uses -/

/-- What is done with a producer. -/
inductive Use
  | send (m : Message)
  | sendTo (destination : Destination) (m : Message)
  | close

def Use.operation (p : Producer) : Use → Operation Unit
  | .send m => p.send m
  | .sendTo destination m => p.sendTo destination m
  | .close => p.close

def Use.isSending : Use → Bool
  | .close => false
  | _ => true

/-- Whether a producer is made for a use. -/
def serves (p : Producer) : Use → Bool
  | .send _ => p.destination.isSome
  | .sendTo .. => p.destination.isNone
  | .close => true

/-- Uses of a producer, one after the other, with what becomes of each. -/
def uses (p : Producer) : List Use → Program (List (Except Error Unit))
  | [] => .done []
  | use :: rest =>
    (use.operation p).run.bind fun outcome =>
      (p.uses rest).bind fun outcomes => .done (outcome :: outcomes)

/-- The ways in which a producer is made. -/
inductive Way
  | ofSession (s : Session) (destination : Option Destination)
  | sender (s : QueueSession) (queue : Queue)
  | publisher (s : TopicSession) (topic : Topic)
  | ofContext (c : Context)

namespace Way

def operation : Way → Operation Producer
  | ofSession s destination => s.createProducer destination
  | sender s queue => s.createSender queue
  | publisher s topic => s.createPublisher topic
  | ofContext c => c.createProducer

def session : Way → Handle .session
  | ofSession s _ => s.handle
  | sender s _ => s.handle
  | publisher s _ => s.handle
  | ofContext c => c.handle

def destination : Way → Option Destination
  | ofSession _ destination => destination
  | sender _ queue => some (.queue queue)
  | publisher _ topic => some (.topic topic)
  | ofContext _ => none

/-- A producer is made, and then used. -/
def use (way : Way) (uses : List Use) : Operation (List (Except Error Unit)) := do
  let p ← way.operation
  ExceptT.lift (p.uses uses)

end Way

/-! ### What a use comes to -/

/-- A message is made ready: it is given an id if it has none, and the trace context. -/
inductive Prepares (m : Message) : List Exchange → Message → Prop
  | named (hid : m.messageId.isSome) (entries : List (String × String)) :
    Prepares m [⟨.traceEntries, entries⟩] (Trace.inject entries m)
  | unnamed (hid : m.messageId = none) (id : String) (entries : List (String × String)) :
    Prepares m [⟨.freshId, id⟩, ⟨.traceEntries, entries⟩]
      (Trace.inject entries { m with messageId := some (Message.assignedIdStart ++ id) })

/-- What a use comes to: all that is asked for it, and the outcome. -/
inductive Comes (p : Producer) : Use → List Exchange → Except Error Unit → Prop
  | sent {m ready : Message} {preparing : List Exchange} (hbound : p.destination.isSome)
    (hready : Prepares m preparing ready) (reply : Except String Unit) :
    Comes p (.send m) (preparing ++ performed (.send p.handle none ready) reply)
      (reply.mapError .client)
  | unboundRefused {m : Message} (hunbound : p.destination = none) :
    Comes p (.send m) [] (.error (.configuration .unboundProducer))
  | sentTo {destination : Destination} {m ready : Message} {preparing : List Exchange}
    (hunbound : p.destination = none) (hready : Prepares m preparing ready)
    (reply : Except String Unit) :
    Comes p (.sendTo destination m)
      (preparing ++ performed (.send p.handle (some destination) ready) reply)
      (reply.mapError .client)
  | boundRefused {destination : Destination} {m : Message} (hbound : p.destination.isSome) :
    Comes p (.sendTo destination m) [] (.error (.configuration .boundProducer))
  | closed (reply : Except String Unit) :
    Comes p .close (performed (.closeProducer p.handle) reply) (reply.mapError .client)

/-- What uses come to, one after the other. -/
inductive Record (p : Producer) : List Use → List Exchange → List (Except Error Unit) → Prop
  | nil : Record p [] [] []
  | cons {use : Use} {rest : List Use} {added log : List Exchange} {outcome : Except Error Unit}
    {outcomes : List (Except Error Unit)} (h : p.Comes use added outcome)
    (hrest : Record p rest log outcomes) :
    Record p (use :: rest) (added ++ log) (outcome :: outcomes)

section Ensures

variable (p : Producer)

/-- A message is made ready and handed over, whether it is then taken or not. -/
theorem dispatch_ensures (destination : Option Destination) (m : Message) :
    (p.dispatch destination m).run.Ensures fun log outcome =>
      ∃ preparing ready reply, Prepares m preparing ready ∧
        log = preparing ++ performed (.send p.handle destination ready) reply ∧
          outcome = reply.mapError Error.client := by
  have hperform (ready : Message) := perform_performed (.send p.handle destination ready)
  unfold dispatch withId
  cases hid : m.messageId with
  | some id =>
    intro entries
    refine (hperform (Trace.inject entries m)).mono fun log outcome ⟨reply, hlog, houtcome⟩ => ?_
    exact ⟨_, _, reply, .named (Option.isSome_of_mem hid) entries, by rw [hlog]; rfl, houtcome⟩
  | none =>
    intro id entries
    refine (hperform (Trace.inject entries _)).mono fun log outcome ⟨reply, hlog, houtcome⟩ => ?_
    exact ⟨_, _, reply, .unnamed hid id entries, by rw [hlog]; rfl, houtcome⟩

/-- **A use is refused before anything is asked for, or it is one call.** -/
theorem Use.comes (use : Use) : (use.operation p).run.Ensures (p.Comes use) := by
  cases use with
  | send m =>
    show (p.send m).run.Ensures _
    cases hbound : p.destination with
    | none =>
      rw [(Refuses.send (p := p) m hbound).run_eq]
      exact .unboundRefused hbound
    | some bound =>
      rw [Producer.send, hbound]
      refine (p.dispatch_ensures none m).mono ?_
      rintro log outcome ⟨preparing, ready, reply, hready, rfl, rfl⟩
      exact .sent (Option.isSome_of_mem hbound) hready reply
  | sendTo destination m =>
    show (p.sendTo destination m).run.Ensures _
    cases hbound : p.destination with
    | some bound =>
      have hsome : p.destination.isSome := Option.isSome_of_mem hbound
      rw [(Refuses.sendTo destination m hsome).run_eq]
      exact .boundRefused hsome
    | none =>
      rw [Producer.sendTo, hbound]
      refine (p.dispatch_ensures (some destination) m).mono ?_
      rintro log outcome ⟨preparing, ready, reply, hready, rfl, rfl⟩
      exact .sentTo hbound hready reply
  | close =>
    refine (perform_performed (.closeProducer p.handle)).mono ?_
    rintro log outcome ⟨reply, rfl, rfl⟩
    exact .closed reply

/-- **So it goes with every use**, whatever came of those before it. -/
theorem record_uses (uses : List Use) : (p.uses uses).Ensures (p.Record uses) := by
  induction uses with
  | nil => exact .nil
  | cons use rest ih =>
    refine (use.comes p).bind fun added outcome hcomes => ?_
    refine ih.bind fun log outcomes hrest => ?_
    show p.Record (use :: rest) (added ++ (log ++ [])) (outcome :: outcomes)
    rw [List.append_nil]
    exact .cons hcomes hrest

end Ensures

/-! ### Refused uses and calls -/

/-- The call that a use is, with the answer to it. -/
inductive Hands (p : Producer) : Use → AnsweredCall → Prop
  | send {m ready : Message} {preparing : List Exchange} (hready : Prepares m preparing ready)
    (reply : Except String Unit) : Hands p (.send m) ⟨.send p.handle none ready, reply⟩
  | sendTo {destination : Destination} {m ready : Message} {preparing : List Exchange}
    (hready : Prepares m preparing ready) (reply : Except String Unit) :
    Hands p (.sendTo destination m) ⟨.send p.handle (some destination) ready, reply⟩
  | close (reply : Except String Unit) : Hands p .close ⟨.closeProducer p.handle, reply⟩

/-- What an operation that is one call comes to. -/
def outcomeOf (a : AnsweredCall) : Except Error Unit :=
  match a.reply with
  | .ok _ => .ok ()
  | .error text => .error (.client text)

/-- How often the trace context was asked for. -/
def traced (log : List Exchange) : Nat := log.countP fun e => e.request = .traceEntries

/-- The outcomes of the uses that a producer is made for. -/
def kept (p : Producer) (uses : List Use) (outcomes : List (Except Error Unit)) :
    List (Except Error Unit) :=
  ((uses.zip outcomes).filter fun (use, _) => p.serves use).map Prod.snd

/-- How a producer serves uses, by all that was asked for and the outcomes. -/
structure Serves (p : Producer) (uses : List Use) (log : List Exchange)
    (outcomes : List (Except Error Unit)) : Prop where
  /-- All that is asked for is asked for one of the uses, and nothing for those refused. -/
  record : p.Record uses log outcomes
  /-- Every use that the producer is made for is one call, in their order. -/
  inOrder : List.Forall₂ p.Hands (uses.filter p.serves) (calls log)
  /-- Its outcome is that of the call. -/
  served : p.kept uses outcomes = (calls log).map outcomeOf
  /-- Every other use fails with what is wrong with it. -/
  refused : List.Forall₂ (fun use outcome => p.serves use = false →
    ∃ cause, outcome = .error (.configuration cause)) uses outcomes
  /-- The trace context is asked for once for each message that is handed over. -/
  traced : traced log = (uses.filter p.serves).countP Use.isSending

section Serves

variable {p : Producer} {use : Use} {uses : List Use} {added log : List Exchange}
  {outcome : Except Error Unit} {outcomes : List (Except Error Unit)}

theorem kept_cons_of_serves (h : p.serves use = true) :
    p.kept (use :: uses) (outcome :: outcomes) = outcome :: p.kept uses outcomes := by
  simp [kept, h]

theorem kept_cons_of_refuses (h : p.serves use = false) :
    p.kept (use :: uses) (outcome :: outcomes) = p.kept uses outcomes := by
  simp [kept, h]

theorem traced_append (log log' : List Exchange) :
    traced (log ++ log') = traced log + traced log' :=
  List.countP_append

theorem traced_performed (c : Call) (reply : Except String c.Result) :
    traced (performed c reply) = 0 := by
  cases reply <;> rfl

theorem Prepares.calls_eq {m ready : Message} {preparing : List Exchange}
    (h : Prepares m preparing ready) : calls preparing = [] ∧ traced preparing = 1 := by
  cases h <;> exact ⟨rfl, rfl⟩

/-- The outcome of a use that is one call is what the call comes to. -/
theorem outcomeOf_send (destination : Option Destination) (m : Message)
    (reply : Except String Unit) :
    outcomeOf ⟨.send p.handle destination m, reply⟩ = reply.mapError Error.client := by
  cases reply <;> rfl

theorem outcomeOf_close (reply : Except String Unit) :
    outcomeOf ⟨.closeProducer p.handle, reply⟩ = reply.mapError Error.client := by
  cases reply <;> rfl

/-- What a use comes to that the producer is not made for. -/
structure Refused (added : List Exchange) (outcome : Except Error Unit) : Prop where
  nothing : added = []
  cause : ∃ cause, outcome = .error (.configuration cause)

/-- What a use comes to that the producer is made for. -/
structure Served (p : Producer) (use : Use) (added : List Exchange) (outcome : Except Error Unit)
    (a : AnsweredCall) : Prop where
  hands : p.Hands use a
  calls : calls added = [a]
  outcome : outcome = outcomeOf a
  traced : traced added = if use.isSending then 1 else 0

/-- A message that is handed over is one call, after it has been made ready. -/
theorem Prepares.served {m ready : Message} {preparing : List Exchange}
    (h : Prepares m preparing ready) {destination : Option Destination} (hsends : use.isSending)
    (reply : Except String Unit)
    (hhands : p.Hands use ⟨.send p.handle destination ready, reply⟩) :
    p.Served use (preparing ++ performed (.send p.handle destination ready) reply)
      (reply.mapError .client) ⟨.send p.handle destination ready, reply⟩ := by
  obtain ⟨hcalls, htraced⟩ := h.calls_eq
  refine ⟨hhands, ?_, (outcomeOf_send ..).symm, ?_⟩
  · rw [calls_append, hcalls]
    exact calls_performed ..
  · rw [traced_append, htraced, if_pos hsends]
    exact congrArg (1 + ·) (traced_performed ..)

/-- **A producer serves a use if it is made for it, and refuses it otherwise.** -/
theorem Comes.served_or_refused (h : p.Comes use added outcome) :
    (p.serves use = true ∧ ∃ a, p.Served use added outcome a) ∨
      (p.serves use = false ∧ Refused added outcome) := by
  cases h with
  | sent hbound hready reply => exact .inl ⟨hbound, _, hready.served rfl reply (.send hready reply)⟩
  | unboundRefused hunbound =>
    exact .inr ⟨by rw [serves, hunbound]; rfl, rfl, _, rfl⟩
  | sentTo hunbound hready reply =>
    exact .inl ⟨by rw [serves, hunbound]; rfl, _, hready.served rfl reply (.sendTo hready reply)⟩
  | boundRefused hbound =>
    exact .inr ⟨by rw [serves, ← Option.not_isSome, hbound]; rfl, rfl, _, rfl⟩
  | closed reply =>
    exact .inl ⟨rfl, _, .close reply, calls_performed .., (outcomeOf_close reply).symm,
      traced_performed ..⟩

theorem Serves.nil : p.Serves [] [] [] := ⟨.nil, .nil, rfl, .nil, rfl⟩

theorem Serves.cons (hcomes : p.Comes use added outcome) (h : p.Serves uses log outcomes) :
    p.Serves (use :: uses) (added ++ log) (outcome :: outcomes) := by
  have hrecord : p.Record (use :: uses) (added ++ log) (outcome :: outcomes) :=
    .cons hcomes h.record
  rcases hcomes.served_or_refused with ⟨hserves, a, hserved⟩ | ⟨hserves, hrefused⟩
  · refine ⟨hrecord, ?_, ?_, .cons (fun hnot => ?_) h.refused, ?_⟩
    · rw [List.filter_cons_of_pos hserves, calls_append, hserved.calls]
      exact .cons hserved.hands h.inOrder
    · rw [kept_cons_of_serves hserves, calls_append, hserved.calls, List.map_append, ← h.served,
        hserved.outcome]
      rfl
    · rw [hserves] at hnot
      cases hnot
    · rw [List.filter_cons_of_pos hserves, List.countP_cons, traced_append, hserved.traced,
        h.traced, Nat.add_comm]
  · have hserves' : ¬ p.serves use = true := by simp [hserves]
    obtain ⟨rfl, hcause⟩ := hrefused
    refine ⟨hrecord, ?_, ?_, .cons (fun _ => hcause) h.refused, ?_⟩
    · rw [List.filter_cons_of_neg hserves']
      exact h.inOrder
    · exact (kept_cons_of_refuses hserves).trans h.served
    · rw [List.filter_cons_of_neg hserves']
      exact h.traced

/-- **What is on record of a producer is how it serves its uses.** -/
theorem Record.serves (h : p.Record uses log outcomes) : p.Serves uses log outcomes := by
  induction h with
  | nil => exact .nil
  | cons hcomes _ ih => exact .cons hcomes ih

end Serves

/-! ### Without the uses refused -/

/-- A use that the producer is not made for fails before anything is asked for. -/
theorem Use.operation_refused {p : Producer} {use : Use} (h : p.serves use = false) :
    ∃ cause, (use.operation p).run = .done (.error (.configuration cause)) := by
  cases use with
  | send m =>
    have hunbound : p.destination = none := by simpa [serves] using h
    exact ⟨_, (Refuses.send m hunbound).run_eq⟩
  | sendTo destination m =>
    have hbound : p.destination.isSome := by simpa [serves, ← Option.isSome_iff_ne_none] using h
    exact ⟨_, (Refuses.sendTo destination m hbound).run_eq⟩
  | close => cases h

/-- **The uses that a producer refuses make no difference to the others**: without them, the
same is asked for, and the others have the same outcomes. -/
theorem uses_served (p : Producer) (uses : List Use) : p.uses (uses.filter p.serves) =
    (p.uses uses).bind fun outcomes => .done (p.kept uses outcomes) := by
  induction uses with
  | nil => rfl
  | cons use rest ih =>
    rw [Producer.uses, Program.bind_assoc]
    cases hserves : p.serves use with
    | true =>
      rw [List.filter_cons_of_pos hserves, Producer.uses]
      refine congrArg _ (funext fun outcome => ?_)
      rw [ih, Program.bind_assoc, Program.bind_assoc]
      refine congrArg _ (funext fun outcomes => ?_)
      rw [Program.done_bind, Program.done_bind, kept_cons_of_serves hserves]
    | false =>
      -- Nothing is asked for it, so what is left is to take its outcome out again.
      obtain ⟨cause, hcause⟩ := Use.operation_refused hserves
      have hserves' : ¬ p.serves use = true := by simp [hserves]
      rw [List.filter_cons_of_neg hserves', ih, hcause, Program.done_bind, Program.bind_assoc]
      refine congrArg _ (funext fun outcomes => ?_)
      rw [Program.done_bind, kept_cons_of_refuses hserves]

/-! ### The ways in which producers are made -/

namespace Way

variable (way : Way)

/-- However a producer is made, that is one call. -/
theorem operation_ensures : way.operation.run.Ensures fun log outcome =>
    ∃ reply : Except String (Handle .producer),
      log = performed (.createProducer way.session way.destination) reply ∧
        outcome = (reply.map fun handle => (⟨handle, way.destination⟩ : Producer)).mapError
          .client := by
  cases way <;>
  · rintro (text | handle)
    · intro _
      exact ⟨.error text, rfl, rfl⟩
    · exact ⟨.ok handle, rfl, rfl⟩

/-- What becomes of a producer that is made and then used. -/
inductive Runs (way : Way) (uses : List Use) :
    List Exchange → Except Error (List (Except Error Unit)) → Prop
  | made (handle : Handle .producer) {log : List Exchange} {outcomes : List (Except Error Unit)}
    (h : Serves ⟨handle, way.destination⟩ uses log outcomes) :
    Runs way uses (performed (.createProducer way.session way.destination) (.ok handle) ++ log)
      (.ok outcomes)
  | failed (text : String) :
    Runs way uses (performed (.createProducer way.session way.destination) (.error text))
      (.error (.client text))

end Way

end Producer
end MessageBus
