/-
# Contexts in use at the same time

The contexts on one connection are used at the same time. Operations are begun on
them whenever their callers like, and go on one request after another, in any order
among them. Starting or stopping the connection takes two requests, the call and
the note that it has succeeded, and other operations may come between the two.

Key definitions: `Overlap.Job`, `Overlap.Flight`, `Overlap.State`, `Overlap.Move`,
`Overlap.State.run`, `Overlap.Leaves`.
Key theorems: `Overlap.State.step_cases`, `Overlap.Job.leaves`.
-/
import MessageBus.Proofs.Context.Notes
import MessageBus.Proofs.Context.Turns

namespace MessageBus
namespace Overlap

open Turns (Creation)

/-! ### States -/

/-- What can be begun on a context. -/
inductive Job
  | start
  | stop
  | createContext (mode : SessionMode)
  | consume (creation : Creation)

/-- What a caller gains by it. -/
inductive Gain
  | nothing
  | context (child : Context)
  | consumer (made : Consumer)

def Job.program (c : Context) : Job → Program (Except Error Gain)
  | start => c.start.run.bind fun outcome => .done (outcome.map fun _ => .nothing)
  | stop => c.stop.run.bind fun outcome => .done (outcome.map fun _ => .nothing)
  | createContext mode => (c.createContext mode).run.bind fun outcome =>
    .done (outcome.map .context)
  | consume creation => (creation.operation c).run.bind fun outcome =>
    .done (outcome.map .consumer)

/-- An operation that has been begun on a context, which is in a place among all there are. -/
structure Flight where
  place : Nat
  owner : Context
  /-- The length of the record when it was begun or last answered. -/
  last : Nat
  /-- What is left of it. -/
  left : Program (Except Error Gain)

namespace Flight

/-- Whether there is something left of an operation. -/
def isUnderWay (f : Flight) : Bool :=
  match f.left with
  | .done _ => false
  | .ask .. => true

/-- The consumer that an operation has given to its caller. -/
def made? (f : Flight) : Option Consumer :=
  match f.left with
  | .done (.ok (.consumer made)) => some made
  | _ => none

/-- The context that an operation has given to its caller. -/
def child? (f : Flight) : Option Context :=
  match f.left with
  | .done (.ok (.context child)) => some child
  | _ => none

theorem left_of_mem_child? {f : Flight} {child : Context} (h : child ∈ f.child?) :
    f.left = .done (.ok (.context child)) := by
  unfold child? at h
  split at h
  · next child' hleft => rw [hleft, Option.mem_some.1 h]
  · cases h

theorem exists_of_made?_isSome {f : Flight} (h : f.made?.isSome) :
    ∃ made, f.left = .done (.ok (.consumer made)) := by
  unfold made? at h
  split at h
  · next made hleft => exact ⟨made, hleft⟩
  · cases h

end Flight

/-- The surroundings, the contexts, and all operations that have been begun. -/
structure State where
  world : World
  contexts : List Context
  flights : List Flight := []

/-- What can happen. -/
inductive Move
  /-- A job is begun on the context in a place. -/
  | begins (place : Nat) (job : Job)
  /-- The context in a place is told whether to start the connection by itself. -/
  | tells (place : Nat) (autoStart : Bool)
  /-- The request that an operation waits for is answered, and the operation goes on. -/
  | answers (flight : Nat)

namespace State

variable (family : Family) (outside : Outside)

def answer (s : State) (flight : Nat) (f : Flight) : State :=
  match f.left with
  | .done _ => s
  | .ask r next =>
    let (reply, world) := World.answer family outside r s.world
    let f := { f with left := next reply, last := s.world.log.length + 1 }
    { world, contexts := s.contexts ++ f.child?.toList, flights := s.flights.set flight f }

/-- Makes a move, if it is possible. A context is told nothing while it is in use. -/
def step (s : State) : Move → State
  | .begins place job =>
    match s.contexts[place]? with
    | some c => { s with flights := s.flights ++ [⟨place, c, s.world.log.length, job.program c⟩] }
    | none => s
  | .tells place autoStart =>
    match s.contexts[place]? with
    | some c =>
      if s.flights.any fun f => f.place = place && f.isUnderWay then s
      else { s with contexts := s.contexts.set place (c.setAutoStart autoStart) }
    | none => s
  | .answers flight =>
    match s.flights[flight]? with
    | some f => s.answer family outside flight f
    | none => s

def run (s : State) (moves : List Move) : State := moves.foldl (step family outside) s

def isIdle (s : State) : Bool := s.flights.all fun f => !f.isUnderWay

end State

/-! ### What a move comes to -/

/-- What a move can make of a state. -/
inductive Moved (family : Family) (outside : Outside) (s : State) : State → Prop
  | unmoved : Moved family outside s s
  | begun {c : Context} (place : Nat) (hc : c ∈ s.contexts) (job : Job) : Moved family outside s
    { s with flights := s.flights ++ [⟨place, c, s.world.log.length, job.program c⟩] }
  | told {c : Context} (place : Nat) (hc : c ∈ s.contexts) (autoStart : Bool) :
    Moved family outside s
      { s with contexts := s.contexts.set place (c.setAutoStart autoStart) }
  | answered {before after : List Flight} {place last : Nat} {owner : Context} {r : Request}
    {next : r.Reply → Program (Except Error Gain)} {reply : r.Reply} {cell : FamilyCell}
    {f : Flight} (hflights : s.flights = before ++ ⟨place, owner, last, .ask r next⟩ :: after)
    (hanswer : FamilyCell.answer family (outside s.world.log) r s.world.cell = (reply, cell))
    (hf : f = ⟨place, owner, s.world.log.length + 1, next reply⟩) :
    Moved family outside s ⟨⟨cell, s.world.log ++ [⟨r, reply⟩]⟩, s.contexts ++ f.child?.toList,
      before ++ f :: after⟩

namespace State

variable {family : Family} {outside : Outside} {s : State}

/-- **A move changes a state in one of these ways.** -/
theorem step_cases (move : Move) : Moved family outside s (s.step family outside move) := by
  cases move with
  | begins place job =>
    simp only [step]
    split
    · next c hc => exact .begun place (List.mem_of_getElem? hc) job
    · exact .unmoved
  | tells place autoStart =>
    simp only [step]
    split
    · next c hc =>
      split
      · exact .unmoved
      · exact .told place (List.mem_of_getElem? hc) autoStart
    · exact .unmoved
  | answers flight =>
    simp only [step]
    split
    · next f hf =>
      obtain ⟨place, owner, last, left⟩ := f
      cases left with
      | done outcome => exact .unmoved
      | ask r next =>
        obtain ⟨hlt, hget⟩ := List.getElem?_eq_some_iff.1 hf
        obtain ⟨before, after, hflights, -, hset⟩ := @List.exists_of_set _ flight
          ⟨place, owner, s.world.log.length + 1, next (World.answer family outside r s.world).1⟩
          s.flights hlt
        rw [hget] at hflights
        simp only [answer, hset]
        exact .answered hflights rfl rfl
    · exact .unmoved

end State

/-! ### What an operation does next -/

/-- What is left of an operation on a context after an exchange of it: a start or stop that
has succeeded is noted next, and nothing else is. A context that starts the connection by
itself gives out a consumer when the connection counts as started. -/
inductive Leaves (c : Context) : Exchange → Program (Except Error Gain) → Prop
  | goesOn {e : Exchange} {r : Request} {next : r.Reply → Program (Except Error Gain)}
    (hold : e.request ≠ .newFamily) (hnotes : r.note? c.family = e.switched c.connection) :
    Leaves c e (.ask r next)
  | failed {e : Exchange} (hold : e.request ≠ .newFamily)
    (hquiet : e.switched c.connection = none) (cause : Error) : Leaves c e (.done (.error cause))
  | switched (on : Bool) : Leaves c (c.noted on) (.done (.ok .nothing))
  | derived (session : Session) : Leaves c ⟨.joinFamily c.family, ()⟩
    (.done (.ok (.context { c with toSession := session })))
  | passive {e : Exchange} (hold : e.request ≠ .newFamily)
    (hquiet : e.switched c.connection = none) (hpassive : c.autoStart = false)
    (made : Consumer) : Leaves c e (.done (.ok (.consumer made)))
  | running (made : Consumer) : Leaves c (c.looked true) (.done (.ok (.consumer made)))
  | started (made : Consumer) : Leaves c (c.noted true) (.done (.ok (.consumer made)))

namespace Leaves

variable {c : Context} {e : Exchange} {left : Program (Except Error Gain)}

theorem old (h : Leaves c e left) : e.request ≠ .newFamily := by
  cases h with
  | goesOn hold _ | failed hold _ _ | passive hold _ _ _ => exact hold
  | _ => exact Request.noConfusion

theorem owes_eq (h : Leaves c e left) : left.owes c.family = e.switched c.connection := by
  cases h with
  | goesOn _ hnotes => exact hnotes
  | failed _ hquiet _ | passive _ hquiet _ _ => exact hquiet.symm
  | _ => rfl

/-- A context that is made is on the same connection. -/
theorem child (h : Leaves c e left) {child : Context}
    (hchild : left = .done (.ok (.context child))) :
    child.family = c.family ∧ child.connection = c.connection := by
  cases h with
  | derived session =>
    cases hchild
    exact ⟨rfl, rfl⟩
  | _ => cases hchild

/-- A consumer is given out when the connection counts as started. -/
theorem consumer (h : Leaves c e left) (hactive : c.autoStart = true) {made : Consumer}
    (hmade : left = .done (.ok (.consumer made))) : e = c.looked true ∨ e = c.noted true := by
  cases h with
  | passive _ _ hpassive made =>
    rw [hpassive] at hactive
    cases hactive
  | running made => exact .inl rfl
  | started made => exact .inr rfl
  | _ => cases hmade

end Leaves

namespace Job

variable (c : Context)

/-- The first request of an operation notes nothing. -/
theorem program_eq_ask (job : Job) :
    ∃ r next, job.program c = .ask r next ∧ r.note? c.family = none := by
  cases job with
  | start => exact ⟨_, _, congrArg (Program.bind · _) c.start_run, rfl⟩
  | stop => exact ⟨_, _, congrArg (Program.bind · _) c.stop_run, rfl⟩
  | createContext mode => exact ⟨_, _, congrArg (Program.bind · _) (c.createContext_run mode), rfl⟩
  | consume creation =>
    rw [program, creation.operation_eq]
    exact ⟨_, _, congrArg (Program.bind · _) (c.consume_run creation.spec), rfl⟩

/-- A start or stop that has been answered is noted, or reported. -/
theorem leaves_afterSwitch (call : Call) (on : Bool) (asked : Except String Unit → Exchange)
    (hold : ∀ reply, (asked reply).request ≠ .newFamily)
    (hok : (asked (.ok ())).switched c.connection = some on)
    (herror : ∀ text, (asked (.error text)).switched c.connection = none)
    (reply : Except String Unit) :
    let left := (c.afterSwitch call on reply).bind fun outcome =>
      .done (outcome.map fun _ => Gain.nothing)
    Leaves c (asked reply) left ∧ left.Follows (Leaves c) := by
  cases reply with
  | error text =>
    refine ⟨.goesOn (hold _) (herror text).symm, fun _ => ⟨?_, trivial⟩⟩
    exact .failed Request.noConfusion rfl _
  | ok _ =>
    refine ⟨.goesOn (hold _) ?_, fun _ => ⟨.switched on, trivial⟩⟩
    rw [hok, Request.note?_setStarted]

theorem leaves_start : (start.program c).Follows (Leaves c) := by
  rw [program, Context.start_run]
  exact leaves_afterSwitch c _ true (.ofCall (.start c.connection.handle))
    (fun _ => Request.noConfusion) (Exchange.switched_start _) fun _ => rfl

theorem leaves_stop : (stop.program c).Follows (Leaves c) := by
  rw [program, Context.stop_run]
  exact leaves_afterSwitch c _ false (.ofCall (.stop c.connection.handle))
    (fun _ => Request.noConfusion) (Exchange.switched_stop _) fun _ => rfl

theorem leaves_createContext (mode : SessionMode) :
    ((createContext mode).program c).Follows (Leaves c) := by
  rw [program, Context.createContext_run]
  rintro (text | session)
  · refine ⟨.goesOn Request.noConfusion rfl, fun _ => ⟨?_, trivial⟩⟩
    exact .failed Request.noConfusion rfl _
  · exact ⟨.goesOn Request.noConfusion rfl, fun _ => ⟨.derived ⟨session⟩, trivial⟩⟩

/-- The creation of a consumer that has looked at the started flag. -/
theorem leaves_afterLook (made : Handle .consumer) :
    ((c.afterLook made false).bind fun outcome =>
      .done (outcome.map Gain.consumer)).Follows (Leaves c) := by
  have hnoted := (Request.note?_setStarted c.family true).trans
    (Exchange.switched_start c.connection).symm
  rintro (text | _)
  · refine ⟨.goesOn Request.noConfusion rfl, fun _ => ⟨.goesOn Request.noConfusion rfl, ?_⟩⟩
    rintro (problem | _)
    · refine ⟨.goesOn Request.noConfusion rfl, fun _ => ⟨?_, trivial⟩⟩
      exact .failed Request.noConfusion rfl _
    · exact ⟨.failed Request.noConfusion rfl _, trivial⟩
  · exact ⟨.goesOn Request.noConfusion hnoted, fun _ => ⟨.started ⟨made⟩, trivial⟩⟩

theorem leaves_consume (creation : Creation) :
    ((consume creation).program c).Follows (Leaves c) := by
  rw [program, creation.operation_eq, Context.consume_run]
  rintro (text | made)
  · refine ⟨.goesOn Request.noConfusion rfl, fun _ => ⟨?_, trivial⟩⟩
    exact .failed Request.noConfusion rfl _
  · show Leaves c _ ((c.afterConsumer creation.spec (.ok made)).bind _) ∧
      ((c.afterConsumer creation.spec (.ok made)).bind _).Follows (Leaves c)
    unfold Context.afterConsumer
    dsimp only
    cases hauto : c.autoStart with
    | false => exact ⟨.passive Request.noConfusion rfl hauto ⟨made⟩, trivial⟩
    | true =>
      refine ⟨.goesOn Request.noConfusion rfl, ?_⟩
      rintro (_ | _)
      · exact ⟨.goesOn Request.noConfusion rfl, leaves_afterLook c made⟩
      · exact ⟨.running ⟨made⟩, trivial⟩

/-- **So it is with every operation, all the way.** -/
theorem leaves (job : Job) : (job.program c).Follows (Leaves c) := by
  cases job with
  | start => exact leaves_start c
  | stop => exact leaves_stop c
  | createContext mode => exact leaves_createContext c mode
  | consume creation => exact leaves_consume c creation

end Job

end Overlap
end MessageBus
