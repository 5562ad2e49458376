/-
# The contexts of a family in turn

The contexts on one connection are used one operation after the other: the
connection is started and stopped, a context is told to start it by itself or
not to, contexts are derived and consumers created, on any context that there
is by then.

Key definitions: `Turns.Creation`, `Turns.Command`, `Turns.State`, `Turns.State.run`.
Key theorems: `Turns.State.step_cases`, `Turns.State.getElem?_run`.
-/
import MessageBus.Proofs.Context.World

namespace MessageBus
namespace Turns

/-- A consumer that a context can be asked for. -/
inductive Creation
  | plain (destination : Destination) (selector : Option String) (noLocal : Bool)
  | durable (topic : Topic) (name : String) (selector : Option String) (noLocal : Bool)
  | shared (topic : Topic) (name : String) (selector : Option String)
  | sharedDurable (topic : Topic) (name : String) (selector : Option String)

namespace Creation

def operation (c : Context) : Creation → Operation Consumer
  | plain destination selector noLocal => c.createConsumer destination selector noLocal
  | durable topic name selector noLocal => c.createDurableConsumer topic name selector noLocal
  | shared topic name selector => c.createSharedConsumer topic name selector
  | sharedDurable topic name selector => c.createSharedDurableConsumer topic name selector

/-- What the client library is told about it. -/
def spec : Creation → ConsumerSpec
  | plain destination selector noLocal => .plain destination selector noLocal
  | durable topic name selector noLocal => .durable topic name selector noLocal
  | shared topic name selector => .shared topic name selector false
  | sharedDurable topic name selector => .shared topic name selector true

theorem operation_eq (c : Context) (creation : Creation) :
    creation.operation c = c.consume creation.spec := by
  cases creation <;> rfl

end Creation

/-- What is done with a context. -/
inductive Act
  | start
  | stop
  | setAutoStart (autoStart : Bool)
  | createContext (mode : SessionMode)
  | consume (creation : Creation)

/-- What is done with a context, and the place of the context among all there are. -/
structure Command where
  place : Nat
  act : Act

/-- The surroundings, the contexts and the consumers that their callers have been given,
the first ones first. -/
structure State where
  world : World
  contexts : List Context
  consumers : List Consumer := []

namespace State

variable (family : Family) (outside : Outside)

/-- Does something with the context in a place. -/
def act (s : State) (place : Nat) (c : Context) : Act → State
  | .start => { s with world := (s.world.run family outside c.start).2 }
  | .stop => { s with world := (s.world.run family outside c.stop).2 }
  | .setAutoStart autoStart => { s with contexts := s.contexts.set place (c.setAutoStart autoStart) }
  | .createContext mode =>
    let (outcome, world) := s.world.run family outside (c.createContext mode)
    { s with world, contexts := s.contexts ++ outcome.toOption.toList }
  | .consume creation =>
    let (outcome, world) := s.world.run family outside (creation.operation c)
    { s with world, consumers := s.consumers ++ outcome.toOption.toList }

/-- Carries out a command, if there is a context in its place. -/
def step (s : State) (command : Command) : State :=
  match s.contexts[command.place]? with
  | some c => s.act family outside command.place c command.act
  | none => s

def run (s : State) (commands : List Command) : State := commands.foldl (step family outside) s

end State

/-! ### What a command comes to -/

/-- What a command can make of a state. -/
inductive Turn (s : State) : State → Prop
  | nobody : Turn s s
  | started {c : Context} {added : List Exchange} {outcome : Except Error Unit} {started : Bool}
      (hc : c ∈ s.contexts) (h : c.Starts s.world.cell.started added outcome started) :
    Turn s { s with world := ⟨{ s.world.cell with started }, s.world.log ++ added⟩ }
  | stopped {c : Context} {added : List Exchange} {outcome : Except Error Unit} {started : Bool}
      (hc : c ∈ s.contexts) (h : c.Stops s.world.cell.started added outcome started) :
    Turn s { s with world := ⟨{ s.world.cell with started }, s.world.log ++ added⟩ }
  | told {place : Nat} {c : Context} (hc : c ∈ s.contexts) (autoStart : Bool) :
    Turn s { s with contexts := s.contexts.set place (c.setAutoStart autoStart) }
  | derived {c : Context} {mode : SessionMode} {added : List Exchange}
      {outcome : Except Error Context} {openContexts : UInt64} (hc : c ∈ s.contexts)
      (h : c.Derives mode s.world.cell.openContexts added outcome openContexts) :
    Turn s { s with
      world := ⟨{ s.world.cell with openContexts }, s.world.log ++ added⟩
      contexts := s.contexts ++ outcome.toOption.toList }
  | consumed {c : Context} {spec : ConsumerSpec} {added : List Exchange}
      {outcome : Except Error Consumer} {started : Bool} (hc : c ∈ s.contexts)
      (h : c.Consumes spec s.world.cell.started added outcome started) :
    Turn s { s with
      world := ⟨{ s.world.cell with started }, s.world.log ++ added⟩
      consumers := s.consumers ++ outcome.toOption.toList }

namespace State

variable {family : Family} {outside : Outside} {s : State}

/-- **A command changes a state in one of these ways.** -/
theorem step_cases (hfamily : ∀ c ∈ s.contexts, c.family = family) (command : Command) :
    Turn s (s.step family outside command) := by
  obtain ⟨place, act⟩ := command
  unfold step
  cases hplace : s.contexts[place]? with
  | none => exact .nobody
  | some c =>
    have hc : c ∈ s.contexts := List.mem_of_getElem? hplace
    have hmember := hfamily c hc
    cases act with
    | start =>
      obtain ⟨added, outcome, started, h, hrun⟩ :=
        World.run_start outside hmember s.world
      simp only [State.act, hrun]
      exact .started hc h
    | stop =>
      obtain ⟨added, outcome, started, h, hrun⟩ :=
        World.run_stop outside hmember s.world
      simp only [State.act, hrun]
      exact .stopped hc h
    | setAutoStart autoStart => exact .told hc autoStart
    | createContext mode =>
      obtain ⟨added, outcome, openContexts, h, hrun⟩ :=
        World.run_createContext outside hmember mode s.world
      simp only [State.act, hrun]
      exact .derived hc h
    | consume creation =>
      obtain ⟨added, outcome, started, h, hrun⟩ :=
        World.run_consume outside hmember creation.spec s.world
      simp only [State.act, creation.operation_eq, hrun]
      exact .consumed hc h

/-- What is so at first and stays so with every command is so after all of them. -/
theorem run_induction {P : State → Prop} (hs : P s)
    (hstep : ∀ s command, P s → P (step family outside s command)) (commands : List Command) :
    P (s.run family outside commands) :=
  List.foldlRecOn commands _ hs fun s hs command _ => hstep s command hs

end State

/-! ### What a context has been told -/

/-- What a command tells the context in a place about starting the connection. -/
def Command.tells (place : Nat) : Command → Option Bool
  | ⟨place', .setAutoStart autoStart⟩ => if place' = place then some autoStart else none
  | _ => none

/-- What the context in a place has been told last. -/
def lastTold (place : Nat) (commands : List Command) : Option Bool :=
  (commands.filterMap (Command.tells place)).getLast?

namespace State

variable {family : Family} {outside : Outside} {s : State}

theorem lt_length {place : Nat} {c : Context} (hc : s.contexts[place]? = some c) :
    place < s.contexts.length :=
  (List.getElem?_eq_some_iff.1 hc).1

/-- What a context is told changes that context alone. -/
theorem getElem?_act {place place' : Nat} {c c' : Context} (hc : s.contexts[place]? = some c)
    (hc' : s.contexts[place']? = some c') (act : Act) :
    (s.act family outside place' c' act).contexts[place]? =
      some (c.setAutoStart ((Command.tells place ⟨place', act⟩).getD c.autoStart)) := by
  cases act with
  | start => exact hc
  | stop => exact hc
  | consume creation => exact hc
  | createContext mode =>
    show (s.contexts ++ _)[place]? = some c
    rw [List.getElem?_append_left (lt_length hc), hc]
  | setAutoStart autoStart =>
    show (s.contexts.set place' (c'.setAutoStart autoStart))[place]? = _
    by_cases hplace : place' = place
    · subst hplace
      obtain rfl : c = c' := Option.some.inj (hc.symm.trans hc')
      simp [Command.tells, List.getElem?_set_self (lt_length hc)]
    · rw [List.getElem?_set_ne hplace, hc]
      simp [Command.tells, hplace, Context.setAutoStart]

theorem getElem?_step {place : Nat} {c : Context} (hc : s.contexts[place]? = some c)
    (command : Command) : (s.step family outside command).contexts[place]? =
      some (c.setAutoStart ((command.tells place).getD c.autoStart)) := by
  unfold step
  cases hc' : s.contexts[command.place]? with
  | some c' => exact getElem?_act hc hc' command.act
  | none =>
    have hplace : command.place ≠ place := by
      intro hplace
      rw [hplace, hc] at hc'
      cases hc'
    have htells : command.tells place = none := by
      unfold Command.tells
      split
      · exact if_neg hplace
      · rfl
    rw [htells]
    exact hc

/-- **A context stays as it is, except that it does as it has been told last.** -/
theorem getElem?_run {place : Nat} {c : Context} (hc : s.contexts[place]? = some c)
    (commands : List Command) : (s.run family outside commands).contexts[place]? =
      some (c.setAutoStart ((lastTold place commands).getD c.autoStart)) := by
  induction commands generalizing s c with
  | nil => exact hc
  | cons command commands ih =>
    rw [run, List.foldl_cons]
    refine (ih (getElem?_step hc command)).trans ?_
    unfold lastTold
    cases htells : command.tells place with
    | none => rw [List.filterMap_cons_none htells]; rfl
    | some autoStart =>
      rw [List.filterMap_cons_some htells, List.getLast?_cons]
      rfl

end State
end Turns
end MessageBus
