/-
# Surroundings of a family that keep a record

The surroundings of a family of contexts keep its cell and a record of all
requests with their answers. Everything that does not concern the family is
answered from outside, in any way that goes by the record.

What an operation of a context can come to in them is said once for each: which
exchanges it adds to the record, its outcome, and what the cell holds then.

Key definitions: `World`, `World.run`, `Context.Opens`, `Context.Starts`, `Context.Stops`,
`Context.Derives`, `Context.Consumes`.
Key theorems: `World.run_openOn`, `World.run_start`, `World.run_stop`,
`World.run_createContext`, `World.run_consume`.
-/
import MessageBus.Proofs.Client.Exchange
import MessageBus.Proofs.Context.Family

namespace MessageBus

/-! ### Surroundings that keep a record -/

/-- The cell of a family, and the record of what was asked. -/
structure World where
  cell : FamilyCell
  log : List Exchange

/-- What answers from outside of a family, by the record. -/
abbrev Outside := List Exchange → (r : Request) → r.Reply

namespace World

/-- The answer to a request, and the surroundings after it. -/
def answer (family : Family) (outside : Outside) (r : Request) (w : World) : r.Reply × World :=
  let (reply, cell) := FamilyCell.answer family (outside w.log) r w.cell
  (reply, ⟨cell, w.log ++ [⟨r, reply⟩]⟩)

def run {α : Type} (family : Family) (outside : Outside) (operation : Operation α) (w : World) :
    Except Error α × World :=
  operation.run.runWith (answer family outside) w

end World

/-! ### What an operation comes to -/

namespace Context

/-- The exchange of noting whether the connection has been started. -/
def noted (c : Context) (started : Bool) : Exchange := ⟨.setStarted c.family started, ()⟩

/-- The exchange of looking whether the connection has been started. -/
def looked (c : Context) (started : Bool) : Exchange := ⟨.isStarted c.family, started⟩

/-- What starting or stopping the connection comes to, by what the call comes to: the
exchanges, the outcome, and whether the connection counts as started then, given whether
it did before. -/
inductive Switches (c : Context) (called : Except String Unit → List Exchange) (on before : Bool) :
    List Exchange → Except Error Unit → Bool → Prop
  | switched : Switches c called on before (called (.ok ()) ++ [c.noted on]) (.ok ()) on
  | failed (text : String) :
    Switches c called on before (called (.error text)) (.error (.client text)) before

/-- What starting the connection comes to. -/
abbrev Starts (c : Context) :=
  c.Switches (performed (.start c.connection.handle)) true

/-- What stopping the connection comes to. -/
abbrev Stops (c : Context) :=
  c.Switches (performed (.stop c.connection.handle)) false

/-- What making the first context of a family comes to, with the cell before and after. -/
inductive Opens (connection : Connection) (family : Family) (mode : SessionMode)
    (before : FamilyCell) : List Exchange → Except Error Context → FamilyCell → Prop
  | opened (session : Handle .session) : Opens connection family mode before
      (performed (.createSession connection.handle mode) (.ok session) ++ [⟨.newFamily, family⟩])
      (.ok { handle := session, connection, family }) ⟨1, false⟩
  | failed (text : String) : Opens connection family mode before
      (performed (.createSession connection.handle mode) (.error text))
      (.error (.client text)) before

/-- What deriving a context comes to, with the number of open contexts before and after. -/
inductive Derives (c : Context) (mode : SessionMode) (before : UInt64) :
    List Exchange → Except Error Context → UInt64 → Prop
  | derived (session : Handle .session) : Derives c mode before
      (performed (.createSession c.connection.handle mode) (.ok session) ++
        [⟨.joinFamily c.family, ()⟩]) (.ok { c with toSession := ⟨session⟩ }) (before + 1)
  | failed (text : String) : Derives c mode before
      (performed (.createSession c.connection.handle mode) (.error text))
      (.error (.client text)) before

/-- What creating a consumer comes to. -/
inductive Consumes (c : Context) (spec : ConsumerSpec) (before : Bool) :
    List Exchange → Except Error Consumer → Bool → Prop
  | refused (text : String) : Consumes c spec before
      (performed (.createConsumer c.handle spec) (.error text)) (.error (.client text)) before
  /-- The context does not start the connection by itself. -/
  | passive (made : Handle .consumer) (hpassive : c.autoStart = false) : Consumes c spec before
      (performed (.createConsumer c.handle spec) (.ok made)) (.ok ⟨made⟩) before
  /-- The connection counts as started already. -/
  | running (made : Handle .consumer) (hactive : c.autoStart = true) (hbefore : before = true) :
    Consumes c spec before
      (performed (.createConsumer c.handle spec) (.ok made) ++ [c.looked true]) (.ok ⟨made⟩) before
  /-- The connection is started. -/
  | started (made : Handle .consumer) (hactive : c.autoStart = true) (hbefore : before = false) :
    Consumes c spec before
      (performed (.createConsumer c.handle spec) (.ok made) ++ [c.looked false] ++
        performed (.start c.connection.handle) (.ok ()) ++ [c.noted true]) (.ok ⟨made⟩) true
  /-- The connection cannot be started, and the consumer is closed, or cannot be. -/
  | abandoned (made : Handle .consumer) (hactive : c.autoStart = true) (hbefore : before = false)
      (text : String) (closing : Except String (Call.closeConsumer made).Result) :
    Consumes c spec before
      (performed (.createConsumer c.handle spec) (.ok made) ++ [c.looked false] ++
        performed (.start c.connection.handle) (.error text) ++
          performed (.closeConsumer made) closing) (.error (.client text)) before

end Context

namespace World

variable {family : Family} {outside : Outside} {c : Context}

/-- A request is answered and put on record, and the program goes on. -/
theorem runWith_ask {α : Type} {log : List Exchange} {cell cell' : FamilyCell} {r : Request}
    {next : r.Reply → Program α} {reply : r.Reply}
    (h : FamilyCell.answer family (outside log) r cell = (reply, cell')) :
    (Program.ask r next).runWith (answer family outside) ⟨cell, log⟩ =
      (next reply).runWith (answer family outside) ⟨cell', log ++ [⟨r, reply⟩]⟩ := by
  have hgo (p : r.Reply × FamilyCell) (hp : p = (reply, cell')) :
      (next p.1).runWith (answer family outside) ⟨p.2, log ++ [⟨r, p.1⟩]⟩ =
        (next reply).runWith (answer family outside) ⟨cell', log ++ [⟨r, reply⟩]⟩ := by
    rw [hp]
  exact hgo _ h

/-- So does a program that has put something on record before. -/
theorem runWith_ask_append {α : Type} {log added : List Exchange} {cell cell' : FamilyCell}
    {r : Request} {next : r.Reply → Program α} {reply : r.Reply}
    (h : FamilyCell.answer family (outside (log ++ added)) r cell = (reply, cell')) :
    (Program.ask r next).runWith (answer family outside) ⟨cell, log ++ added⟩ =
      (next reply).runWith (answer family outside) ⟨cell', log ++ (added ++ [⟨r, reply⟩])⟩ := by
  rw [← List.append_assoc]
  exact runWith_ask h

theorem answer_noted (hfamily : c.family = family) (others : (r : Request) → r.Reply)
    (cell : FamilyCell) (started : Bool) :
    FamilyCell.answer family others (.setStarted c.family started) cell =
      ((), { cell with started }) :=
  congrArg (Prod.mk ()) (if_pos hfamily)

theorem answer_looked (hfamily : c.family = family) (others : (r : Request) → r.Reply)
    (cell : FamilyCell) :
    FamilyCell.answer family others (.isStarted c.family) cell = (cell.started, cell) :=
  congrArg (·, cell) (if_pos hfamily)

theorem answer_joined (hfamily : c.family = family) (others : (r : Request) → r.Reply)
    (cell : FamilyCell) :
    FamilyCell.answer family others (.joinFamily c.family) cell =
      ((), { cell with openContexts := cell.openContexts + 1 }) :=
  congrArg (Prod.mk ()) (if_pos hfamily)

theorem runWith_afterSwitch (hfamily : c.family = family) (w : World) (call : Call) (on : Bool)
    (asked : Except String Unit → Exchange) (reply : Except String Unit) :
    ∃ added outcome started,
      c.Switches (fun reply => asked reply :: reported call reply) on w.cell.started
        added outcome started ∧
        (c.afterSwitch call on reply).runWith (answer family outside)
          ⟨w.cell, w.log ++ [asked reply]⟩ =
            (outcome, ⟨{ w.cell with started }, w.log ++ added⟩) := by
  cases reply with
  | ok _ => exact ⟨_, _, _, .switched, runWith_ask_append (answer_noted hfamily _ _ on)⟩
  | error text => exact ⟨_, _, _, .failed text, runWith_ask_append rfl⟩

theorem run_start (outside : Outside) (hfamily : c.family = family) (w : World) :
    ∃ added outcome started, c.Starts w.cell.started added outcome started ∧
      run family outside c.start w = (outcome, ⟨{ w.cell with started }, w.log ++ added⟩) := by
  rw [run, Context.start_run]
  exact runWith_afterSwitch hfamily w _ _ (.ofCall (.start c.connection.handle))
    (outside w.log (.call (.start c.connection.handle)))

theorem run_stop (outside : Outside) (hfamily : c.family = family) (w : World) :
    ∃ added outcome started, c.Stops w.cell.started added outcome started ∧
      run family outside c.stop w = (outcome, ⟨{ w.cell with started }, w.log ++ added⟩) := by
  rw [run, Context.stop_run]
  exact runWith_afterSwitch hfamily w _ _ (.ofCall (.stop c.connection.handle))
    (outside w.log (.call (.stop c.connection.handle)))

theorem run_openOn (family : Family) (outside : Outside) (connection : Connection)
    (mode : SessionMode) (w : World) :
    ∃ added outcome cell, Context.Opens connection family mode w.cell added outcome cell ∧
      run family outside (Context.openOn connection mode) w = (outcome, ⟨cell, w.log ++ added⟩) := by
  rw [run, Context.openOn_run]
  cases hreply : (outside w.log (.call (.createSession connection.handle mode)) :
      Except String (Handle .session)) with
  | ok session =>
    exact ⟨_, _, _, .opened session,
      (runWith_ask (congrArg (·, w.cell) hreply)).trans (runWith_ask_append rfl)⟩
  | error text =>
    exact ⟨_, _, _, .failed text,
      (runWith_ask (congrArg (·, w.cell) hreply)).trans (runWith_ask_append rfl)⟩

theorem run_createContext (outside : Outside) (hfamily : c.family = family) (mode : SessionMode)
    (w : World) :
    ∃ added outcome openContexts, c.Derives mode w.cell.openContexts added outcome openContexts ∧
      run family outside (c.createContext mode) w =
        (outcome, ⟨{ w.cell with openContexts }, w.log ++ added⟩) := by
  have hreply (reply : Except String (Handle .session)) : ∃ added outcome openContexts,
      c.Derives mode w.cell.openContexts added outcome openContexts ∧
        (c.afterCreation reply).runWith (answer family outside)
          ⟨w.cell, w.log ++ [.ofCall (.createSession c.connection.handle mode) reply]⟩ =
            (outcome, ⟨{ w.cell with openContexts }, w.log ++ added⟩) := by
    cases reply with
    | ok session => exact ⟨_, _, _, .derived session, runWith_ask_append (answer_joined hfamily _ _)⟩
    | error text => exact ⟨_, _, _, .failed text, runWith_ask_append rfl⟩
  rw [run, Context.createContext_run]
  exact hreply (outside w.log (.call (.createSession c.connection.handle mode)))

/-- The end of a creation whose consumer has been closed for nothing. -/
theorem runWith_afterAbandoning (family : Family) (outside : Outside) (cell : FamilyCell)
    (log added : List Exchange) (made : Handle .consumer) (e : Error)
    (closing : Except String Unit) :
    (Context.afterAbandoning made e closing).runWith (answer family outside)
      ⟨cell, log ++ (added ++ [.ofCall (.closeConsumer made) closing])⟩ =
        (.error e, ⟨cell, log ++ (added ++ performed (.closeConsumer made) closing)⟩) := by
  cases closing with
  | ok _ => rfl
  | error text =>
    refine (runWith_ask_append rfl).trans ?_
    rw [List.append_assoc added]
    rfl

/-- The end of a creation whose start has failed: the consumer is closed. -/
theorem runWith_afterStart_error (cell : FamilyCell) (log added : List Exchange)
    (made : Handle .consumer) (text : String) : ∃ closing,
      (c.afterStart made (.error text)).runWith (answer family outside)
        ⟨cell, log ++ (added ++ [.ofCall (.start c.connection.handle) (.error text)])⟩ =
          (.error (.client text), ⟨cell, log ++ (added ++
            performed (.start c.connection.handle) (.error text) ++
              performed (.closeConsumer made) closing)⟩) := by
  have hreport : added ++ [.ofCall (.start c.connection.handle) (.error text)] ++
      reported (.start c.connection.handle) (.error text : Except String Unit) =
        added ++ performed (.start c.connection.handle) (.error text) :=
    List.append_assoc ..
  have hclosing := runWith_afterAbandoning family outside cell log
    (added ++ performed (.start c.connection.handle) (.error text)) made (.client text)
    (outside (log ++ (added ++ performed (.start c.connection.handle) (.error text)))
      (.call (.closeConsumer made)))
  refine ⟨_, Eq.trans ?_ hclosing⟩
  rw [← hreport]
  exact (runWith_ask_append rfl).trans (runWith_ask_append rfl)

/-- The end of a creation that has looked whether the connection is started. -/
theorem runWith_afterLook (outside : Outside) (hfamily : c.family = family)
    (spec : ConsumerSpec) (w : World) (made : Handle .consumer)
    (hactive : c.autoStart = true) :
    ∃ added outcome started, c.Consumes spec w.cell.started added outcome started ∧
      (c.afterLook made w.cell.started).runWith (answer family outside)
        ⟨w.cell, w.log ++ (performed (.createConsumer c.handle spec) (.ok made) ++
          [c.looked w.cell.started])⟩ = (outcome, ⟨{ w.cell with started }, w.log ++ added⟩) := by
  have hstart (hbefore : w.cell.started = false) (reply : Except String Unit) :
      ∃ added outcome started, c.Consumes spec w.cell.started added outcome started ∧
        (c.afterStart made reply).runWith (answer family outside)
          ⟨w.cell, w.log ++ (performed (.createConsumer c.handle spec) (.ok made) ++
            [c.looked false] ++ [.ofCall (.start c.connection.handle) reply])⟩ =
              (outcome, ⟨{ w.cell with started }, w.log ++ added⟩) := by
    cases reply with
    | ok _ =>
      exact ⟨_, _, _, .started made hactive hbefore,
        runWith_ask_append (answer_noted hfamily _ _ true)⟩
    | error text =>
      obtain ⟨closing, hclosing⟩ := runWith_afterStart_error (c := c) w.cell w.log
        (performed (.createConsumer c.handle spec) (.ok made) ++ [c.looked false]) made text
      exact ⟨_, _, _, .abandoned made hactive hbefore text closing, hclosing⟩
  cases hbefore : w.cell.started with
  | true =>
    have hcell : { w.cell with started := true } = w.cell := by rw [← hbefore]
    refine ⟨_, _, _, .running made hactive rfl, ?_⟩
    rw [hcell]
    rfl
  | false =>
    obtain ⟨added, outcome, started, hconsumes, hrun⟩ := hstart hbefore
      (outside _ (.call (.start c.connection.handle)))
    exact ⟨added, outcome, started, hbefore ▸ hconsumes, (runWith_ask_append rfl).trans hrun⟩

/-- The end of a creation whose consumer has been made, or could not be. -/
theorem runWith_afterConsumer (hfamily : c.family = family) (spec : ConsumerSpec) (w : World)
    (reply : Except String (Handle .consumer)) :
    ∃ added outcome started, c.Consumes spec w.cell.started added outcome started ∧
      (c.afterConsumer spec reply).runWith (answer family outside)
        ⟨w.cell, w.log ++ [.ofCall (.createConsumer c.handle spec) reply]⟩ =
          (outcome, ⟨{ w.cell with started }, w.log ++ added⟩) := by
  cases reply with
  | error text => exact ⟨_, _, _, .refused text, runWith_ask_append rfl⟩
  | ok made =>
    unfold Context.afterConsumer
    dsimp only
    cases hactive : c.autoStart with
    | false => exact ⟨_, _, _, .passive made hactive, rfl⟩
    | true =>
      obtain ⟨added, outcome, started, hconsumes, hrun⟩ :=
        runWith_afterLook outside hfamily spec w made hactive
      exact ⟨added, outcome, started, hconsumes,
        (runWith_ask_append (answer_looked hfamily _ w.cell)).trans hrun⟩

theorem run_consume (outside : Outside) (hfamily : c.family = family) (spec : ConsumerSpec)
    (w : World) :
    ∃ added outcome started, c.Consumes spec w.cell.started added outcome started ∧
      run family outside (c.consume spec) w =
        (outcome, ⟨{ w.cell with started }, w.log ++ added⟩) := by
  rw [run, Context.consume_run]
  exact runWith_afterConsumer hfamily spec w
    (outside w.log (.call (.createConsumer c.handle spec)))

end World

/-! ### The scripted surroundings -/

namespace Stage

/-- The scripted surroundings after everything on record. -/
def after (stage : Stage) (log : List Exchange) : Stage :=
  log.foldl (fun stage e => (answer e.request stage).2) stage

/-- The answers of the scripted surroundings, by the record. -/
def outside (stage : Stage) : Outside := fun log r => (answer r (stage.after log)).1

end Stage
end MessageBus
