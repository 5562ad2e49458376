/-
# Contexts that start their connection

A connection has one started flag for all contexts on it, and every context has
a flag of its own, for starting the connection with its consumers or not. The
started flag goes by what was asked of the client library and succeeded, in any
run and for any answers. A consumer for which the connection could not be
started is closed, so all consumers that were made are with their callers or
have been asked to close.

Key definitions: `Context.AutoStarts`, `Turns.State.Sound`, `Turns.State.AutoStarts`.
Key theorems: `Context.Consumes.autoStarts`, `Turns.Turn.sound`, `Turns.autoStarts_run`.
-/
import MessageBus.Proofs.Context.Record
import MessageBus.Proofs.Context.Turns

namespace MessageBus

/-! ### The creation of a consumer -/

/-- How the creation of a consumer starts the connection, by the exchanges it adds, its
outcome and the started flag before and after. -/
structure Context.AutoStarts (c : Context) (spec : ConsumerSpec) (before : Bool)
    (added : List Exchange) (outcome : Except Error Consumer) (after : Bool) : Prop where
  once : (answers (.start c.connection.handle) added).length ≤ 1
  /-- The connection is started for a consumer that was made, by a context that does so, if
  the connection does not count as started. -/
  exactly : answers (.start c.connection.handle) added ≠ [] ↔
    (∃ made, .ok made ∈ answers (.createConsumer c.handle spec) added) ∧
      c.autoStart = true ∧ before = false
  /-- A start that fails is what the creation fails with, whatever comes of closing the
  consumer. -/
  failed : ∀ text, .error text ∈ answers (.start c.connection.handle) added →
    outcome = .error (.client text) ∧ after = false ∧
      ∃ made, answers (.createConsumer c.handle spec) added = [.ok made] ∧
        (answers (.closeConsumer made) added).length = 1
  /-- A consumer that was made is with the caller, or has been asked to close. -/
  settled : ∀ made, .ok made ∈ answers (.createConsumer c.handle spec) added →
    (outcome = .ok ⟨made⟩ ∧ answers (.closeConsumer made) added = []) ∨
      ((∃ e, outcome = .error e) ∧ (answers (.closeConsumer made) added).length = 1)

namespace Context

variable {c : Context} {spec : ConsumerSpec} {before started : Bool} {added log : List Exchange}
  {outcome : Except Error Consumer} {made : Handle .consumer}

@[simp] theorem answers_looked_cons (call : Call) (on : Bool) :
    answers call (c.looked on :: log) = answers call log :=
  answers_cons_of_ne Request.noConfusion

@[simp] theorem answers_noted_cons (call : Call) (on : Bool) :
    answers call (c.noted on :: log) = answers call log :=
  answers_cons_of_ne Request.noConfusion

/-- A creation that the caller has a consumer from is as it should be, if it starts the
connection when it has to, without a failure. -/
theorem autoStarts_of_ok (hcreate : answers (.createConsumer c.handle spec) added = [.ok made])
    (hclose : ∀ made, answers (.closeConsumer made) added = [])
    (hstart : answers (.start c.connection.handle) added =
      if c.autoStart = true ∧ before = false then [.ok ()] else []) :
    c.AutoStarts spec before added (.ok ⟨made⟩) started where
  once := by
    rw [hstart]
    split <;> simp
  exactly := by
    have hmade : ∃ made, .ok made ∈ answers (.createConsumer c.handle spec) added :=
      ⟨made, hcreate ▸ List.mem_singleton_self _⟩
    rw [hstart, and_iff_right hmade]
    split <;> simp_all
  failed text htext := by
    rw [hstart] at htext
    split at htext
    · cases List.mem_singleton.1 htext
    · cases htext
  settled made' hmade' := by
    rw [hcreate] at hmade'
    obtain rfl : made' = made := Except.ok.inj (List.mem_singleton.1 hmade')
    exact .inl ⟨rfl, hclose made'⟩

/-- A creation whose start fails is as it should be, if it closes the consumer once. -/
theorem autoStarts_of_error {text : String} (made : Handle .consumer)
    (closing : Except String (Call.closeConsumer made).Result)
    (hcreate : answers (.createConsumer c.handle spec) added = [.ok made])
    (hclose : answers (.closeConsumer made) added = [closing])
    (hstart : answers (.start c.connection.handle) added = [.error text])
    (hactive : c.autoStart = true) (hbefore : before = false) :
    c.AutoStarts spec before added (.error (.client text)) before where
  once := Nat.le_of_eq (congrArg List.length hstart)
  exactly := by
    have hmade : ∃ made, .ok made ∈ answers (.createConsumer c.handle spec) added :=
      ⟨made, hcreate ▸ List.mem_singleton_self _⟩
    rw [hstart]
    exact iff_of_true (List.cons_ne_nil _ _) ⟨hmade, hactive, hbefore⟩
  failed text' htext' := by
    rw [hstart] at htext'
    obtain rfl : text' = text := Except.error.inj (List.mem_singleton.1 htext')
    exact ⟨rfl, hbefore, made, hcreate, congrArg List.length hclose⟩
  settled made' hmade' := by
    rw [hcreate] at hmade'
    obtain rfl : made' = made := Except.ok.inj (List.mem_singleton.1 hmade')
    exact .inr ⟨⟨_, rfl⟩, congrArg List.length hclose⟩

/-- **A creation of a consumer starts the connection when it has to, and only then.** -/
theorem Consumes.autoStarts (h : c.Consumes spec before added outcome started) :
    c.AutoStarts spec before added outcome started := by
  have hcreate (reply) : answers (.createConsumer c.handle spec)
      (performed (.createConsumer c.handle spec) reply) = [reply] :=
    answers_performed reply
  have hstart (reply) : answers (.start c.connection.handle)
      (performed (.start c.connection.handle) reply) = [reply] :=
    answers_performed reply
  have hother {call call' : Call} (hne : call' ≠ call) (reply) :
      answers call (performed call' reply) = [] :=
    answers_performed_of_ne hne reply
  cases h with
  | refused text => constructor <;> simp [hcreate, hother]
  | passive made hpassive => apply autoStarts_of_ok <;> simp [hcreate, hother, hpassive]
  | running made hactive hbefore => apply autoStarts_of_ok <;> simp [hcreate, hother, hbefore]
  | started made hactive hbefore =>
    apply autoStarts_of_ok <;> simp [hcreate, hstart, hother, hactive, hbefore]
  | abandoned made hactive hbefore text closing =>
    have hclose (reply) : answers (.closeConsumer made)
        (performed (.closeConsumer made) reply) = [reply] :=
      answers_performed reply
    apply autoStarts_of_error made closing <;>
      simp [hcreate, hstart, hclose, hother, hactive, hbefore]

end Context

namespace Turns

variable {family : Family} {outside : Outside} {connection : Connection} {s s' : State}

/-! ### In turn -/

/-- What is so of the contexts on a connection in every state: they are of one family, the
started flag goes by the record, and so do the consumers of their callers. -/
structure State.Sound (family : Family) (connection : Connection) (s : State) : Prop where
  members : ∀ c ∈ s.contexts, c.family = family ∧ c.connection = connection
  started : s.world.cell.started = true ↔ StartedLast connection s.world.log
  accounted : ∀ made, Accounted made s.consumers s.world.log

theorem Turn.sound (h : Turn s s') (hs : s.Sound family connection) :
    s'.Sound family connection := by
  obtain ⟨hmembers, hstarted, haccounted⟩ := hs
  cases h with
  | nobody => exact ⟨hmembers, hstarted, haccounted⟩
  | started hc h =>
    obtain ⟨-, rfl⟩ := hmembers _ hc
    exact ⟨hmembers, h.started_iff hstarted, fun made => (haccounted made).append_nobody h.accounted⟩
  | stopped hc h =>
    obtain ⟨-, rfl⟩ := hmembers _ hc
    exact ⟨hmembers, h.started_iff hstarted, fun made => (haccounted made).append_nobody h.accounted⟩
  | told hc autoStart =>
    have htold := hmembers _ hc
    refine ⟨fun c' hc' => ?_, hstarted, haccounted⟩
    rcases List.mem_or_eq_of_mem_set hc' with hc' | rfl
    · exact hmembers c' hc'
    · exact htold
  | derived hc h =>
    obtain ⟨hfamily, rfl⟩ := hmembers _ hc
    refine ⟨fun c' hc' => ?_, h.started_iff hstarted,
      fun made => (haccounted made).append_nobody h.accounted⟩
    rcases List.mem_append.1 hc' with hc' | hc'
    · exact hmembers c' hc'
    · obtain ⟨hfamily', hconnection, -⟩ := h.inherits c' hc'
      exact ⟨hfamily'.trans hfamily, hconnection⟩
  | consumed hc h =>
    obtain ⟨-, rfl⟩ := hmembers _ hc
    exact ⟨hmembers, h.started_iff hstarted, fun made => (haccounted made).append h.accounted⟩

/-- The first context of a family is on its connection, which has not been started. -/
theorem sound_of_opened {mode : SessionMode} {cell : FamilyCell} {c : Context} {w : World}
    (h : World.run family outside (Context.openOn connection mode) ⟨cell, []⟩ = (.ok c, w)) :
    State.Sound family connection ⟨w, [c], []⟩ := by
  obtain ⟨added, outcome, cell', hopens, hrun⟩ :=
    World.run_openOn family outside connection mode ⟨cell, []⟩
  obtain ⟨rfl, rfl⟩ := Prod.mk.inj (hrun.symm.trans h)
  cases hopens with
  | opened session =>
    have hquiet : Quiet connection (performed (.createSession connection.handle mode) (.ok session) ++
        [⟨.newFamily, family⟩]) :=
      (quiet_performed rfl).append (quiet_singleton rfl)
    refine ⟨?_, ?_, fun made => ?_⟩
    · rintro c hc
      rw [List.mem_singleton.1 hc]
      exact ⟨rfl, rfl⟩
    · exact iff_of_false Bool.false_ne_true
        (mt hquiet.startedLast_append_iff.1 not_startedLast_nil)
    · exact (accounted_performed rfl Call.noConfusion).append
        (accounted_singleton rfl Request.noConfusion)

theorem sound_run (outside : Outside) (hs : s.Sound family connection) (commands : List Command) :
    (s.run family outside commands).Sound family connection :=
  State.run_induction hs (fun _ command hs =>
    (State.step_cases (fun c hc => (hs.members c hc).1) command).sound hs) commands

/-- How the contexts on a connection start it by themselves. -/
structure State.AutoStarts (family : Family) (outside : Outside) (connection : Connection)
    (s : State) : Prop where
  members : ∀ c ∈ s.contexts, c.family = family ∧ c.connection = connection
  /-- The started flag: the connection was started, and not stopped since. -/
  started : s.world.cell.started = true ↔ StartedLast connection s.world.log
  /-- All consumers that were made are with their callers, or have been asked to close. -/
  accounted : ∀ made, Accounted made s.consumers s.world.log
  /-- What comes of creating a consumer on any of the contexts. -/
  creation : ∀ c ∈ s.contexts, ∀ creation : Creation, ∃ added outcome after,
    s.world.run family outside (creation.operation c) =
        (outcome, ⟨{ s.world.cell with started := after }, s.world.log ++ added⟩) ∧
      c.AutoStarts creation.spec s.world.cell.started added outcome after
  /-- A context that derives from another one does as that one does. -/
  inherited : ∀ place c, s.contexts[place]? = some c → ∀ mode, ∃ outcome w,
    s.world.run family outside (c.createContext mode) = (outcome, w) ∧
      (s.step family outside ⟨place, .createContext mode⟩).contexts =
        s.contexts ++ outcome.toOption.toList ∧
      ∀ child, outcome = .ok child → child.autoStart = c.autoStart
  /-- From then on a context does as it has been told itself. -/
  own : ∀ place c, s.contexts[place]? = some c → ∀ commands, ∃ c',
    (s.run family outside commands).contexts[place]? = some c' ∧
      c'.autoStart = (lastTold place commands).getD c.autoStart

/-- **The contexts on a connection start it by themselves as they should, whatever is done
with them and whatever the client library answers.** -/
theorem autoStarts_run {mode : SessionMode} {cell : FamilyCell} {c : Context} {w : World}
    (hopened : World.run family outside (Context.openOn connection mode) ⟨cell, []⟩ = (.ok c, w))
    (commands : List Command) :
    State.AutoStarts family outside connection
      (State.run family outside ⟨w, [c], []⟩ commands) := by
  obtain ⟨hmembers, hstarted, haccounted⟩ :=
    sound_run outside (sound_of_opened hopened) commands
  generalize State.run family outside ⟨w, [c], []⟩ commands = s at *
  refine ⟨hmembers, hstarted, haccounted, fun c hc creation => ?_,
    fun place c hplace mode => ?_, fun place c hplace commands => ?_⟩
  · obtain ⟨added, outcome, after, h, hrun⟩ :=
      World.run_consume outside (hmembers c hc).1 creation.spec s.world
    rw [creation.operation_eq]
    exact ⟨added, outcome, after, hrun, h.autoStarts⟩
  · have hc : c ∈ s.contexts := List.mem_of_getElem? hplace
    obtain ⟨added, outcome, openContexts, h, hrun⟩ :=
      World.run_createContext outside (hmembers c hc).1 mode s.world
    refine ⟨outcome, _, hrun, ?_, fun child hchild => (h.inherits child ?_).2.2⟩
    · simp only [State.step, hplace, State.act, hrun]
    · rw [hchild]
      exact List.mem_singleton_self _
  · exact ⟨_, State.getElem?_run hplace commands, rfl⟩

/-- Starting the connection fails once, and so does closing a consumer. -/
def flaky : Stage :=
  { script := { failures :=
      (Dictionary.empty.insert "start" [some "refused"]).insert "close_consumer" [some "gone"] } }

/-- The first consumer is closed for nothing, the second one starts the connection, and a
context that derives from the first one is told not to. -/
theorem autoStarts_run_flaky : ∃ s : State, s.AutoStarts ⟨0⟩ flaky.outside ⟨⟨1⟩⟩ ∧
    s.world.cell.started = true ∧ s.consumers = [⟨⟨2⟩⟩] ∧
      s.contexts.map (·.autoStart) = [true, false] := by
  let first : Context := { handle := ⟨1⟩, connection := ⟨⟨1⟩⟩, family := ⟨0⟩ }
  let opened : World := ⟨⟨1, false⟩,
    [.ofCall (.createSession ⟨1⟩ .autoAcknowledge) (.ok ⟨1⟩), ⟨.newFamily, (⟨0⟩ : Family)⟩]⟩
  let creation : Creation := .plain (.queue ⟨"orders"⟩) none false
  have hopened : World.run ⟨0⟩ flaky.outside (Context.openOn ⟨⟨1⟩⟩ .autoAcknowledge)
      ⟨⟨0, false⟩, []⟩ = (.ok first, opened) :=
    rfl
  refine ⟨_, autoStarts_run hopened
    [⟨0, .consume creation⟩, ⟨0, .createContext .transacted⟩, ⟨1, .setAutoStart false⟩,
      ⟨0, .consume creation⟩], ?_⟩
  decide +kernel

end Turns
end MessageBus
