/-
# The steps of contexts

What the operations of a context ask for, one request after the other. A call
that fails is reported before anything else happens. A close goes on after its
session, whatever came of that; a consumer that has been created for nothing is
closed, whatever comes of that.

Key definitions: `Context.afterCreation`, `Context.afterSession`, `Context.afterLeave`,
`Context.afterConnection`, `Context.afterSwitch`, `Context.afterConsumer`.
Key theorems: `perform_run`, `Context.openOn_run`, `Context.createContext_run`,
`Context.close_run`, `Context.start_run`, `Context.stop_run`, `Context.consume_run`.
-/
import MessageBus.Context

namespace MessageBus

/-- A call, and the report of its failure. -/
theorem perform_run (c : Call) : (perform c).run = .ask (.call c) fun reply =>
    match (reply : Except String c.Result) with
    | .ok result => .done (.ok result)
    | .error text => .ask (.report { message := c.failure, error := some text }) fun _ =>
      .done (.error (.client text)) := by
  refine congrArg (Program.ask (.call c)) (funext fun reply => ?_)
  cases reply with
  | ok result => rfl
  | error text => rfl

namespace Context

/-- A first context is made when its session has been. -/
theorem openOn_run (connection : Connection) (mode : SessionMode) :
    (openOn connection mode).run = .ask (.call (.createSession connection.handle mode)) fun reply =>
      match (reply : Except String (Handle .session)) with
      | .ok session => .ask .newFamily fun family =>
        .done (.ok { handle := session, connection, family })
      | .error text => .ask (.report
          { message := "failure to create a session", error := some text }) fun _ =>
        .done (.error (.client text)) := by
  refine congrArg (Program.ask _) (funext fun reply => ?_)
  cases reply with
  | ok session => rfl
  | error text => rfl

/-- What the creation of a context does when the session has been made, or could
not be: it counts the new context. -/
def afterCreation (c : Context) :
    Except String (Handle .session) → Program (Except Error Context)
  | .ok session => .ask (.joinFamily c.family) fun _ => .done (.ok { c with toSession := ⟨session⟩ })
  | .error text => .ask (.report
      { message := "failure to create a session", error := some text }) fun _ =>
    .done (.error (.client text))

theorem createContext_run (c : Context) (mode : SessionMode) : (c.createContext mode).run =
    .ask (.call (.createSession c.connection.handle mode)) c.afterCreation := by
  refine congrArg (Program.ask _) (funext fun reply => ?_)
  cases reply with
  | ok session => rfl
  | error text => rfl

/-- What a close does when the connection has been closed, or could not be. -/
def afterConnection (ofSession : Except Error Unit) :
    Except String Unit → Program (Except Error Unit)
  | .ok _ => .done ofSession
  | .error text => .ask (.report
      { message := "failure to close connection", error := some text }) fun _ =>
    .done (ofSession.bind fun _ => .error (.client text))

/-- What a close does when it has left the family: it closes the connection if
nobody else is in the family. -/
def afterLeave (c : Context) (ofSession : Except Error Unit) (openBefore : UInt64) :
    Program (Except Error Unit) :=
  if openBefore = 1 then
    .ask (.call (.closeConnection c.connection.handle)) (afterConnection ofSession)
  else .done ofSession

/-- What a close does after its session: it leaves the family. -/
def leave (c : Context) (ofSession : Except Error Unit) : Program (Except Error Unit) :=
  .ask (.leaveFamily c.family) (c.afterLeave ofSession)

/-- What a close does when the session has been closed, or could not be. -/
def afterSession (c : Context) : Except String Unit → Program (Except Error Unit)
  | .ok _ => c.leave (.ok ())
  | .error text => .ask (.report
      { message := "failure to close session", error := some text }) fun _ =>
    c.leave (.error (.client text))

theorem closeConnection_bind (c : Context) (ofSession : Except Error Unit) :
    (c.connection.close.run.bind fun ofConnection =>
        .done (ofSession.bind fun _ => ofConnection)) =
      .ask (.call (.closeConnection c.connection.handle)) (afterConnection ofSession) := by
  show (perform (.closeConnection c.connection.handle)).run.bind _ = _
  rw [perform_run]
  refine congrArg (Program.ask _) (funext fun reply => ?_)
  cases reply with
  | ok _ => cases ofSession <;> rfl
  | error text => rfl

/-- A close asks for the session first, then leaves the family, and asks for the
connection last. -/
theorem close_run (c : Context) :
    c.close.run = .ask (.call (.closeSession c.handle)) c.afterSession := by
  have hleave : c.close.run = c.toSession.close.run.bind c.leave := by
    show (c.toSession.close.run.bind fun outcome => .done (Except.ok outcome)).bind _ = _
    rw [Program.bind_assoc]
    refine congrArg (Program.bind _) (funext fun ofSession => ?_)
    refine congrArg (Program.ask (.leaveFamily c.family)) (funext fun (openBefore : UInt64) => ?_)
    show (ite (openBefore = 1) _ _ : Operation Unit).run = c.afterLeave ofSession openBefore
    unfold afterLeave
    by_cases hlast : openBefore = 1
    · rw [if_pos hlast, if_pos hlast, ← closeConnection_bind]
      show (c.connection.close.run.bind fun outcome => .done (Except.ok outcome)).bind _ = _
      rw [Program.bind_assoc]
      refine congrArg (Program.bind _) (funext fun ofConnection => ?_)
      cases ofSession <;> rfl
    · rw [if_neg hlast, if_neg hlast]
      rfl
  rw [hleave]
  show (perform (.closeSession c.handle)).run.bind c.leave = _
  rw [perform_run]
  refine congrArg (Program.ask _) (funext fun reply => ?_)
  cases reply with
  | ok _ => rfl
  | error text => rfl

/-- What starting or stopping the connection does when the call has been answered:
it notes that the connection has been started, or not. -/
def afterSwitch (c : Context) (call : Call) (started : Bool) :
    Except String Unit → Program (Except Error Unit)
  | .ok _ => .ask (.setStarted c.family started) fun _ => .done (.ok ())
  | .error text => .ask (.report { message := call.failure, error := some text }) fun _ =>
    .done (.error (.client text))

theorem start_run (c : Context) : c.start.run =
    .ask (.call (.start c.connection.handle)) (c.afterSwitch (.start c.connection.handle) true) := by
  refine congrArg (Program.ask _) (funext fun reply => ?_)
  cases reply with
  | ok _ => rfl
  | error text => rfl

theorem stop_run (c : Context) : c.stop.run =
    .ask (.call (.stop c.connection.handle)) (c.afterSwitch (.stop c.connection.handle) false) := by
  refine congrArg (Program.ask _) (funext fun reply => ?_)
  cases reply with
  | ok _ => rfl
  | error text => rfl

/-- What the creation of a consumer does when the consumer has been closed for nothing,
or could not be: it fails as the start has. -/
def afterAbandoning (made : Handle .consumer) (e : Error) :
    Except String Unit → Program (Except Error Consumer)
  | .ok _ => .done (.error e)
  | .error text => .ask (.report
      { message := (Call.closeConsumer made).failure, error := some text }) fun _ =>
    .done (.error e)

/-- What it does when the start has been answered: it closes the consumer if the
connection could not be started. -/
def afterStart (c : Context) (made : Handle .consumer) :
    Except String Unit → Program (Except Error Consumer)
  | .ok _ => .ask (.setStarted c.family true) fun _ => .done (.ok ⟨made⟩)
  | .error text => .ask (.report
      { message := (Call.start c.connection.handle).failure, error := some text }) fun _ =>
    .ask (.call (.closeConsumer made)) (afterAbandoning made (.client text))

/-- What it does when it knows whether the connection has been started. -/
def afterLook (c : Context) (made : Handle .consumer) (started : Bool) :
    Program (Except Error Consumer) :=
  if started then .done (.ok ⟨made⟩)
  else .ask (.call (.start c.connection.handle)) (c.afterStart made)

/-- What it does when the consumer has been made, or could not be. -/
def afterConsumer (c : Context) (spec : ConsumerSpec) :
    Except String (Handle .consumer) → Program (Except Error Consumer)
  | .ok made => if c.autoStart then .ask (.isStarted c.family) (c.afterLook made)
    else .done (.ok ⟨made⟩)
  | .error text => .ask (.report
      { message := (Call.createConsumer c.handle spec).failure, error := some text }) fun _ =>
    .done (.error (.client text))

theorem abandon_run (made : Handle .consumer) (e : Error) :
    (attempt (Consumer.close ⟨made⟩) >>= fun _ => throw e : Operation Consumer).run =
      .ask (.call (.closeConsumer made)) (afterAbandoning made e) := by
  show ((Consumer.close ⟨made⟩).run.bind fun outcome => .done (Except.ok outcome)).bind _ = _
  rw [Program.bind_assoc]
  show (perform (.closeConsumer made)).run.bind _ = _
  rw [perform_run]
  refine congrArg (Program.ask _) (funext fun reply => ?_)
  cases reply with
  | ok _ => rfl
  | error text => rfl

/-- The creation of a consumer asks for the consumer first, then whether the connection
has been started, and starts it if it has not. -/
theorem consume_run (c : Context) (spec : ConsumerSpec) : (c.consume spec).run =
    .ask (.call (.createConsumer c.handle spec)) (c.afterConsumer spec) := by
  refine congrArg (Program.ask _) (funext fun reply => ?_)
  cases reply with
  | error text => rfl
  | ok made =>
    show (c.mustStart >>= fun must => if must then _ else _ : Operation Consumer).run = _
    unfold mustStart afterConsumer
    cases hauto : c.autoStart with
    | false => rfl
    | true =>
      refine congrArg (Program.ask (.isStarted c.family)) (funext fun (started : Bool) => ?_)
      cases started with
      | true => rfl
      | false =>
        show (c.start.run.bind fun outcome => .done (Except.ok outcome)).bind _ = _
        rw [start_run]
        refine congrArg (Program.ask _) (funext fun reply => ?_)
        cases reply with
        | ok _ => rfl
        | error text =>
          refine congrArg (Program.ask _) (funext fun _ => ?_)
          exact abandon_run made (.client text)

end Context
end MessageBus
