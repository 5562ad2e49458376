/-
# Creating connections and contexts

Each creation of a factory comes to a login first, which takes no call, and then asks for
one connection. A connection that is there is given to the caller as it is, or a context is
made on it, which takes a session.

The login is an explicit one or the factory's own key pair, and for a factory with a token
it is always the token that its cache comes to.

Key definitions: `ConnectionFactory.Creation`, `ConnectionFactory.presented`,
`ConnectionFactory.Creation.ComesTo`.
Key theorems: `ConnectionFactory.Creation.operation_eq`, `ConnectionFactory.Creation.comesTo`.
-/
import MessageBus.Factory
import MessageBus.Proofs.Client.Calls

namespace MessageBus
namespace ConnectionFactory

variable {σ : Type}

/-! ### Creations -/

/-- Before anything else is done with a connection there are a login and a request. -/
theorem connect_bind {α : Type} (f : ConnectionFactory) (explicit : Option Login)
    (next : Connection → Operation α) :
    f.connect explicit >>= next = f.loginFor explicit >>= fun login =>
      perform (.connect (f.request login)) >>= fun handle => next ⟨handle⟩ := by
  simp only [ConnectionFactory.connect, bind_assoc, pure_bind]

/-- What a factory can be asked to create, with a login of the caller's or without. -/
inductive Creation
  | connection (explicit : Option Login)
  | queueConnection (explicit : Option Login)
  | topicConnection (explicit : Option Login)
  | context (mode : SessionMode) (explicit : Option Login)

namespace Creation

abbrev Result : Creation → Type
  | connection _ => Connection
  | queueConnection _ => QueueConnection
  | topicConnection _ => TopicConnection
  | context .. => Context

def operation (f : ConnectionFactory) : (creation : Creation) → Operation creation.Result
  | connection explicit => f.createConnection explicit
  | queueConnection explicit => f.createQueueConnection explicit
  | topicConnection explicit => f.createTopicConnection explicit
  | context mode explicit => f.createContext mode explicit

/-- The caller's login. -/
def explicit : Creation → Option Login
  | connection explicit => explicit
  | queueConnection explicit => explicit
  | topicConnection explicit => explicit
  | context _ explicit => explicit

/-- What is left to do when the connection is there. -/
def complete : (creation : Creation) → Connection → Operation creation.Result
  | connection _, made => return made
  | queueConnection _, made => return ⟨made⟩
  | topicConnection _, made => return ⟨made⟩
  | context mode _, made => Context.openOn made mode

/-- What is left to do when the login is there. -/
def afterLogin (f : ConnectionFactory) (creation : Creation) (login : Login) :
    Operation creation.Result :=
  perform (.connect (f.request login)) >>= fun handle => creation.complete ⟨handle⟩

/-- A creation comes to a login, to a connection, and to what is created on it. -/
theorem operation_eq (f : ConnectionFactory) (creation : Creation) :
    creation.operation f = f.loginFor creation.explicit >>= creation.afterLogin f := by
  cases creation with
  | connection explicit => rfl
  | queueConnection explicit => exact f.connect_bind explicit _
  | topicConnection explicit => exact f.connect_bind explicit _
  | context mode explicit => exact f.connect_bind explicit _

/-- What a creation can come to with a request for a connection: the calls and the outcome.
Only a context needs a session besides. -/
inductive ComesTo (request : ConnectRequest) :
    (creation : Creation) → List AnsweredCall → Except Error creation.Result → Prop
  | unconnected (creation : Creation) (text : String) :
    ComesTo request creation [⟨.connect request, .error text⟩] (.error (.client text))
  | connection (explicit : Option Login) (handle : Handle .connection) :
    ComesTo request (.connection explicit) [⟨.connect request, .ok handle⟩] (.ok ⟨handle⟩)
  | queueConnection (explicit : Option Login) (handle : Handle .connection) :
    ComesTo request (.queueConnection explicit) [⟨.connect request, .ok handle⟩] (.ok ⟨⟨handle⟩⟩)
  | topicConnection (explicit : Option Login) (handle : Handle .connection) :
    ComesTo request (.topicConnection explicit) [⟨.connect request, .ok handle⟩] (.ok ⟨⟨handle⟩⟩)
  | context (mode : SessionMode) (explicit : Option Login) (handle : Handle .connection)
    (session : Handle .session) (family : Family) :
    ComesTo request (.context mode explicit)
      [⟨.connect request, .ok handle⟩, ⟨.createSession handle mode, .ok session⟩]
      (.ok { handle := session, connection := ⟨handle⟩, family })
  | sessionless (mode : SessionMode) (explicit : Option Login) (handle : Handle .connection)
    (text : String) :
    ComesTo request (.context mode explicit)
      [⟨.connect request, .ok handle⟩, ⟨.createSession handle mode, .error text⟩]
      (.error (.client text))

theorem complete_comesTo (creation : Creation) (request : ConnectRequest)
    (handle : Handle .connection) :
    (creation.complete ⟨handle⟩).run.Ensures fun log outcome =>
      creation.ComesTo request (⟨.connect request, .ok handle⟩ :: calls log) outcome := by
  cases creation with
  | connection explicit => exact .connection explicit handle
  | queueConnection explicit => exact .queueConnection explicit handle
  | topicConnection explicit => exact .topicConnection explicit handle
  | context mode explicit =>
    show (Context.openOn ⟨handle⟩ mode).run.Ensures _
    rw [Context.openOn_run]
    intro reply
    cases (reply : Except String (Handle .session)) with
    | ok session =>
      intro family
      exact .context mode explicit handle session family
    | error text =>
      intro _
      exact .sessionless mode explicit handle text

theorem afterLogin_comesTo (f : ConnectionFactory) (creation : Creation) (login : Login) :
    (creation.afterLogin f login).run.Ensures fun log outcome =>
      creation.ComesTo (f.request login) (calls log) outcome := by
  refine Operation.ensures_bind (perform_ensures _) (fun log handle hlog => ?_) fun log e hlog => ?_
  · obtain ⟨reply, hcalls, hreply⟩ := hlog
    -- a success of the call is the answer that opened the connection
    obtain rfl : reply = .ok handle := by
      cases reply with
      | ok result => rw [Except.ok.inj hreply]
      | error text => cases hreply
    refine (creation.complete_comesTo (f.request login) handle).mono fun log' outcome hlog' => ?_
    rw [calls_append, hcalls]
    exact hlog'
  · obtain ⟨reply, hcalls, hreply⟩ := hlog
    cases reply with
    | ok result => cases hreply
    | error text =>
      obtain rfl : e = .client text := Except.error.inj hreply
      rw [hcalls]
      exact .unconnected creation text

def callsOf (answer : (r : Request) → σ → r.Reply × σ) (creation : Creation)
    (f : ConnectionFactory) (s : σ) : List AnsweredCall :=
  calls ((creation.operation f).run.exchanges answer s)

def outcome (answer : (r : Request) → σ → r.Reply × σ) (creation : Creation)
    (f : ConnectionFactory) (s : σ) : Except Error creation.Result :=
  ((creation.operation f).run.runWith answer s).1

end Creation

/-! ### Logins -/

/-- The login that credentials present: a key pair gives way to the caller's login, a token
does not. There is none if no token can be got. -/
def presented (answer : (r : Request) → σ → r.Reply × σ) (s : σ) :
    Credentials → Option Login → Option Login
  | .sharedAccessKey _ _, some login => some login
  | .sharedAccessKey keyName key, none => some ⟨keyName, key⟩
  | .token cache, _ =>
    match (cache.token.run.runWith answer s).1 with
    | .ok token => some ⟨"$jwt", token⟩
    | .error _ => none

section Logins

variable (f : ConnectionFactory) (explicit : Option Login)

theorem loginFor_makesNoCall : (f.loginFor explicit).run.MakesNoCall := by
  unfold loginFor
  cases f.credentials with
  | sharedAccessKey keyName key =>
    cases explicit with
    | none => exact .done _
    | some login => exact .done _
  | token cache =>
    refine Program.MakesNoCall.bind cache.token_makesNoCall fun outcome => ?_
    cases outcome with
    | ok token => exact .done _
    | error e => exact .done _

/-- The login is the presented one, and getting it fails when there is none. -/
theorem loginFor_outcome (answer : (r : Request) → σ → r.Reply × σ) (s : σ) :
    ((f.loginFor explicit).run.runWith answer s).1.toOption =
      presented answer s f.credentials explicit := by
  unfold loginFor
  cases f.credentials with
  | sharedAccessKey keyName key =>
    cases explicit with
    | none => rfl
    | some login => rfl
  | token cache =>
    show ((cache.token >>= fun token => pure (⟨Credentials.tokenUsername, token⟩ : Login)).run.runWith
      answer s).1.toOption = _
    rw [Operation.runWith_bind]
    simp only [presented]
    cases (cache.token.run.runWith answer s).1 with
    | ok token => rfl
    | error e => rfl

end Logins

/-- A creation makes no call before it has a login, and comes to nothing without one. -/
theorem Creation.comesTo (answer : (r : Request) → σ → r.Reply × σ) (creation : Creation)
    (f : ConnectionFactory) (s : σ) :
    match presented answer s f.credentials creation.explicit with
    | some login => creation.ComesTo (f.request login) (creation.callsOf answer f s)
        (creation.outcome answer f s)
    | none => creation.callsOf answer f s = [] ∧ ∃ e, creation.outcome answer f s = .error e := by
  have hlogin : calls ((f.loginFor creation.explicit).run.exchanges answer s) = [] :=
    Program.Ensures.run (f.loginFor_makesNoCall creation.explicit) answer s
  unfold Creation.callsOf Creation.outcome
  rw [creation.operation_eq, Operation.exchanges_bind, Operation.runWith_bind, calls_append,
    hlogin, List.nil_append, ← loginFor_outcome]
  cases ((f.loginFor creation.explicit).run.runWith answer s).1 with
  | ok login => exact Program.Ensures.run (creation.afterLogin_comesTo f login) answer _
  | error e => exact ⟨rfl, e, rfl⟩

/-- A creation asks for one connection, whatever comes of it. -/
theorem Creation.ComesTo.connects_eq {request : ConnectRequest} {creation : Creation}
    {made : List AnsweredCall} {outcome : Except Error creation.Result}
    (h : creation.ComesTo request made outcome) : connects made = [request] := by
  cases h with
  | unconnected _ _ => rfl
  | connection _ _ | queueConnection _ _ | topicConnection _ _ => rfl
  | context _ _ _ _ _ | sessionless _ _ _ _ => rfl

end ConnectionFactory
end MessageBus
