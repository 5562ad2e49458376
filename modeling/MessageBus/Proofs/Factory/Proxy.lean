/-
# Factories without their proxy

A factory without its proxy does what the factory does, request for request,
but for the proxy in the connections that it asks for.

Key definitions: `Operation.withoutProxy`, `ConnectionFactory.withoutProxy`.
Key theorems: `Operation.withoutProxy_bind`, `ConnectionFactory.connect_withoutProxy`.
-/
import MessageBus.Factory
import MessageBus.Proofs.Credential

namespace MessageBus

variable {α β : Type}

/-! ### Operations -/

/-- The program with no proxy in the connections that it asks for. -/
def Program.withoutProxy : Program α → Program α
  | .done a => .done a
  | .ask (.call (.connect request)) next =>
    .ask (.call (.connect { request with proxy := none })) fun reply => (next reply).withoutProxy
  | .ask request next => .ask request fun reply => (next reply).withoutProxy

/-- Leaving the proxy out is done part by part. -/
theorem Program.withoutProxy_bind (p : Program α) (f : α → Program β) :
    (p.bind f).withoutProxy = p.withoutProxy.bind fun a => (f a).withoutProxy := by
  induction p with
  | done a => rfl
  | ask request next ih =>
    cases request with
    | call c => cases c <;> exact congrArg _ (funext ih)
    | _ => exact congrArg _ (funext ih)

namespace Operation

/-- The operation with no proxy in the connections that it asks for. -/
def withoutProxy (operation : Operation α) : Operation α :=
  ExceptT.mk operation.run.withoutProxy

@[simp] theorem withoutProxy_bind (operation : Operation α) (f : α → Operation β) :
    withoutProxy (operation >>= f) = withoutProxy operation >>= fun a => withoutProxy (f a) := by
  refine (Program.withoutProxy_bind operation.run _).trans ?_
  refine congrArg (Program.bind _) (funext fun outcome => ?_)
  cases outcome with
  | error e => rfl
  | ok a => rfl

/-- A token is got without a connection. -/
theorem withoutProxy_token (cache : TokenCache) : withoutProxy cache.token = cache.token := by
  have hrenew : cache.renew.run.withoutProxy = cache.renew.run := by
    rw [TokenCache.renew_run]
    refine congrArg (Program.ask _) (funext fun reply => ?_)
    cases reply with
    | error e => rfl
    | ok fresh => rfl
  have hcurrent : cache.current.run.withoutProxy = cache.current.run := by
    rw [TokenCache.current_run]
    refine congrArg (Program.ask _) (funext fun kept => ?_)
    cases kept with
    | none => exact hrenew
    | some kept =>
      refine congrArg (Program.ask _) (funext fun now => ?_)
      dsimp only
      split
      · exact hrenew
      · rfl
  show cache.token.run.withoutProxy = cache.token.run
  rw [TokenCache.token_run]
  refine congrArg (Program.ask _) (funext fun _ => ?_)
  rw [Program.withoutProxy_bind, hcurrent]
  rfl

theorem withoutProxy_connect (request : ConnectRequest) :
    withoutProxy (perform (.connect request)) =
      perform (.connect { request with proxy := none }) := by
  refine congrArg (Program.ask _) (funext fun reply => ?_)
  cases reply with
  | error text => rfl
  | ok handle => rfl

/-- A call other than that for a connection is made as it is. -/
theorem withoutProxy_createSession (connection : Handle .connection) (mode : SessionMode) :
    withoutProxy (perform (.createSession connection mode)) =
      perform (.createSession connection mode) := by
  refine congrArg (Program.ask _) (funext fun reply => ?_)
  cases reply with
  | error text => rfl
  | ok handle => rfl

theorem withoutProxy_openOn (connection : Connection) (mode : SessionMode) :
    withoutProxy (Context.openOn connection mode) = Context.openOn connection mode := by
  unfold Context.openOn Connection.createSessionWithMode
  rw [withoutProxy_bind, withoutProxy_bind, withoutProxy_createSession]
  rfl

end Operation

namespace ConnectionFactory

def withoutProxy (f : ConnectionFactory) : ConnectionFactory :=
  { f with settings := { f.settings with proxy := none } }

/-- **Without its proxy a factory connects as it does with it, but for the proxy
in the request.** -/
theorem connect_withoutProxy (f : ConnectionFactory) (explicit : Option Login) :
    f.withoutProxy.connect explicit = Operation.withoutProxy (f.connect explicit) := by
  have hlogin : Operation.withoutProxy (f.loginFor explicit) = f.loginFor explicit := by
    unfold loginFor
    split
    · rfl
    · unfold Credentials.password
      split
      · rfl
      · rw [Operation.withoutProxy_bind, Operation.withoutProxy_token]
        rfl
  unfold connect
  rw [Operation.withoutProxy_bind, hlogin]
  refine congrArg (bind (f.loginFor explicit)) (funext fun login => ?_)
  rw [Operation.withoutProxy_bind, Operation.withoutProxy_connect]
  rfl

theorem createContext_withoutProxy (f : ConnectionFactory) (mode : SessionMode)
    (explicit : Option Login) :
    f.withoutProxy.createContext mode explicit =
      Operation.withoutProxy (f.createContext mode explicit) := by
  unfold createContext
  rw [Operation.withoutProxy_bind, connect_withoutProxy]
  exact congrArg (bind _) (funext fun connection =>
    (Operation.withoutProxy_openOn connection mode).symm)

end ConnectionFactory
end MessageBus
