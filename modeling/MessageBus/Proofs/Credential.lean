/-
# The steps of getting a token

What the operations of a token cache ask for, one request after the other: the
form in which they are run next to each other.

Key theorems: `TokenCache.token_run`, `TokenCache.current_run`, `TokenCache.renew_run`.
-/
import MessageBus.Credential

namespace MessageBus
namespace TokenCache

variable (cache : TokenCache)

/-- The cache is taken, the token determined, and the cache freed, whatever came of it. -/
theorem token_run : cache.token.run = .ask (.lock cache) fun _ =>
    cache.current.run.bind fun outcome => .ask (.unlock cache) fun _ => .done outcome := by
  refine congrArg (Program.ask (.lock cache)) (funext fun _ => ?_)
  show (cache.current.run.bind fun outcome => .done (Except.ok outcome)).bind _ = _
  rw [Program.bind_assoc]
  rfl

/-- Only a kept token is held against the time. -/
theorem current_run : cache.current.run = .ask (.cachedToken cache) fun kept =>
    match (kept : Option AccessToken) with
    | none => cache.renew.run
    | some kept => .ask .now fun now =>
      if kept.isExpired now then cache.renew.run else .done (.ok kept.token) := by
  refine congrArg (Program.ask (.cachedToken cache)) (funext fun kept => ?_)
  cases kept with
  | none => rfl
  | some kept =>
    refine congrArg (Program.ask .now) (funext fun now => ?_)
    exact apply_ite ExceptT.run (kept.isExpired now = true) cache.renew (pure kept.token)

/-- What follows the answer of the credential: a new token is kept, a failure
reported. -/
def settle : Except Error AccessToken → Program (Except Error String)
  | .ok fresh => .ask (.keepToken cache fresh) fun _ => .done (.ok fresh.token)
  | .error e =>
    .ask (.report { message := "failure to acquire token", error := some e.message }) fun _ =>
      .done (.error e)

theorem renew_run :
    cache.renew.run = .ask (.newToken cache [audience]) fun reply => cache.settle reply := by
  refine congrArg (Program.ask (.newToken cache [audience])) (funext fun reply => ?_)
  cases reply with
  | ok fresh => rfl
  | error e => rfl

end TokenCache
end MessageBus
