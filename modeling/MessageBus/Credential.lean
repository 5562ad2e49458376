/-
# Credentials

A connection factory presents a shared access key pair or a token. Tokens come
from a cache, which asks its credential for a new one only when it has none
that is still valid. Callers take the cache one after the other, so those who
wait for it see what the one before them was given.

Key definitions:

* `TokenCache.token`: the token for a caller.
* `Credentials.username`, `Credentials.password`: what is presented.
-/
import MessageBus.Client.Program

namespace MessageBus
namespace TokenCache

/-- The scope of tokens for the broker. -/
def audience : String := "https://servicebus.azure.net/.default"

/-- A new token from the credential, which the cache keeps from then on, however
long it is valid. A failure is reported and leaves the cache as it was. -/
def renew (cache : TokenCache) : Operation String := do
  let reply : Except Error AccessToken ← ask (.newToken cache [audience])
  match reply with
  | .ok fresh =>
    ask (.keepToken cache fresh)
    return fresh.token
  | .error e =>
    report { message := "failure to acquire token", error := some e.message }
    throw e

/-- The token that the cache keeps, if it is still valid, or a new one. -/
def current (cache : TokenCache) : Operation String := do
  let kept : Option AccessToken ← ask (.cachedToken cache)
  match kept with
  | none => cache.renew
  | some kept =>
    let now : Instant ← ask .now
    if kept.isExpired now then cache.renew else return kept.token

/-- A token for a caller, who has the cache alone meanwhile. -/
def token (cache : TokenCache) : Operation String := do
  ask (.lock cache)
  let outcome ← attempt cache.current
  ask (.unlock cache)
  fromOutcome outcome

end TokenCache

/-- What a connection factory authenticates with. -/
inductive Credentials
  | sharedAccessKey (keyName key : String)
  | token (cache : TokenCache)
  deriving DecidableEq

namespace Credentials

/-- The user name that stands for a token. -/
def tokenUsername : String := "$jwt"

def username : Credentials → String
  | .sharedAccessKey keyName _ => keyName
  | .token _ => tokenUsername

def password : Credentials → Operation String
  | .sharedAccessKey _ key => return key
  | .token cache => cache.token

/-- A key never shows. -/
instance : Inspect Credentials :=
  ⟨fun
    | .sharedAccessKey keyName _ =>
      Inspect.partialRecord "SharedAccessKey" [("key_name", inspect keyName)]
    | .token _ => "Token"⟩

end Credentials
end MessageBus
