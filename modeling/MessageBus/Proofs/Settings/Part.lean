/-
# The parts of settings

Settings are nothing but their parts: eighteen values, and for each key the
option that the caller gives under it. Settings with the same parts are the
same (`eq_of_value`), so that what happens to settings can be said part by part.
In a document every part is written in the member of one name, all options in
the same one, and the proxy in none.

Key definitions: `Part`, `value`, `Part.initial`, `Part.name?`.
Key theorems: `eq_of_value`, `value_new`, `mem_fieldNames_iff`.
-/
import MessageBus.Proofs.Dictionary
import MessageBus.Settings.Document

namespace MessageBus
namespace Settings

/-- What settings are made of: values, and the option of each key. -/
inductive Part
  | idleTimeout
  | traceFrames
  | proxy
  | queueIdleLife
  | topicIdleLife
  | subscriberIdleLife
  | option (key : String)
  | shouldReconnect
  | reconnectHosts
  | initialReconnectDelay
  | reconnectDelay
  | maxReconnectDelay
  | useBackOff
  | backOffMultiplier
  | maxReconnectAttempts
  | startupMaxReconnectAttempts
  | warnAfterReconnectAttempts
  | randomize
  | mergeAction
  deriving DecidableEq

namespace Part

/-- What a part can be. -/
def Value : Part → Type
  | idleTimeout | queueIdleLife | topicIdleLife | subscriberIdleLife => UInt64
  | traceFrames | shouldReconnect => Bool
  | proxy => Option Proxy
  | option _ => Option String
  | reconnectHosts => Option (List String)
  | initialReconnectDelay | reconnectDelay | maxReconnectDelay => Option UInt64
  | useBackOff | randomize => Option Bool
  | backOffMultiplier => Option Float
  | maxReconnectAttempts | startupMaxReconnectAttempts | warnAfterReconnectAttempts => Option Int32
  | mergeAction => Option MergeAction

/-- What a part is when nothing is said about it: reconnecting is on, all else
is zero, off or absent. -/
def initial : (p : Part) → p.Value
  | idleTimeout | queueIdleLife | topicIdleLife | subscriberIdleLife => (0 : UInt64)
  | traceFrames => false
  | shouldReconnect => true
  | proxy | option _ | reconnectHosts | initialReconnectDelay | reconnectDelay
  | maxReconnectDelay | useBackOff | backOffMultiplier | maxReconnectAttempts
  | startupMaxReconnectAttempts | warnAfterReconnectAttempts | randomize | mergeAction => none

/-- The name of the member of a document that a part is written in. -/
def name? : Part → Option String
  | idleTimeout => some "connectionIdleTimeoutMs"
  | traceFrames => some "traceFrames"
  | proxy => none
  | queueIdleLife => some "queueAutoDeleteOnIdleSeconds"
  | topicIdleLife => some "topicAutoDeleteOnIdleSeconds"
  | subscriberIdleLife => some "subscriberAutoDeleteOnIdleSeconds"
  | option _ => some "configurationOptions"
  | shouldReconnect => some "shouldReconnect"
  | reconnectHosts => some "reconnectHosts"
  | initialReconnectDelay => some "initialReconnectDelay"
  | reconnectDelay => some "reconnectDelay"
  | maxReconnectDelay => some "maxReconnectDelay"
  | useBackOff => some "useReconnectBackOff"
  | backOffMultiplier => some "reconnectBackOffMultiplier"
  | maxReconnectAttempts => some "maxReconnectAttempts"
  | startupMaxReconnectAttempts => some "startupMaxReconnectAttempts"
  | warnAfterReconnectAttempts => some "warnAfterReconnectAttempts"
  | randomize => some "randomize"
  | mergeAction => some "serverListMergeAction"

end Part

def value (s : Settings) : (p : Part) → p.Value
  | .idleTimeout => s.idleTimeout
  | .traceFrames => s.traceFrames
  | .proxy => s.proxy
  | .queueIdleLife => s.queueIdleLife
  | .topicIdleLife => s.topicIdleLife
  | .subscriberIdleLife => s.subscriberIdleLife
  | .option key => s.options.get? key
  | .shouldReconnect => s.shouldReconnect
  | .reconnectHosts => s.reconnectHosts
  | .initialReconnectDelay => s.initialReconnectDelay
  | .reconnectDelay => s.reconnectDelay
  | .maxReconnectDelay => s.maxReconnectDelay
  | .useBackOff => s.useBackOff
  | .backOffMultiplier => s.backOffMultiplier
  | .maxReconnectAttempts => s.maxReconnectAttempts
  | .startupMaxReconnectAttempts => s.startupMaxReconnectAttempts
  | .warnAfterReconnectAttempts => s.warnAfterReconnectAttempts
  | .randomize => s.randomize
  | .mergeAction => s.mergeAction

/-- **Settings are determined by their parts.** -/
theorem eq_of_value {s t : Settings} (h : ∀ p : Part, s.value p = t.value p) : s = t := by
  have hoptions : s.options = t.options := Dictionary.eq_of_get? fun key => h (.option key)
  cases s
  cases t
  rw [mk.injEq]
  exact ⟨h .idleTimeout, h .traceFrames, h .proxy, h .queueIdleLife, h .topicIdleLife,
    h .subscriberIdleLife, hoptions, h .shouldReconnect, h .reconnectHosts,
    h .initialReconnectDelay, h .reconnectDelay, h .maxReconnectDelay, h .useBackOff,
    h .backOffMultiplier, h .maxReconnectAttempts, h .startupMaxReconnectAttempts,
    h .warnAfterReconnectAttempts, h .randomize, h .mergeAction⟩

theorem value_new (p : Part) : ({} : Settings).value p = p.initial := by
  cases p <;> rfl

theorem fieldNames_eq : fieldNames = [Part.idleTimeout, .traceFrames, .queueIdleLife,
    .topicIdleLife, .subscriberIdleLife, .option "", .shouldReconnect, .reconnectHosts,
    .initialReconnectDelay, .reconnectDelay, .maxReconnectDelay, .useBackOff, .backOffMultiplier,
    .maxReconnectAttempts, .startupMaxReconnectAttempts, .warnAfterReconnectAttempts, .randomize,
    .mergeAction].filterMap Part.name? := by
  decide

/-- The names of members are those that parts are written under. -/
theorem mem_fieldNames_iff {name : String} :
    name ∈ fieldNames ↔ ∃ p : Part, p.name? = some name := by
  constructor
  · intro h
    rw [fieldNames_eq] at h
    obtain ⟨p, -, hp⟩ := List.mem_filterMap.1 h
    exact ⟨p, hp⟩
  · rintro ⟨p, hp⟩
    cases p <;> cases hp <;> decide

end Settings
end MessageBus
