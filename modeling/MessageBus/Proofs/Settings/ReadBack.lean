/-
# Settings that come back from their document

Any settings have a document, and the settings that are read from it have all
their values but the proxy, and but a multiplier that is no finite number, for which a
document has no text. So they lead to the same addresses, unless the multiplier
was lost: it is the one value that is both left out and part of a query.

Key definition: `Settings.ReadBack`.
Key theorems: `Settings.readBack_restored`, `Settings.exists_readBack`.
-/
import MessageBus.Proofs.Settings.Document
import MessageBus.RemoteUri

namespace MessageBus
namespace Settings

/-- What settings that were read from the document of `s` have in common with `s`. -/
structure ReadBack (s back : Settings) : Prop where
  /-- A document holds no proxy. -/
  proxy : back.proxy = none
  /-- It holds no multiplier that is not finite. -/
  lost : ∀ x, s.backOffMultiplier = some x → Number.isFinite x = false →
    back.backOffMultiplier = none
  /-- A finite multiplier, or none, is what it was. -/
  kept : s.FiniteMultiplier → back.backOffMultiplier = s.backOffMultiplier
  /-- So is every other value: with the proxy and the multiplier put back these are the
  settings that were written. -/
  others : { back with proxy := s.proxy, backOffMultiplier := s.backOffMultiplier } = s
  /-- The multiplier is in the failover query only. -/
  queries : back.hostQuery = s.hostQuery ∧ back.providerQuery = s.providerQuery
  /-- With a finite multiplier, or none, the failover query and all addresses are the same. -/
  addresses : s.FiniteMultiplier →
    back.failoverQuery = s.failoverQuery ∧ ∀ host, RemoteUri.build host back = RemoteUri.build host s

/-- Nothing in an address is from the proxy. -/
theorem build_withoutProxy (host : String) (s : Settings) :
    RemoteUri.build host { s with proxy := none } = RemoteUri.build host s := rfl

theorem readBack_restored (s : Settings) : s.ReadBack s.restored where
  proxy := rfl
  lost x hx hinfinite := by
    rw [restored, hx, Option.filter_some, hinfinite]
    rfl
  kept h := by rw [restored_of_finiteMultiplier h]
  others := rfl
  queries := ⟨rfl, rfl⟩
  addresses h := by
    rw [restored_of_finiteMultiplier h]
    exact ⟨rfl, fun host => build_withoutProxy host s⟩

/-- **Settings come back from their document**, if the text of a finite multiplier is
read as that multiplier, and lead to the same addresses as before. -/
theorem exists_readBack {s : Settings}
    (h : ∀ x, s.backOffMultiplier = some x → Number.isFinite x = true → Json.ReadsBack x) :
    ∃ back, ofJson s.toJson = .ok back ∧ s.ReadBack back :=
  ⟨s.restored, ofJson_toJson h, s.readBack_restored⟩

/-- Settings with a value of every kind, and an empty list of hosts to reconnect to. -/
def various : Settings :=
  { idleTimeout := 18446744073709551615
    traceFrames := true
    proxy := some ⟨"proxy.example:8080"⟩
    options := .ofList [("jms.\"quoted\"", "tab\tä"), ("failover.nested", "")]
    reconnectHosts := some []
    backOffMultiplier := some 0.3
    maxReconnectAttempts := some (-1)
    mergeAction := some .ignore }

theorem exists_readBack_various :
    (∀ x, various.backOffMultiplier = some x → Number.isFinite x = true → Json.ReadsBack x) ∧
      ∃ back, ofJson various.toJson = .ok back ∧ back.backOffMultiplier = some 0.3 ∧
        back.reconnectHosts = some [] ∧ back.failoverQuery = various.failoverQuery := by
  have hback : ∀ x, various.backOffMultiplier = some x → Number.isFinite x = true →
      Json.ReadsBack x := by
    intro x hx _
    cases hx
    unfold Json.ReadsBack
    decide +kernel
  have hfinite : various.FiniteMultiplier := by
    intro x hx
    cases hx
    decide +kernel
  obtain ⟨back, hread, hsame⟩ := exists_readBack hback
  exact ⟨hback, back, hread, hsame.kept hfinite, congrArg reconnectHosts hsame.others,
    (hsame.addresses hfinite).1⟩

end Settings
end MessageBus
