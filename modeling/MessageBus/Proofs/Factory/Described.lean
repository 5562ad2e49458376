/-
# Does a connection string describe its factory?

The connection string of a factory is to name the factory's host and its key pair, and a
factory with a token is to have none. A builder makes the connection string from the host
and the credentials that it ends with, unless it started from one: that one is kept,
whatever is set after it. So it describes the factory only as long as the host and the
credentials come out as they are in it.

Key definitions: `ConnectionFactory.Describes`, `Builder.Start.parsed`.
Key theorems: `Builder.connectionString_applyAll`, `Builder.describes_iff_of_build`,
`Builder.describes_iff`.
-/
import Mathlib.Data.List.Basic
import MessageBus.Proofs.Factory.Builder

namespace MessageBus

/-- The connection string says the host of the factory and its key pair, and there is none
for a token. -/
def ConnectionFactory.Describes (f : ConnectionFactory) : Prop :=
  match f.credentials with
  | .sharedAccessKey keyName key => ∃ c, f.connectionString = some c ∧
      c.host = f.host ∧ c.keyName = some keyName ∧ c.key = some key
  | .token _ => f.connectionString = none

namespace Builder

/-- The connection string that a builder starts from. -/
def Start.parsed : Start → Option ConnectionString
  | .connectionText text => (ConnectionString.parse text).toOption
  | .connectionString parsed => some parsed
  | .blank | .sharedAccessKey .. | .token .. => none

/-- A builder keeps the connection string that it starts from. -/
theorem connectionString_start {start : Start} {b : Builder} (h : Builder.start start = .ok b) :
    b.connectionString = start.parsed := by
  cases start with
  | connectionText text =>
    simp only [Builder.start] at h
    simp only [Start.parsed]
    cases hparse : ConnectionString.parse text with
    | error e =>
      rw [hparse] at h
      cases h
    | ok c =>
      rw [hparse] at h
      cases h
      rfl
  | blank | connectionString _ | sharedAccessKey _ _ _ | token _ _ =>
    cases h
    rfl

/-- No part that is set changes the connection string. -/
theorem connectionString_apply (b : Builder) (change : Change) :
    (b.apply change).connectionString = b.connectionString := by
  cases change with
  | host _ | credentials _ | settings _ | customUserAgent _ | clientId _ => rfl

theorem connectionString_applyAll : ∀ (changes : List Change) (b : Builder),
    (b.applyAll changes).connectionString = b.connectionString
  | [], _ => rfl
  | change :: later, b =>
    (connectionString_applyAll later (b.apply change)).trans (connectionString_apply b change)

theorem credentialsOf_eq_some_iff {c : ConnectionString} {keyName key : String} :
    credentialsOf c = some (.sharedAccessKey keyName key) ↔
      c.keyName = some keyName ∧ c.key = some key := by
  obtain ⟨host, keyName', key', path⟩ := c
  cases keyName' with
  | none => simp [credentialsOf]
  | some keyName' =>
    cases key' with
    | none => simp [credentialsOf]
    | some key' => simp [credentialsOf]

/-- A connection string has no token. -/
theorem credentialsOf_ne_token (c : ConnectionString) (cache : TokenCache) :
    credentialsOf c ≠ some (.token cache) := by
  unfold credentialsOf
  split
  · intro h
    cases h
  · intro h
    cases h

/-- A connection string that is made for a factory describes it, and a kept one does if it
agrees with what else is known. -/
theorem describes_iff_of_build {b : Builder} {f : ConnectionFactory} (hbuild : b.build = .ok f) :
    f.Describes ↔ ∀ c, b.connectionString = some c →
      c.host = f.host ∧ credentialsOf c = some f.credentials := by
  obtain ⟨-, -, -, -, -, hconnection, -⟩ := build_eq_ok_iff.1 hbuild
  unfold ConnectionFactory.Describes
  rw [hconnection]
  unfold connectionStringFor
  cases hkept : b.connectionString with
  | none =>
    -- the connection string was made from the host and the credentials of the factory
    have hnone : ∀ c, (none : Option ConnectionString) = some c →
        c.host = f.host ∧ credentialsOf c = some f.credentials := fun _ h => nomatch h
    cases hcredentials : f.credentials with
    | sharedAccessKey keyName key =>
      refine iff_of_true ⟨_, rfl, rfl, rfl, rfl⟩ ?_
      rw [← hcredentials]
      exact hnone
    | token cache =>
      refine iff_of_true rfl ?_
      rw [← hcredentials]
      exact hnone
  | some c =>
    -- only this one is kept, so the condition is about it alone
    have hall : (∀ c', some c = some c' →
        c'.host = f.host ∧ credentialsOf c' = some f.credentials) ↔
          c.host = f.host ∧ credentialsOf c = some f.credentials := by
      simp only [Option.some.injEq, forall_eq']
    rw [hall]
    cases hcredentials : f.credentials with
    | sharedAccessKey keyName key =>
      rw [credentialsOf_eq_some_iff]
      simp
    | token cache =>
      have hne := credentialsOf_ne_token c cache
      simp [hne]

/-! ### All builders -/

/-- **The connection string describes the factory exactly when the builder did not start from
one, or the factory came out with the host and the key pair of the one it started from.** -/
theorem describes_iff {start : Start} {b : Builder} (hstart : Builder.start start = .ok b)
    {changes : List Change} {f : ConnectionFactory} (hbuild : (b.applyAll changes).build = .ok f) :
    f.Describes ↔ ∀ c, start.parsed = some c →
      c.host = f.host ∧ credentialsOf c = some f.credentials := by
  have hkept : (b.applyAll changes).connectionString = start.parsed :=
    (connectionString_applyAll changes b).trans (connectionString_start hstart)
  rw [describes_iff_of_build hbuild, hkept]

/-- A connection string with a key pair. -/
def sampleText : String :=
  "Endpoint=sb://contoso.example/;SharedAccessKeyName=policy;SharedAccessKey=secret"

/-- What it says. -/
def sample : ConnectionString := ⟨"contoso.example", some "policy", some "secret", none⟩

theorem parse_sampleText : ConnectionString.parse sampleText = .ok sample := by decide +kernel

theorem start_sampleText :
    Builder.start (.connectionText sampleText) = .ok (ofConnectionString sample) := by
  rw [Builder.start, parse_sampleText]
  rfl

/-- Its connection string describes a factory that only gets a client id besides. -/
theorem describes_iff_sample : ∃ b f, Builder.start (.connectionText sampleText) = .ok b ∧
    (b.applyAll [.clientId "orders"]).build = .ok f ∧ f.Describes := by
  let b : Builder := (ofConnectionString sample).applyAll [.clientId "orders"]
  have hhost : b.checkedHost = .ok "contoso.example" := by decide
  have hcredentials : b.checkedCredentials = .ok (.sharedAccessKey "policy" "secret") := by decide
  have hbuild := build_of_checked hhost hcredentials rfl
  refine ⟨ofConnectionString sample, _, start_sampleText, hbuild, ?_⟩
  refine (describes_iff start_sampleText hbuild).2 fun c hc => ?_
  rw [Start.parsed, parse_sampleText] at hc
  obtain rfl := Option.some.inj hc
  exact ⟨rfl, rfl⟩

/-- A factory with a token has the connection string with the key pair all the same, and one
for another host has the connection string of the host before. -/
theorem not_describes_sample : ∃ b, Builder.start (.connectionText sampleText) = .ok b ∧
    (∃ f, (b.applyAll [.credentials (.token ⟨0⟩)]).build = .ok f ∧ ¬ f.Describes) ∧
    ∃ f, (b.applyAll [.host "fabrikam.example"]).build = .ok f ∧ ¬ f.Describes := by
  refine ⟨ofConnectionString sample, start_sampleText, ?_, ?_⟩
  · let b : Builder := (ofConnectionString sample).applyAll [.credentials (.token ⟨0⟩)]
    have hhost : b.checkedHost = .ok "contoso.example" := by decide
    have hcredentials : b.checkedCredentials = .ok (.token ⟨0⟩) := rfl
    refine ⟨_, build_of_checked hhost hcredentials rfl, ?_⟩
    exact Option.some_ne_none sample
  · let b : Builder := (ofConnectionString sample).applyAll [.host "fabrikam.example"]
    have hhost : b.checkedHost = .ok "fabrikam.example" := by decide
    have hcredentials : b.checkedCredentials = .ok (.sharedAccessKey "policy" "secret") := by decide
    refine ⟨_, build_of_checked hhost hcredentials rfl, ?_⟩
    rintro ⟨c, hc, hsame, -⟩
    obtain rfl := Option.some.inj hc
    exact absurd hsame (by decide)

end Builder
end MessageBus
