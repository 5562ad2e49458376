/-
# What a builder builds

Building succeeds exactly when the three checks do, and then says everything
about the factory. Parts other than the host and the credentials leave alone
where the factory connects to and what it authenticates with.

Key definitions: `Builder.Change.IsExtra`, `Builder.SameEndpoint`,
`ConnectionFactory.Checked`, `ConnectionFactory.IsFrom`.
Key theorems: `Builder.build_eq_ok_iff`, `Builder.checkedHost_eq_ok_iff`,
`Builder.checkedCredentials_eq_ok_iff`, `Builder.sameEndpoint_applyAll`.
-/
import MessageBus.Factory.Builder
import MessageBus.Proofs.Outcome

namespace MessageBus
namespace Builder

/-- A builder builds a factory whose parts are the checked parts of the builder. -/
theorem build_eq_ok_iff {b : Builder} {f : ConnectionFactory} :
    b.build = .ok f ↔ b.checkedHost = .ok f.host ∧ b.checkedCredentials = .ok f.credentials ∧
      b.checkedUserAgent = .ok f.customUserAgent ∧ f.settings = b.settings.getD {} ∧
        f.remoteUri = RemoteUri.build f.host f.settings ∧
          f.connectionString = b.connectionStringFor f.host f.credentials ∧
            f.clientId = b.clientId.bind nonEmpty := by
  unfold build
  constructor
  · intro h
    cases hh : b.checkedHost with
    | error e => simp [hh, bind, Except.bind] at h
    | ok host =>
      cases hc : b.checkedCredentials with
      | error e => simp [hh, hc, bind, Except.bind] at h
      | ok credentials =>
        cases hu : b.checkedUserAgent with
        | error e => simp [hh, hc, hu, bind, Except.bind] at h
        | ok userAgent =>
          simp only [hh, hc, hu, bind, Except.bind, pure, Except.pure, Except.ok.injEq] at h
          subst h
          exact ⟨rfl, rfl, rfl, rfl, rfl, rfl, rfl⟩
  · rintro ⟨hh, hc, hu, hs, hr, hcs, hid⟩
    obtain ⟨host, credentials, settings, uri, connectionString, userAgent, clientId⟩ := f
    dsimp only at hh hc hu hs hr hcs hid
    subst hs hr hcs hid
    simp only [hh, hc, hu, bind, Except.bind, pure, Except.pure]

/-- A builder that passes the checks builds a factory of what they give. -/
theorem build_of_checked {b : Builder} {host : String} {credentials : Credentials}
    {userAgent : Option String} (hhost : b.checkedHost = .ok host)
    (hcredentials : b.checkedCredentials = .ok credentials)
    (huserAgent : b.checkedUserAgent = .ok userAgent) :
    b.build = .ok {
      host, credentials
      settings := b.settings.getD {}
      remoteUri := RemoteUri.build host (b.settings.getD {})
      connectionString := b.connectionStringFor host credentials
      customUserAgent := userAgent
      clientId := b.clientId.bind nonEmpty } :=
  build_eq_ok_iff.2 ⟨hhost, hcredentials, huserAgent, rfl, rfl, rfl, rfl⟩

/-- A part other than the host and the credentials. -/
def Change.IsExtra : Change → Prop
  | .host _ | .credentials _ => False
  | .settings _ | .customUserAgent _ | .clientId _ => True

/-- Two builders for one namespace, with the same credentials. -/
structure SameEndpoint (b b' : Builder) : Prop where
  host : b'.host = b.host
  credentials : b'.credentials = b.credentials
  connectionString : b'.connectionString = b.connectionString

namespace SameEndpoint

variable {b b' b'' : Builder}

theorem refl (b : Builder) : SameEndpoint b b := ⟨rfl, rfl, rfl⟩

theorem trans (h : SameEndpoint b b') (h' : SameEndpoint b' b'') : SameEndpoint b b'' :=
  ⟨h'.host.trans h.host, h'.credentials.trans h.credentials,
    h'.connectionString.trans h.connectionString⟩

theorem checkedHost (h : SameEndpoint b b') : b'.checkedHost = b.checkedHost := by
  rw [Builder.checkedHost, h.host, Builder.checkedHost]

theorem checkedCredentials (h : SameEndpoint b b') :
    b'.checkedCredentials = b.checkedCredentials := by
  rw [Builder.checkedCredentials, h.credentials, Builder.checkedCredentials]

theorem connectionStringFor (h : SameEndpoint b b') (host : String) (credentials : Credentials) :
    b'.connectionStringFor host credentials = b.connectionStringFor host credentials := by
  simp only [Builder.connectionStringFor, h.connectionString]

end SameEndpoint

theorem sameEndpoint_apply (b : Builder) {change : Change} (h : change.IsExtra) :
    SameEndpoint b (b.apply change) := by
  cases change with
  | host => exact h.elim
  | credentials => exact h.elim
  | settings => exact ⟨rfl, rfl, rfl⟩
  | customUserAgent => exact ⟨rfl, rfl, rfl⟩
  | clientId => exact ⟨rfl, rfl, rfl⟩

/-- The other parts leave host, credentials and connection string as they were. -/
theorem sameEndpoint_applyAll : ∀ (changes : List Change) (b : Builder),
    (∀ change ∈ changes, change.IsExtra) → SameEndpoint b (b.applyAll changes)
  | [], b, _ => .refl b
  | change :: later, b, h =>
    (sameEndpoint_apply b (h change List.mem_cons_self)).trans
      (sameEndpoint_applyAll later (b.apply change) fun c hc => h c (List.mem_cons_of_mem _ hc))

theorem nonEmpty_eq_some {text value : String} (h : nonEmpty text = some value) :
    value = text ∧ value ≠ "" := by
  unfold nonEmpty at h
  split at h
  · cases h
  · next hne =>
    cases h
    exact ⟨rfl, hne⟩

theorem nonEmpty_of_ne {text : String} (h : text ≠ "") : nonEmpty text = some text := by
  rw [nonEmpty, if_neg h]

theorem checkedHost_eq_ok_iff {b : Builder} {host : String} :
    b.checkedHost = .ok host ↔ b.host = some host ∧ host ≠ "" := by
  constructor
  · intro h
    unfold checkedHost at h
    split at h
    · next found hfound =>
      cases h
      obtain ⟨text, htext, hvalue⟩ := Option.bind_eq_some_iff.1 hfound
      obtain ⟨hsame, hne⟩ := nonEmpty_eq_some hvalue
      exact ⟨hsame ▸ htext, hne⟩
    · cases h
  · rintro ⟨h, hne⟩
    simp only [checkedHost, h, Option.bind_some, nonEmpty_of_ne hne]

theorem checkedCredentials_eq_ok_iff {b : Builder} {credentials : Credentials} :
    b.checkedCredentials = .ok credentials ↔ b.credentials = some credentials ∧
      ∀ keyName key, credentials = .sharedAccessKey keyName key → keyName ≠ "" ∧ key ≠ "" := by
  unfold checkedCredentials
  constructor
  · intro h
    split at h
    · cases h
    · next keyName key hpair =>
      obtain ⟨hne, hsame⟩ := Outcome.refuse_eq_ok.1 h
      cases hsame
      refine ⟨hpair, fun _ _ hsame => ?_⟩
      cases hsame
      exact not_or.1 hne
    · next cache htoken =>
      cases h
      exact ⟨htoken, fun _ _ hsame => nomatch hsame⟩
  · rintro ⟨h, hpair⟩
    rw [h]
    cases credentials with
    | token cache => rfl
    | sharedAccessKey keyName key =>
      obtain ⟨hname, hkey⟩ := hpair keyName key rfl
      exact if_neg (not_or.2 ⟨hname, hkey⟩)

theorem checkedUserAgent_eq_some {b : Builder} {userAgent : String}
    (h : b.checkedUserAgent = .ok (some userAgent)) :
    userAgent ≠ "" ∧ userAgent.length ≤ maxUserAgentLength := by
  unfold checkedUserAgent at h
  split at h
  · cases h
  · next text _ =>
    split at h
    · cases h
    · next hlength =>
      obtain ⟨rfl, hne⟩ := nonEmpty_eq_some (Except.ok.inj h)
      exact ⟨hne, by omega⟩

end Builder

/-! ### Factories -/

namespace ConnectionFactory

/-- What is so of every factory that has been built. -/
structure Checked (f : ConnectionFactory) : Prop where
  remoteUri : f.remoteUri = RemoteUri.build f.host f.settings
  customUserAgent : ∀ userAgent, f.customUserAgent = some userAgent →
    userAgent ≠ "" ∧ userAgent.length ≤ Builder.maxUserAgentLength
  clientId : ∀ clientId, f.clientId = some clientId → clientId ≠ ""

/-- The user agent of a factory passes the check again. -/
theorem Checked.checkedUserAgent {f : ConnectionFactory} (h : f.Checked) {b : Builder}
    (hb : b.customUserAgent = f.customUserAgent) :
    b.checkedUserAgent = .ok f.customUserAgent := by
  unfold Builder.checkedUserAgent
  rw [hb]
  cases hu : f.customUserAgent with
  | none => rfl
  | some userAgent =>
    obtain ⟨hne, hlength⟩ := h.customUserAgent userAgent hu
    have hshort : ¬ userAgent.length > Builder.maxUserAgentLength := by omega
    simp only [if_neg hshort, Builder.nonEmpty_of_ne hne]

theorem Checked.bind_nonEmpty {f : ConnectionFactory} (h : f.Checked) :
    f.clientId.bind nonEmpty = f.clientId := by
  cases hi : f.clientId with
  | none => rfl
  | some clientId => rw [Option.bind_some, Builder.nonEmpty_of_ne (h.clientId clientId hi)]

theorem checked_of_build {b : Builder} {f : ConnectionFactory} (h : b.build = .ok f) :
    f.Checked := by
  obtain ⟨-, -, huserAgent, -, hremote, -, hid⟩ := Builder.build_eq_ok_iff.1 h
  refine ⟨hremote, fun userAgent hsome => ?_, fun clientId hsome => ?_⟩
  · rw [hsome] at huserAgent
    exact Builder.checkedUserAgent_eq_some huserAgent
  · rw [hid] at hsome
    obtain ⟨text, -, htext⟩ := Option.bind_eq_some_iff.1 hsome
    exact (Builder.nonEmpty_eq_some htext).2

theorem Checked.setClientId {f : ConnectionFactory} (h : f.Checked) (clientId : String) :
    (f.setClientId clientId).Checked :=
  ⟨h.remoteUri, h.customUserAgent, fun _ hsome => (Builder.nonEmpty_eq_some hsome).2⟩

/-- The factory and the builder are for one namespace, with the same credentials. -/
structure IsFrom (f : ConnectionFactory) (b : Builder) : Prop where
  host : b.checkedHost = .ok f.host
  credentials : b.checkedCredentials = .ok f.credentials
  connectionString : b.connectionStringFor f.host f.credentials = f.connectionString

theorem isFrom_of_build {b b' : Builder} {f : ConnectionFactory} (hsame : b.SameEndpoint b')
    (h : b'.build = .ok f) : f.IsFrom b := by
  obtain ⟨hhost, hcredentials, -, -, -, hconnection, -⟩ := Builder.build_eq_ok_iff.1 h
  exact ⟨hsame.checkedHost ▸ hhost, hsame.checkedCredentials ▸ hcredentials,
    (hsame.connectionStringFor _ _).symm.trans hconnection.symm⟩

theorem IsFrom.setClientId {f : ConnectionFactory} {b : Builder} (h : f.IsFrom b)
    (clientId : String) : (f.setClientId clientId).IsFrom b :=
  ⟨h.host, h.credentials, h.connectionString⟩

end ConnectionFactory
end MessageBus
