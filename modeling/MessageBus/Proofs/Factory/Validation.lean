/-
# What a chain of settings builds

Wherever a builder starts from and whatever is set on it, in any order, only the
last value of each part counts. It builds a factory exactly when these values
meet four requirements, and else fails for the first that they do not meet.
What is built stays in order: no later client id brings an empty part, a longer
user agent or another remote address.

Key definitions: `Builder.Start.changes`, `Builder.gathered`, `Builder.Requirement`,
`ConnectionFactory.Proper`.
Key theorems: `Builder.chain_eq`, `Builder.exists_build_iff`, `Builder.build_eq_error_iff`,
`Builder.chain_builds_iff_met`.
-/
import Mathlib.Data.List.Induction
import MessageBus.Proofs.Factory.Described
import MessageBus.Proofs.Outcome

namespace MessageBus
namespace Builder

/-! ### The last value of each part -/

def Change.host? : Change → Option String
  | .host value => some value
  | _ => none

def Change.credentials? : Change → Option Credentials
  | .credentials value => some value
  | _ => none

def Change.settings? : Change → Option Settings
  | .settings value => some value
  | _ => none

def Change.customUserAgent? : Change → Option String
  | .customUserAgent value => some value
  | _ => none

def Change.clientId? : Change → Option String
  | .clientId value => some value
  | _ => none

/-- What is set at the start: a connection string sets its host, and its key pair if both
parts of it are there. -/
def Start.changes : Start → Except Error (List Change)
  | .blank => .ok []
  | .connectionText text => (ConnectionString.parse text).map ofParsed
  | .connectionString parsed => .ok (ofParsed parsed)
  | .sharedAccessKey keyName key host => .ok [.host host, .credentials (.sharedAccessKey keyName key)]
  | .token cache host => .ok [.host host, .credentials (.token cache)]
where
  /-- What a connection string sets. -/
  ofParsed (c : ConnectionString) : List Change :=
    match c.keyName, c.key with
    | some keyName, some key => [.host c.host, .credentials (.sharedAccessKey keyName key)]
    | _, _ => [.host c.host]

/-- The value of each part that was set last. -/
def gathered (changes : List Change) : Builder where
  host := (changes.filterMap Change.host?).getLast?
  credentials := (changes.filterMap Change.credentials?).getLast?
  settings := (changes.filterMap Change.settings?).getLast?
  customUserAgent := (changes.filterMap Change.customUserAgent?).getLast?
  clientId := (changes.filterMap Change.clientId?).getLast?

theorem gathered_concat (changes : List Change) (change : Change) :
    gathered (changes ++ [change]) = (gathered changes).apply change := by
  cases change <;>
    simp [gathered, apply, Change.host?, Change.credentials?, Change.settings?,
      Change.customUserAgent?, Change.clientId?]

/-- A builder has the values that were set last, and the connection string of its start. -/
theorem applyAll_eq_gathered (c : Option ConnectionString) (changes : List Change) :
    applyAll { connectionString := c } changes = { gathered changes with connectionString := c } := by
  induction changes using List.reverseRecOn with
  | nil => rfl
  | append_singleton changes change ih =>
    have hlast : applyAll { connectionString := c } (changes ++ [change]) =
        (applyAll { connectionString := c } changes).apply change :=
      List.foldl_concat ..
    rw [hlast, ih, gathered_concat]
    cases change with
    | host _ | credentials _ | settings _ | customUserAgent _ | clientId _ => rfl

/-- A start is as good as setting its parts by hand, but for the connection string. -/
theorem start_eq (start : Start) : Builder.start start =
    start.changes.map (applyAll { connectionString := start.parsed }) := by
  have hparsed (c : ConnectionString) : ofConnectionString c =
      applyAll { connectionString := some c } (Start.changes.ofParsed c) := by
    obtain ⟨host, keyName, key, path⟩ := c
    cases keyName with
    | none => rfl
    | some keyName => cases key <;> rfl
  cases start with
  | connectionText text =>
    rw [Builder.start, Start.changes, Start.parsed]
    cases ConnectionString.parse text with
    | error e => rfl
    | ok c => exact congrArg Except.ok (hparsed c)
  | connectionString c => exact congrArg Except.ok (hparsed c)
  | blank | sharedAccessKey _ _ _ | token _ _ => rfl

/-- **A chain builds what the values that were set last build.** -/
theorem chain_eq {start : Start} {initial : List Change} (h : start.changes = .ok initial)
    (changes : List Change) :
    ((Builder.start start).bind fun b => (b.applyAll changes).build) =
      build { gathered (initial ++ changes) with connectionString := start.parsed } := by
  rw [start_eq, h, ← applyAll_eq_gathered, applyAll, List.foldl_append]
  rfl

/-! ### What is required -/

/-- What is required of the parts of a factory. -/
inductive Requirement
  | host
  | credentials
  | keyPair
  | userAgent
  deriving DecidableEq

namespace Requirement

/-- The parts that have been gathered meet a requirement. -/
def Met (b : Builder) : Requirement → Prop
  | host => ∃ text, b.host = some text ∧ text ≠ ""
  | credentials => ∃ presented, b.credentials = some presented
  | keyPair => ∀ keyName key, b.credentials = some (.sharedAccessKey keyName key) →
      keyName ≠ "" ∧ key ≠ ""
  | userAgent => ∀ text, b.customUserAgent = some text → text.length ≤ 128

def error : Requirement → Error
  | host => .configuration .missingHost
  | credentials => .configuration .missingCredentials
  | keyPair => .configuration .emptyKeyPair
  | userAgent => .userAgentTooLong 128

/-- The requirements that are looked at before. -/
def earlier : Requirement → List Requirement
  | host => []
  | credentials => [host]
  | keyPair => [host, credentials]
  | userAgent => [host, credentials, keyPair]

/-- A requirement is the first that the parts do not meet. -/
def FirstUnmet (b : Builder) (q : Requirement) : Prop := ¬ q.Met b ∧ ∀ q' ∈ q.earlier, q'.Met b

end Requirement

theorem checkedHost_of_met {b : Builder} (h : Requirement.host.Met b) :
    ∃ host, b.checkedHost = .ok host := by
  obtain ⟨host, hhost, hne⟩ := h
  exact ⟨host, checkedHost_eq_ok_iff.2 ⟨hhost, hne⟩⟩

theorem checkedCredentials_of_met {b : Builder} (h : Requirement.credentials.Met b)
    (hpair : Requirement.keyPair.Met b) : ∃ credentials, b.checkedCredentials = .ok credentials := by
  obtain ⟨credentials, hcredentials⟩ := h
  refine ⟨credentials, checkedCredentials_eq_ok_iff.2 ⟨hcredentials, fun keyName key hsame => ?_⟩⟩
  exact hpair keyName key (hsame ▸ hcredentials)

theorem checkedHost_eq_error {b : Builder} (h : ¬ Requirement.host.Met b) :
    b.checkedHost = .error (.configuration .missingHost) := by
  have hnone : b.host.bind nonEmpty = none := by
    rw [Option.bind_eq_none_iff]
    intro text htext
    by_cases hempty : text = ""
    · rw [nonEmpty, if_pos hempty]
    · exact absurd ⟨text, htext, hempty⟩ h
  rw [checkedHost, hnone]

theorem checkedCredentials_missing {b : Builder} (h : ¬ Requirement.credentials.Met b) :
    b.checkedCredentials = .error (.configuration .missingCredentials) := by
  have hnone : b.credentials = none := Option.eq_none_iff_forall_ne_some.2 fun c hc => h ⟨c, hc⟩
  rw [checkedCredentials, hnone]

theorem checkedCredentials_empty {b : Builder} (h : ¬ Requirement.keyPair.Met b) :
    b.checkedCredentials = .error (.configuration .emptyKeyPair) := by
  simp only [Requirement.Met, not_forall] at h
  obtain ⟨keyName, key, hpair, hempty⟩ := h
  rw [checkedCredentials, hpair]
  exact if_pos (by simpa only [ne_eq, not_and_or, not_not] using hempty)

theorem checkedUserAgent_of_met {b : Builder} (h : Requirement.userAgent.Met b) :
    ∃ userAgent, b.checkedUserAgent = .ok userAgent := by
  unfold checkedUserAgent
  cases hb : b.customUserAgent with
  | none => exact ⟨none, rfl⟩
  | some text => exact ⟨nonEmpty text, if_neg (Nat.not_lt.2 (h text hb))⟩

theorem checkedUserAgent_eq_error {b : Builder} (h : ¬ Requirement.userAgent.Met b) :
    b.checkedUserAgent = .error (.userAgentTooLong 128) := by
  simp only [Requirement.Met, not_forall] at h
  obtain ⟨text, htext, hlong⟩ := h
  rw [checkedUserAgent, htext]
  exact if_pos (Nat.not_le.1 hlong)

theorem exists_build_of_met {b : Builder} (h : ∀ q : Requirement, q.Met b) :
    ∃ f, b.build = .ok f := by
  obtain ⟨host, hhost⟩ := checkedHost_of_met (h .host)
  obtain ⟨credentials, hcredentials⟩ := checkedCredentials_of_met (h .credentials) (h .keyPair)
  obtain ⟨userAgent, huserAgent⟩ := checkedUserAgent_of_met (h .userAgent)
  exact ⟨_, build_of_checked hhost hcredentials huserAgent⟩

/-- A builder fails for the first requirement that it does not meet. -/
theorem build_of_firstUnmet {b : Builder} {q : Requirement} (h : q.FirstUnmet b) :
    b.build = .error q.error := by
  obtain ⟨hunmet, hearlier⟩ := h
  cases q with
  | host =>
    rw [build, checkedHost_eq_error hunmet]
    rfl
  | credentials =>
    obtain ⟨host, hhost⟩ := checkedHost_of_met (hearlier .host (by decide))
    rw [build, hhost, checkedCredentials_missing hunmet]
    rfl
  | keyPair =>
    obtain ⟨host, hhost⟩ := checkedHost_of_met (hearlier .host (by decide))
    rw [build, hhost, checkedCredentials_empty hunmet]
    rfl
  | userAgent =>
    obtain ⟨host, hhost⟩ := checkedHost_of_met (hearlier .host (by decide))
    obtain ⟨credentials, hcredentials⟩ :=
      checkedCredentials_of_met (hearlier .credentials (by decide)) (hearlier .keyPair (by decide))
    rw [build, hhost, hcredentials, checkedUserAgent_eq_error hunmet]
    rfl

/-- If a requirement is not met then one is the first that is not. -/
theorem met_or_exists_firstUnmet (b : Builder) :
    (∀ q : Requirement, q.Met b) ∨ ∃ q : Requirement, q.FirstUnmet b := by
  by_cases hhost : Requirement.host.Met b
  · by_cases hcredentials : Requirement.credentials.Met b
    · by_cases hpair : Requirement.keyPair.Met b
      · by_cases huserAgent : Requirement.userAgent.Met b
        · exact .inl fun q => by cases q <;> assumption
        · exact .inr ⟨.userAgent, huserAgent, by simp [Requirement.earlier, *]⟩
      · exact .inr ⟨.keyPair, hpair, by simp [Requirement.earlier, *]⟩
    · exact .inr ⟨.credentials, hcredentials, by simp [Requirement.earlier, *]⟩
  · exact .inr ⟨.host, hhost, by simp [Requirement.earlier]⟩

/-- **A builder builds a factory exactly when it meets all requirements.** -/
theorem exists_build_iff {b : Builder} : (∃ f, b.build = .ok f) ↔ ∀ q : Requirement, q.Met b := by
  refine ⟨fun ⟨f, hf⟩ => ?_, exists_build_of_met⟩
  rcases met_or_exists_firstUnmet b with hall | ⟨q, hq⟩
  · exact hall
  · rw [build_of_firstUnmet hq] at hf
    cases hf

/-- **Otherwise it fails for the first one that it does not meet.** -/
theorem build_eq_error_iff {b : Builder} {e : Error} :
    b.build = .error e ↔ ∃ q : Requirement, q.FirstUnmet b ∧ e = q.error := by
  constructor
  · intro h
    rcases met_or_exists_firstUnmet b with hall | ⟨q, hq⟩
    · obtain ⟨f, hf⟩ := exists_build_of_met hall
      rw [hf] at h
      cases h
    · rw [build_of_firstUnmet hq] at h
      exact ⟨q, hq, (Except.error.inj h).symm⟩
  · rintro ⟨q, hq, rfl⟩
    exact build_of_firstUnmet hq

end Builder

/-! ### What is built -/

namespace ConnectionFactory

/-- What is so of every factory, after any client ids. -/
structure Proper (f : ConnectionFactory) : Prop where
  host : f.host ≠ ""
  clientId : f.clientId ≠ some ""
  customUserAgent : f.customUserAgent ≠ some ""
  userAgentLength : ∀ userAgent, f.customUserAgent = some userAgent → userAgent.length ≤ 128
  remoteUri : f.remoteUri = RemoteUri.build f.host f.settings

/-- The factory has the parts that were gathered for it, the defaults for settings that were
not given, and the last of the client ids. -/
structure Has (f : ConnectionFactory) (b : Builder) (ids : List String) : Prop where
  host : b.host = some f.host
  credentials : b.credentials = some f.credentials
  settings : f.settings = b.settings.getD {}
  customUserAgent : f.customUserAgent = b.customUserAgent.bind nonEmpty
  clientId : f.clientId = (ids.getLast?.or b.clientId).bind nonEmpty

theorem nonEmpty_ne_some_empty (text : String) : nonEmpty text ≠ some "" := by
  intro h
  exact (Builder.nonEmpty_eq_some h).2 rfl

theorem has_of_build {b : Builder} {f : ConnectionFactory} (h : b.build = .ok f) : f.Has b [] := by
  obtain ⟨hhost, hcredentials, huserAgent, hsettings, -, -, hid⟩ := Builder.build_eq_ok_iff.1 h
  refine ⟨(Builder.checkedHost_eq_ok_iff.1 hhost).1,
    (Builder.checkedCredentials_eq_ok_iff.1 hcredentials).1, hsettings, ?_, hid⟩
  unfold Builder.checkedUserAgent at huserAgent
  split at huserAgent
  · next hnone =>
    rw [hnone]
    exact (Except.ok.inj huserAgent).symm
  · next text htext =>
    rw [htext]
    exact (Except.ok.inj (Outcome.refuse_eq_ok.1 huserAgent).2).symm

theorem proper_of_build {b : Builder} {f : ConnectionFactory} (h : b.build = .ok f) : f.Proper := by
  have hchecked := checked_of_build h
  have hne : f.host ≠ "" := (Builder.checkedHost_eq_ok_iff.1 (Builder.build_eq_ok_iff.1 h).1).2
  refine ⟨hne, fun hid => ?_, fun hua => ?_, fun userAgent hua => ?_, hchecked.remoteUri⟩
  · exact hchecked.clientId "" hid rfl
  · exact (hchecked.customUserAgent "" hua).1 rfl
  · exact (hchecked.customUserAgent userAgent hua).2

theorem Proper.setClientId {f : ConnectionFactory} (h : f.Proper) (clientId : String) :
    (f.setClientId clientId).Proper :=
  { h with clientId := nonEmpty_ne_some_empty clientId }

theorem Has.setClientId {f : ConnectionFactory} {b : Builder} {ids : List String} (h : f.Has b ids)
    (clientId : String) : (f.setClientId clientId).Has b (ids ++ [clientId]) :=
  { h with clientId := by simp [ConnectionFactory.setClientId] }

theorem Proper.foldl_setClientId : ∀ (ids : List String) {f : ConnectionFactory}, f.Proper →
    (ids.foldl ConnectionFactory.setClientId f).Proper
  | [], _, h => h
  | id :: ids, _, h => Proper.foldl_setClientId ids (h.setClientId id)

theorem Has.foldl_setClientId {b : Builder} : ∀ (later ids : List String) {f : ConnectionFactory},
    f.Has b ids → (later.foldl ConnectionFactory.setClientId f).Has b (ids ++ later)
  | [], ids, _, h => by rwa [List.append_nil]
  | id :: later, ids, _, h => by
    rw [List.append_cons]
    exact Has.foldl_setClientId later (ids ++ [id]) (h.setClientId id)

end ConnectionFactory

/-! ### Chains -/

namespace Builder

/-- No requirement is about the connection string. -/
theorem met_withConnectionString (b : Builder) (c : Option ConnectionString) (q : Requirement) :
    q.Met { b with connectionString := c } ↔ q.Met b := by
  cases q with
  | host | credentials | keyPair | userAgent => exact Iff.rfl

theorem firstUnmet_withConnectionString (b : Builder) (c : Option ConnectionString)
    (q : Requirement) : q.FirstUnmet { b with connectionString := c } ↔ q.FirstUnmet b := by
  simp only [Requirement.FirstUnmet, met_withConnectionString]

/-- **From any start and by any changes a factory is built exactly when the values that were
set last meet all requirements; otherwise building fails for the first that they do not meet.
What is built has these values, and stays in order whatever client ids it takes later.** -/
theorem chain_builds_iff_met {start : Start} {initial : List Change} (hstart : start.changes = .ok initial)
    (changes : List Change) :
    let last := gathered (initial ++ changes)
    let built := (Builder.start start).bind fun b => (b.applyAll changes).build
    ((∃ f, built = .ok f) ↔ ∀ q : Requirement, q.Met last) ∧
    (∀ e, built = .error e ↔ ∃ q : Requirement, q.FirstUnmet last ∧ e = q.error) ∧
    ∀ f, built = .ok f → ∀ ids : List String,
      (ids.foldl ConnectionFactory.setClientId f).Proper ∧
        (ids.foldl ConnectionFactory.setClientId f).Has last ids := by
  intro last built
  have hbuilt : built = build { last with connectionString := start.parsed } :=
    chain_eq hstart changes
  refine ⟨?_, fun e => ?_, fun f hf ids => ?_⟩
  · rw [hbuilt, exists_build_iff]
    simp only [met_withConnectionString]
  · rw [hbuilt, build_eq_error_iff]
    simp only [firstUnmet_withConnectionString]
  · rw [hbuilt] at hf
    obtain ⟨hhost, hcredentials, hsettings, huserAgent, hid⟩ :=
      (ConnectionFactory.has_of_build hf).foldl_setClientId ids []
    exact ⟨(ConnectionFactory.proper_of_build hf).foldl_setClientId ids,
      hhost, hcredentials, hsettings, huserAgent, hid⟩

/-- A connection string without a key pair, and what is set over it. -/
theorem chain_builds_iff_met_keyless :
    let start : Start := .connectionText "Endpoint=sb://contoso.example/"
    let changes : List Change := [.clientId "orders", .credentials (.sharedAccessKey "policy" ""),
      .customUserAgent (String.ofList (List.replicate 129 'x'))]
    start.changes = .ok [.host "contoso.example"] ∧
      ((Builder.start start).bind fun b => (b.applyAll changes).build) =
        .error (.configuration .emptyKeyPair) ∧
      ∃ f, ((Builder.start start).bind fun b => (b.applyAll (changes ++
          [.credentials (.token ⟨0⟩), .customUserAgent "sample"])).build) = .ok f ∧
        (f.setClientId "").Proper := by
  intro start changes
  have hparse : ConnectionString.parse "Endpoint=sb://contoso.example/" =
      .ok ⟨"contoso.example", none, none, none⟩ := by
    decide +kernel
  have hstart : start.changes = .ok [.host "contoso.example"] := by
    rw [Start.changes, hparse]
    rfl
  have hunmet : Requirement.keyPair.FirstUnmet (gathered ([.host "contoso.example"] ++ changes)) := by
    refine ⟨fun hpair => (hpair "policy" "" rfl).2 rfl, fun q hq => ?_⟩
    rcases List.mem_pair.1 hq with rfl | rfl
    · exact ⟨"contoso.example", rfl, by decide⟩
    · exact ⟨.sharedAccessKey "policy" "", rfl⟩
  have hmet (q : Requirement) : q.Met (gathered ([.host "contoso.example"] ++ (changes ++
      [.credentials (.token ⟨0⟩), .customUserAgent "sample"]))) := by
    cases q with
    | host => exact ⟨"contoso.example", rfl, by decide⟩
    | credentials => exact ⟨.token ⟨0⟩, rfl⟩
    | keyPair => exact fun _ _ h => nomatch h
    | userAgent =>
      rintro text ⟨⟩
      decide
  obtain ⟨hexists, -, hbuilt⟩ := chain_builds_iff_met hstart
    (changes ++ [.credentials (.token ⟨0⟩), .customUserAgent "sample"])
  obtain ⟨f, hf⟩ := hexists.2 hmet
  exact ⟨hstart, ((chain_builds_iff_met hstart changes).2.1 _).2 ⟨.keyPair, hunmet, rfl⟩, f, hf,
    (hbuilt f hf [""]).1⟩

end Builder
end MessageBus
