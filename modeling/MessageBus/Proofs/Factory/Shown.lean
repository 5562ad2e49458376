/-
# What a builder shows of its keys

The diagnostic text of a builder is not to tell a shared access key. Two chains
of calls that differ in nothing but the keys they are given give builders that
differ in nothing but their keys. The credentials keep their key to themselves.
The connection string that a builder started from does not: its key is a field
like any other, and quoting hides nothing. So the texts are the same exactly
when the two chains started from connection strings with the same key.

Key definitions: `Credentials.SameButKey`, `Builder.SameButKey`,
`Builder.Start.SameButKey`, `Builder.Change.SameButKey`.
Key theorems: `Inspect.record_inj`, `Builder.SameButKey.applyAll`,
`Builder.SameButKey.inspect_eq_iff`, `Builder.inspect_chain_eq_iff`.
-/
import MessageBus.Proofs.ConnectionString.Secret
import MessageBus.Proofs.Factory.Described
import MessageBus.Proofs.Text.Quoted

namespace MessageBus

/-! ### Diagnostic texts -/

namespace Inspect

/-- One field of a record can be read off its text, the others given. -/
theorem record_inj (before after : List (String × String)) {name field text text' : String} :
    record name (before ++ (field, text) :: after) =
      record name (before ++ (field, text') :: after) ↔ text = text' := by
  refine ⟨fun h => ?_, fun h => h ▸ rfl⟩
  have hlists := congrArg String.toList h
  simp only [record, commaSeparated, String.toList_append, Text.toList_intercalate, List.map_append,
    List.map_cons, Text.join_append_cons, List.append_assoc, List.append_cancel_left_eq,
    List.append_cancel_right_eq] at hlists
  exact String.toList_inj.1 hlists

theorem inspect_some_inj {α : Type} [Inspect α] {a a' : α} :
    inspect (some a) = inspect (some a') ↔ inspect a = inspect a' := by
  refine ⟨fun h => ?_, fun h => congrArg (variant "Some") h⟩
  have hlists : (variant "Some" (inspect a)).toList = (variant "Some" (inspect a')).toList :=
    congrArg String.toList h
  simp only [variant, String.toList_append, List.append_assoc, List.append_cancel_left_eq,
    List.append_cancel_right_eq] at hlists
  exact String.toList_inj.1 hlists

/-- The text of a string tells the string. -/
theorem inspect_string_inj {s s' : String} : inspect s = inspect s' ↔ s = s' :=
  ⟨Text.quoted_inj, congrArg inspect⟩

end Inspect

open Inspect

/-- The text of a connection string tells its key. -/
theorem ConnectionString.SameButKey.inspect_eq_iff {c c' : ConnectionString}
    (h : c.SameButKey c') : inspect c = inspect c' ↔ c.key = c'.key := by
  obtain ⟨host, keyName, key, entityPath⟩ := c
  obtain ⟨host', keyName', key', entityPath'⟩ := c'
  obtain ⟨rfl, rfl, hkey, rfl⟩ := h
  have hfield : inspect (⟨host, keyName, key, entityPath⟩ : ConnectionString) =
      inspect (⟨host, keyName, key', entityPath⟩ : ConnectionString) ↔
        inspect key = inspect key' :=
    record_inj [("host", inspect host), ("sas_key_name", inspect keyName)]
      [("entity_path", inspect entityPath)]
  rw [hfield]
  cases key with
  | none =>
    cases key' with
    | none => simp
    | some key' => cases hkey
  | some key =>
    cases key' with
    | none => cases hkey
    | some key' => rw [inspect_some_inj, inspect_string_inj, Option.some.injEq]

/-! ### Credentials -/

/-- Credentials that differ at most in the value of the key. -/
inductive Credentials.SameButKey : Credentials → Credentials → Prop
  | sharedAccessKey (keyName key key' : String) :
    SameButKey (.sharedAccessKey keyName key) (.sharedAccessKey keyName key')
  | token (cache : TokenCache) : SameButKey (.token cache) (.token cache)

/-- Credentials do not show their key. -/
theorem Credentials.SameButKey.inspect_eq {x x' : Credentials} (h : x.SameButKey x') :
    inspect x = inspect x' := by
  cases h with
  | sharedAccessKey keyName key key' => rfl
  | token cache => rfl

namespace Builder

/-! ### Chains that differ in their keys -/

/-- Builders that differ at most in the values of keys. -/
structure SameButKey (b b' : Builder) : Prop where
  host : b.host = b'.host
  credentials : Option.Rel Credentials.SameButKey b.credentials b'.credentials
  settings : b.settings = b'.settings
  connectionString : Option.Rel ConnectionString.SameButKey b.connectionString b'.connectionString
  customUserAgent : b.customUserAgent = b'.customUserAgent
  clientId : b.clientId = b'.clientId

/-- Starts that differ at most in the values of keys. -/
inductive Start.SameButKey : Start → Start → Prop
  | blank : SameButKey .blank .blank
  | connectionText {text text' : String} (h : ConnectionString.TextAlike text text') :
    SameButKey (.connectionText text) (.connectionText text')
  | connectionString {c c' : ConnectionString} (h : c.SameButKey c') :
    SameButKey (.connectionString c) (.connectionString c')
  | sharedAccessKey (keyName key key' host : String) :
    SameButKey (.sharedAccessKey keyName key host) (.sharedAccessKey keyName key' host)
  | token (cache : TokenCache) (host : String) : SameButKey (.token cache host) (.token cache host)

/-- Parts that are set and differ at most in the value of a key. -/
inductive Change.SameButKey : Change → Change → Prop
  | same (change : Change) : SameButKey change change
  | credentials {x x' : Credentials} (h : x.SameButKey x') :
    SameButKey (.credentials x) (.credentials x')

theorem sameButKey_ofConnectionString {c c' : ConnectionString} (h : c.SameButKey c') :
    (ofConnectionString c).SameButKey (ofConnectionString c') := by
  obtain ⟨host, keyName, key, entityPath⟩ := c
  obtain ⟨host', keyName', key', entityPath'⟩ := c'
  have hcredentials : Option.Rel Credentials.SameButKey
      (credentialsOf ⟨host, keyName, key, entityPath⟩)
      (credentialsOf ⟨host', keyName', key', entityPath'⟩) := by
    obtain ⟨-, rfl, hkey, -⟩ := h
    cases keyName with
    | none => exact .none
    | some keyName =>
      cases key with
      | none =>
        cases key' with
        | none => exact .none
        | some key' => cases hkey
      | some key =>
        cases key' with
        | none => cases hkey
        | some key' => exact .some (.sharedAccessKey keyName key key')
  exact ⟨congrArg some h.host, hcredentials, rfl, .some h, rfl, rfl⟩

/-- Starts that differ in their keys fail alike, or give builders that differ in their keys. -/
theorem Start.SameButKey.sameOutcome {start start' : Start} (h : start.SameButKey start') :
    SameOutcome Builder.SameButKey (Builder.start start) (Builder.start start') := by
  cases h with
  | blank => exact .ok ⟨rfl, .none, rfl, .none, rfl, rfl⟩
  | connectionText htext =>
    exact (ConnectionString.sameOutcome_parse htext).map fun _ _ => sameButKey_ofConnectionString
  | connectionString hc => exact .ok (sameButKey_ofConnectionString hc)
  | sharedAccessKey keyName key key' host =>
    exact .ok ⟨rfl, .some (.sharedAccessKey keyName key key'), rfl, .none, rfl, rfl⟩
  | token cache host => exact .ok ⟨rfl, .some (.token cache), rfl, .none, rfl, rfl⟩

theorem credentials_rel_refl (credentials : Option Credentials) :
    Option.Rel Credentials.SameButKey credentials credentials := by
  cases credentials with
  | none => exact .none
  | some credentials =>
    cases credentials with
    | sharedAccessKey keyName key => exact .some (.sharedAccessKey keyName key key)
    | token cache => exact .some (.token cache)

/-- **Setting one part leaves two builders the same but for their keys.** -/
theorem SameButKey.apply {b b' : Builder} (h : b.SameButKey b') {change change' : Change}
    (hchange : change.SameButKey change') : (b.apply change).SameButKey (b'.apply change') := by
  cases hchange with
  | same =>
    cases change with
    | host host => exact { h with host := rfl }
    | credentials credentials => exact { h with credentials := credentials_rel_refl _ }
    | settings settings => exact { h with settings := rfl }
    | customUserAgent userAgent => exact { h with customUserAgent := rfl }
    | clientId clientId => exact { h with clientId := rfl }
  | credentials hcredentials => exact { h with credentials := .some hcredentials }

/-- **So does a whole chain.** -/
theorem SameButKey.applyAll {changes changes' : List Change}
    (hchanges : List.Forall₂ Change.SameButKey changes changes') :
    ∀ {b b' : Builder}, b.SameButKey b' → (b.applyAll changes).SameButKey (b'.applyAll changes') := by
  induction hchanges with
  | nil => exact fun h => h
  | cons hchange _ ih => exact fun h => ih (h.apply hchange)

/-! ### Their texts -/

theorem credentials_inspect_eq {x x' : Option Credentials}
    (h : Option.Rel Credentials.SameButKey x x') : inspect x = inspect x' := by
  cases h with
  | none => rfl
  | some h => exact inspect_some_inj.2 h.inspect_eq

theorem connectionString_inspect_eq_iff {x x' : Option ConnectionString}
    (h : Option.Rel ConnectionString.SameButKey x x') :
    inspect x = inspect x' ↔ x.bind (·.key) = x'.bind (·.key) := by
  cases h with
  | none => exact iff_of_true rfl rfl
  | some h => exact inspect_some_inj.trans h.inspect_eq_iff

/-- **Builders that differ at most in their keys show the key of their connection string, and
no other.** -/
theorem SameButKey.inspect_eq_iff {b b' : Builder} (h : b.SameButKey b') :
    inspect b = inspect b' ↔
      b.connectionString.bind (·.key) = b'.connectionString.bind (·.key) := by
  have hcredentials : inspect b.credentials = inspect b'.credentials :=
    credentials_inspect_eq h.credentials
  have hfield : inspect b = inspect b' ↔ inspect b.connectionString = inspect b'.connectionString := by
    show record _ _ = record _ _ ↔ _
    rw [h.host, hcredentials, h.settings, h.customUserAgent, h.clientId]
    exact record_inj
      [("host", inspect b'.host), ("credentials", inspect b'.credentials),
        ("settings", inspect b'.settings)]
      [("custom_user_agent", inspect b'.customUserAgent), ("client_id", inspect b'.clientId)]
  rw [hfield, connectionString_inspect_eq_iff h.connectionString]

/-- **Two chains that differ at most in their keys fail alike at their start, or have the same
text exactly when the connection strings that they started from, if any, have the same key.**
Keys that were only given as credentials are never shown. -/
theorem inspect_chain_eq_iff {start start' : Start} (hstart : start.SameButKey start')
    {changes changes' : List Change}
    (hchanges : List.Forall₂ Change.SameButKey changes changes') :
    SameOutcome (fun b b' => inspect (b.applyAll changes) = inspect (b'.applyAll changes') ↔
        start.parsed.bind (·.key) = start'.parsed.bind (·.key))
      (Builder.start start) (Builder.start start') := by
  refine hstart.sameOutcome.imp fun b b' hb hb' hsame => ?_
  rw [(SameButKey.applyAll hchanges hsame).inspect_eq_iff, connectionString_applyAll,
    connectionString_applyAll, connectionString_start hb, connectionString_start hb']

/-- A key pair and another one in its place do not show, whichever the keys. -/
theorem inspect_chain_eq_iff_rekeyed :
    inspect ((ofHost "contoso" (.sharedAccessKey "policy" "hidden")).applyAll
        [.credentials (.sharedAccessKey "policy" "later"), .clientId "orders"]) =
      inspect ((ofHost "contoso" (.sharedAccessKey "policy" "secret")).applyAll
        [.credentials (.sharedAccessKey "policy" "latest"), .clientId "orders"]) := by
  have hsame := inspect_chain_eq_iff (.sharedAccessKey "policy" "hidden" "secret" "contoso")
    (.cons (.credentials (.sharedAccessKey "policy" "later" "latest"))
      (.cons (.same (.clientId "orders")) .nil))
  cases hsame with
  | ok h => exact h.2 rfl

/-- The text of `sampleText` with another key. -/
def rekeyedText : String :=
  "Endpoint=sb://contoso.example/;SharedAccessKeyName=policy;SharedAccessKey=hidden"

theorem textAlike_rekeyedText : ConnectionString.TextAlike sampleText rekeyedText := by
  have hpieces : Text.cut ';' sampleText.toList = ["Endpoint=sb://contoso.example/".toList,
      "SharedAccessKeyName=policy".toList, "SharedAccessKey=secret".toList] := by decide +kernel
  have hpieces' : Text.cut ';' rekeyedText.toList = ["Endpoint=sb://contoso.example/".toList,
      "SharedAccessKeyName=policy".toList, "SharedAccessKey=hidden".toList] := by decide +kernel
  unfold ConnectionString.TextAlike
  rw [hpieces, hpieces']
  have hname : ConnectionString.NamesKey "SharedAccessKey".toList := ⟨by decide, by decide⟩
  exact .cons (.same _) (.cons (.same _)
    (.cons (.key hname "secret".toList "hidden".toList) .nil))

/-- The key of a connection string shows: two texts that differ in it alone give builders with
different texts. -/
theorem shown_sampleText : ConnectionString.TextAlike sampleText rekeyedText ∧
    ∃ b b', Builder.start (.connectionText sampleText) = .ok b ∧
      Builder.start (.connectionText rekeyedText) = .ok b' ∧ inspect b ≠ inspect b' := by
  have hparse : ConnectionString.parse rekeyedText = .ok { sample with key := some "hidden" } := by
    decide +kernel
  have hstart : Builder.start (.connectionText rekeyedText) =
      .ok (ofConnectionString { sample with key := some "hidden" }) := by
    rw [Builder.start, hparse]
    rfl
  have hsame : (ofConnectionString sample).SameButKey
      (ofConnectionString { sample with key := some "hidden" }) :=
    sameButKey_ofConnectionString ⟨rfl, rfl, rfl, rfl⟩
  refine ⟨textAlike_rekeyedText, _, _, start_sampleText, hstart, fun htext => ?_⟩
  exact absurd (hsame.inspect_eq_iff.1 htext) (by decide)

end Builder
end MessageBus
