/-
# Connection factories through a directory

A connection factory that was built from a connection string comes back from
its reference, without its proxy: the connection string parses back, the
settings are read from their document, and the builder accepts what it has
accepted before.

Key definition: `ConnectionFactory.SameButProxy`.
Key theorems: `ConnectionFactory.restore_reference`, `ConnectionFactory.decode_reference`.
-/
import MessageBus.Directory.Objects
import MessageBus.Proofs.Directory.Registry
import MessageBus.Proofs.Factory.Builder
import MessageBus.Proofs.Factory.Proxy
import MessageBus.Proofs.Settings.Document

namespace MessageBus

namespace ConnectionFactory

/-! ### The properties of a reference -/

def propertyNames : List String :=
  [connectionStringProperty, settingsProperty, userAgentProperty, clientIdProperty]

theorem propertyNames_distinct : ∀ a ∈ propertyNames, ∀ b ∈ propertyNames,
    (Text.sameIgnoringCase a b = true ↔ a = b) := by
  decide

theorem mem_optionalProperty {name : String} {value : Option String} {e : String × Option String}
    (h : e ∈ optionalProperty name value) : e.1 = name := by
  cases value with
  | none => cases h
  | some value => rw [List.mem_singleton.1 h]

theorem mem_propertyNames {f : ConnectionFactory} {e : String × String}
    (h : e ∈ (Storable.reference f).properties.entries) : e.1 ∈ propertyNames := by
  rw [Storable.properties_reference] at h
  obtain ⟨stored, hstored, rfl⟩ := List.mem_map.1 h
  rcases List.mem_append.1 (Dictionary.mem_of_mem_ofList hstored) with hmem | hmem
  · rcases List.mem_append.1 hmem with hmem | hmem
    · rcases List.mem_pair.1 hmem with rfl | rfl
      · exact List.mem_cons_self
      · exact List.mem_cons_of_mem _ List.mem_cons_self
    · simp [mem_optionalProperty hmem, propertyNames]
  · simp [mem_optionalProperty hmem, propertyNames]

/-- Each property of a factory is found under its own name. -/
theorem find?_reference (f : ConnectionFactory) {name : String} (h : name ∈ propertyNames) :
    (Storable.reference f).properties.find? name =
      (f.storedProperties.get? name).map (·.getD "") := by
  rw [Properties.find?_eq_get? fun e he => propertyNames_distinct _ (mem_propertyNames he) _ h,
    Storable.properties_reference, Dictionary.get?_mapValues]
  rfl

/-- A stored value is looked up among the optional ones first. -/
theorem get?_storedProperties (f : ConnectionFactory) (name : String) :
    f.storedProperties.get? name =
      ((Dictionary.lookup name (optionalProperty clientIdProperty f.clientId)).or
        (Dictionary.lookup name (optionalProperty userAgentProperty f.customUserAgent))).or
      (Dictionary.lookup name [(settingsProperty, some f.settings.toJson),
        (connectionStringProperty, f.connectionString.map ConnectionString.render)]) := by
  have hreverse (name : String) (value : Option String) :
      (optionalProperty name value).reverse = optionalProperty name value := by
    cases value <;> rfl
  rw [storedProperties, Dictionary.get?_ofList, List.reverse_append, List.reverse_append,
    Dictionary.lookup_append, Dictionary.lookup_append, hreverse, hreverse, Option.or_assoc]
  rfl

theorem lookup_optionalProperty_of_ne {name other : String} (h : name ≠ other)
    (value : Option String) : Dictionary.lookup other (optionalProperty name value) = none := by
  cases value with
  | none => rfl
  | some value => exact if_neg h

theorem lookup_optionalProperty (name : String) (value : Option String) :
    Dictionary.lookup name (optionalProperty name value) = value.map some := by
  cases value with
  | none => rfl
  | some value => exact if_pos rfl

section Stored

variable (f : ConnectionFactory)

theorem lookup_alwaysStored {name : String} (hs : settingsProperty ≠ name)
    (hc : connectionStringProperty ≠ name) :
    Dictionary.lookup name [(settingsProperty, some f.settings.toJson),
      (connectionStringProperty, f.connectionString.map ConnectionString.render)] = none := by
  rw [Dictionary.lookup, if_neg hs, Dictionary.lookup, if_neg hc, Dictionary.lookup]

theorem find?_connectionString :
    (Storable.reference f).properties.find? connectionStringProperty =
      some ((f.connectionString.map ConnectionString.render).getD "") := by
  rw [find?_reference f (by decide), get?_storedProperties,
    lookup_optionalProperty_of_ne (by decide), lookup_optionalProperty_of_ne (by decide)]
  rfl

theorem find?_settings :
    (Storable.reference f).properties.find? settingsProperty = some f.settings.toJson := by
  rw [find?_reference f (by decide), get?_storedProperties,
    lookup_optionalProperty_of_ne (by decide), lookup_optionalProperty_of_ne (by decide)]
  rfl

theorem find?_userAgent :
    (Storable.reference f).properties.find? userAgentProperty = f.customUserAgent := by
  rw [find?_reference f (by decide), get?_storedProperties,
    lookup_optionalProperty_of_ne (by decide), lookup_optionalProperty,
    lookup_alwaysStored f (by decide) (by decide)]
  cases f.customUserAgent <;> rfl

theorem find?_clientId :
    (Storable.reference f).properties.find? clientIdProperty = f.clientId := by
  rw [find?_reference f (by decide), get?_storedProperties, lookup_optionalProperty,
    lookup_optionalProperty_of_ne (by decide), lookup_alwaysStored f (by decide) (by decide)]
  cases f.clientId <;> rfl

end Stored

/-! ### Restoring -/

theorem render_ne_empty (c : ConnectionString) : c.render ≠ "" := by
  intro h
  unfold ConnectionString.render at h
  simp only [String.append_eq_empty_iff] at h
  exact absurd h.1.1.1.1.1 (by decide)

/-- What a factory stores apart from its namespace is set on the builder again. -/
theorem applyAll_stored {f : ConnectionFactory} (h : f.Checked) (c : ConnectionString)
    (s : Settings) :
    (Builder.ofConnectionString c).applyAll
        ([.settings s] ++ storedUserAgent (Storable.reference f).properties ++
          storedClientId (Storable.reference f).properties) =
      { Builder.ofConnectionString c with
        settings := some s, customUserAgent := f.customUserAgent, clientId := f.clientId } := by
  unfold storedUserAgent storedClientId
  rw [find?_userAgent, find?_clientId]
  cases hu : f.customUserAgent with
  | none => cases f.clientId <;> rfl
  | some userAgent =>
    rw [Option.bind_some, Builder.nonEmpty_of_ne (h.customUserAgent userAgent hu).1]
    cases f.clientId <;> rfl

/-- **A checked factory with the connection string that it was made from is restored
from its reference, with the settings of its document.** -/
theorem restore_reference {f : ConnectionFactory} {c : ConnectionString} {s : Settings}
    (hchecked : f.Checked) (hfrom : f.IsFrom (.ofConnectionString c))
    (hparse : ConnectionString.parse c.render = .ok c)
    (hsettings : Settings.ofJson f.settings.toJson = .ok s)
    (hremote : RemoteUri.build f.host s = f.remoteUri) :
    restore (Storable.reference f).properties = .ok { f with settings := s } := by
  have hc : f.connectionString = some c := hfrom.connectionString.symm
  have hrequire : (Storable.reference f).properties.require kindName connectionStringProperty =
      .ok c.render := by
    refine Properties.require_eq_ok ?_ (render_ne_empty c)
    rw [find?_connectionString, hc]
    rfl
  have hstored : storedSettings (Storable.reference f).properties = .ok [.settings s] := by
    unfold storedSettings
    rw [find?_settings, Option.bind_some, Builder.nonEmpty_of_ne (Settings.toJson_ne_empty _)]
    simp only [hsettings]
    rfl
  have hstart : Builder.start (.connectionText c.render) = .ok (.ofConnectionString c) := by
    rw [Builder.start, hparse]
    rfl
  have hbuild : Builder.build { Builder.ofConnectionString c with
      settings := some s, customUserAgent := f.customUserAgent, clientId := f.clientId } =
        .ok { f with settings := s } :=
    Builder.build_eq_ok_iff.2 ⟨hfrom.host, hfrom.credentials, hchecked.checkedUserAgent rfl, rfl,
      hremote.symm, hfrom.connectionString.symm, hchecked.bind_nonEmpty.symm⟩
  unfold restore
  simp only [hrequire, hstart, hstored, bind, Except.bind, applyAll_stored hchecked, hbuild]

/-- A factory that is another one without its proxy, in everything that it shows and
in everything that it asks of the client library. -/
structure SameButProxy (f restored : ConnectionFactory) : Prop where
  host : restored.host = f.host
  remoteUri : restored.remoteUri = f.remoteUri
  connectionString : restored.connectionString = f.connectionString
  settings : restored.settings = { f.settings with proxy := none }
  customUserAgent : restored.customUserAgent = f.customUserAgent
  clientId : restored.clientId = f.clientId
  openProperties : restored.openProperties = f.openProperties
  login : ∀ explicit, restored.loginFor explicit = f.loginFor explicit
  request : ∀ login, restored.request login = { f.request login with proxy := none }
  connection : ∀ explicit,
    restored.createConnection explicit = Operation.withoutProxy (f.createConnection explicit)
  queueConnection : ∀ explicit, restored.createQueueConnection explicit =
    Operation.withoutProxy (f.createQueueConnection explicit)
  topicConnection : ∀ explicit, restored.createTopicConnection explicit =
    Operation.withoutProxy (f.createTopicConnection explicit)
  context : ∀ mode explicit,
    restored.createContext mode explicit = Operation.withoutProxy (f.createContext mode explicit)

theorem sameButProxy_withoutProxy (f : ConnectionFactory) : SameButProxy f f.withoutProxy where
  host := rfl
  remoteUri := rfl
  connectionString := rfl
  settings := rfl
  customUserAgent := rfl
  clientId := rfl
  openProperties := rfl
  login _ := rfl
  request _ := rfl
  connection := connect_withoutProxy f
  queueConnection explicit := by
    unfold createQueueConnection
    rw [Operation.withoutProxy_bind, connect_withoutProxy]
    rfl
  topicConnection explicit := by
    unfold createTopicConnection
    rw [Operation.withoutProxy_bind, connect_withoutProxy]
    rfl
  context := createContext_withoutProxy f

/-- Taking client ids one after the other keeps what is so of a built factory. -/
theorem foldl_setClientId {b : Builder} : ∀ (ids : List String) (f : ConnectionFactory),
    f.Checked → f.IsFrom b →
      (ids.foldl setClientId f).Checked ∧ (ids.foldl setClientId f).IsFrom b ∧
        (ids.foldl setClientId f).settings = f.settings
  | [], _, hchecked, hfrom => ⟨hchecked, hfrom, rfl⟩
  | id :: ids, f, hchecked, hfrom =>
    foldl_setClientId ids (f.setClientId id) (hchecked.setClientId id) (hfrom.setClientId id)

theorem restored_of_readsBack {s : Settings}
    (h : ∀ x, s.backOffMultiplier = some x → Json.ReadsBack x) :
    s.restored = { s with proxy := none } :=
  Settings.restored_of_finiteMultiplier fun x hx => (h x hx).isFinite

/-- **A connection factory that was built from a connection string, with any
settings, user agent and client ids, is decoded from its reference as itself
without its proxy.** -/
theorem decode_reference {ω : Type} [Member ConnectionFactory ω] {g : Registry ω}
    (hg : g.Restores ConnectionFactory) {text : String} {c : ConnectionString}
    {changes : List Builder.Change} {built : ConnectionFactory} (ids : List String)
    (htext : ConnectionString.parse text = .ok c)
    (hrender : ConnectionString.parse c.render = .ok c)
    (hextra : ∀ change ∈ changes, change.IsExtra)
    (hbuild : ((Builder.start (.connectionText text)).bind fun b => (b.applyAll changes).build) =
      .ok built)
    (hmultiplier : ∀ x, built.settings.backOffMultiplier = some x → Json.ReadsBack x) :
    ∃ restored : ConnectionFactory,
      g.decode (Storable.reference (ids.foldl setClientId built)) = .ok (Member.embed restored) ∧
        SameButProxy (ids.foldl setClientId built) restored ∧
          restored.connectionString = some c := by
  have hstart : Builder.start (.connectionText text) = .ok (.ofConnectionString c) := by
    rw [Builder.start, htext]
    rfl
  rw [hstart] at hbuild
  have hfrom := isFrom_of_build (Builder.sameEndpoint_applyAll changes _ hextra) hbuild
  obtain ⟨hchecked, hfrom, hsame⟩ := foldl_setClientId ids built (checked_of_build hbuild) hfrom
  generalize ids.foldl setClientId built = f at hchecked hfrom hsame
  rw [← hsame] at hmultiplier
  have hsettings : Settings.ofJson f.settings.toJson = .ok { f.settings with proxy := none } := by
    rw [← restored_of_readsBack hmultiplier]
    exact Settings.ofJson_toJson fun x hx _ => hmultiplier x hx
  have hrestore : restore (Storable.reference f).properties = .ok f.withoutProxy :=
    restore_reference hchecked hfrom hrender hsettings hchecked.remoteUri.symm
  refine ⟨f.withoutProxy, ?_, sameButProxy_withoutProxy f, hfrom.connectionString.symm⟩
  have hdecode : g.decode (Storable.reference f) =
      (restore (Storable.reference f).properties).map Member.embed := by
    unfold Registry.decode
    rw [show g.constructors.get? (Storable.reference f).kind = _ from hg]
    rfl
  rw [hdecode, hrestore]
  rfl

/-- A factory for the queue of orders, behind a proxy. -/
def orders : ConnectionFactory :=
  let settings : Settings :=
    { queueIdleLife := 60, proxy := some ⟨"proxy.example:8080"⟩, reconnectHosts := some ["standby"] }
  { host := "contoso"
    credentials := .sharedAccessKey "policy" "secret"
    settings
    remoteUri := RemoteUri.build "contoso" settings
    connectionString := some ⟨"contoso", some "policy", some "secret", some "orders"⟩
    customUserAgent := some "sample"
    clientId := none }

theorem decode_reference_orders :
    ∃ restored : ConnectionFactory,
      (Registry.register ConnectionFactory .empty : Registry ConnectionFactory).decode
          (Storable.reference (["first", "", "second"].foldl setClientId orders)) = .ok restored ∧
        SameButProxy (["first", "", "second"].foldl setClientId orders) restored ∧
          restored.connectionString =
            some ⟨"contoso", some "policy", some "secret", some "orders"⟩ := by
  have htext : ConnectionString.parse
      ("endpoint = amqps://contoso:5671/ ; SharedAccessKey=secret;;" ++
        "SharedAccessKeyName=policy;EntityPath=orders") =
      .ok ⟨"contoso", some "policy", some "secret", some "orders"⟩ := by
    decide +kernel
  have hextra : ∀ change ∈ [Builder.Change.settings orders.settings, .customUserAgent "sample",
      .clientId ""], change.IsExtra := by
    simp [Builder.Change.IsExtra]
  refine decode_reference (Registry.restores_register ConnectionFactory .empty)
    ["first", "", "second"] htext (by decide +kernel) hextra ?_ (by rintro x ⟨⟩)
  rw [Builder.start, htext]
  rfl

end ConnectionFactory
end MessageBus
