/-
# Connection factories from any reference

A directory may hold anything under the kind of connection factories. Whatever
its addresses are, four texts decide what a reference is decoded as: those of
the connection string, the settings, the user agent and the client id, each the
empty text when no address has it. A factory is made exactly when they pass the
checks, and otherwise the first of these that fails says what is wrong: `Fault`
has one case for each check, in their order.

Key definitions: `StoredTexts`, `storedTexts`, `ReadsSettings`, `Accepts`, `Fault`,
`Decodes`.
Key theorems: `Reference.find?_properties_congr`, `ConnectionFactory.restore_of_accepts`,
`ConnectionFactory.restore_of_fault`, `ConnectionFactory.decodes_reference`.
-/
import MessageBus.Proofs.ConnectionString.NormalForm
import MessageBus.Proofs.Directory.Factory
import MessageBus.Proofs.Directory.Spelling
import MessageBus.Proofs.Factory.Validation

namespace MessageBus

/-! ### Addresses that do not count -/

namespace Reference

/-- The type of an address is a name up to case. -/
def Spells (name : String) (a : Address) : Bool := Text.sameIgnoringCase a.type name

/-- Only addresses that spell the name of a property decide what it is. -/
theorem find?_properties_filter (r : Reference) (name : String) :
    { r with addresses := r.addresses.filter (Spells name) }.properties.find? name =
      r.properties.find? name := by
  have hget {key : String} (h : Text.sameIgnoringCase key name = true) :
      { r with addresses := r.addresses.filter (Spells name) }.properties.get? key =
        r.properties.get? key := by
    have hkey : (fun a : Address => decide (Spells name a = true ∧ decide (a.type = key) = true)) =
        fun a => decide (a.type = key) := by
      funext a
      by_cases ha : a.type = key
      · simp [Spells, ha, h]
      · simp [ha]
    rw [get?_properties, get?_properties, ← List.filter_reverse, List.find?_filter, hkey]
  refine Option.ext fun value => ?_
  rw [Properties.find?_eq_some_iff, Properties.find?_eq_some_iff]
  refine exists_congr fun key => ?_
  have hgreatest := forall_entries_iff (r := r)
    (P := fun type => Text.sameIgnoringCase type name = true → type ≤ key)
  have hgreatest' := forall_entries_iff (r := { r with addresses := r.addresses.filter (Spells name) })
    (P := fun type => Text.sameIgnoringCase type name = true → type ≤ key)
  rw [hgreatest, hgreatest']
  constructor
  · rintro ⟨hvalue, hsame, hall⟩
    refine ⟨hget hsame ▸ hvalue, hsame, fun a ha hspells => hall a ?_ hspells⟩
    exact List.mem_filter.2 ⟨ha, hspells⟩
  · rintro ⟨hvalue, hsame, hall⟩
    exact ⟨(hget hsame).trans hvalue, hsame, fun a ha => hall a (List.mem_filter.1 ha).1⟩

/-- **References with the same addresses under a name have the same property.** -/
theorem find?_properties_congr {r r' : Reference} {name : String}
    (h : r'.addresses.filter (Spells name) = r.addresses.filter (Spells name)) :
    r'.properties.find? name = r.properties.find? name := by
  rw [← find?_properties_filter r, ← find?_properties_filter r', h]
  rfl

end Reference

namespace ConnectionFactory

/-! ### The texts of a factory -/

/-- The texts that a connection factory is made from. -/
structure StoredTexts where
  connectionString : String
  settings : String
  userAgent : String
  clientId : String
  deriving DecidableEq

/-- The texts that a reference has for a connection factory: an absent one is empty. -/
def storedTexts (r : Reference) : StoredTexts where
  connectionString := (r.properties.find? connectionStringProperty).getD ""
  settings := (r.properties.find? settingsProperty).getD ""
  userAgent := (r.properties.find? userAgentProperty).getD ""
  clientId := (r.properties.find? clientIdProperty).getD ""

/-- The settings of a text: the defaults if it is empty. -/
def ReadsSettings (text : String) (s : Settings) : Prop :=
  (text = "" ∧ s = {}) ∨ (text ≠ "" ∧ Settings.ofJson text = .ok s)

/-- The texts have a connection string. -/
structure StoredTexts.Has (x : StoredTexts) (c : ConnectionString) : Prop where
  present : x.connectionString ≠ ""
  parsed : ConnectionString.parse x.connectionString = .ok c

/-- A connection string has a key pair with nothing empty in it. -/
structure KeyPair (c : ConnectionString) (keyName key : String) : Prop where
  named : c.keyName = some keyName
  keyed : c.key = some key
  keyName_ne : keyName ≠ ""
  key_ne : key ≠ ""

/-- The texts pass all checks. -/
structure Accepts (x : StoredTexts) (c : ConnectionString) (keyName key : String) (s : Settings) :
    Prop where
  connectionString : x.Has c
  keyPair : KeyPair c keyName key
  settings : ReadsSettings x.settings s
  userAgent : x.userAgent.length ≤ 128

/-- The factory of texts that pass all checks. -/
def ofTexts (x : StoredTexts) (c : ConnectionString) (keyName key : String) (s : Settings) :
    ConnectionFactory where
  host := c.host
  credentials := .sharedAccessKey keyName key
  settings := s
  remoteUri := RemoteUri.build c.host s
  connectionString := some c
  customUserAgent := nonEmpty x.userAgent
  clientId := nonEmpty x.clientId

/-- The first check that fails, and the error that it makes. -/
inductive Fault (x : StoredTexts) : Error → Prop
  | absent (h : x.connectionString = "") :
    Fault x (.requiredProperty kindName connectionStringProperty)
  | unparsed {e : Error} (hpresent : x.connectionString ≠ "")
    (h : ConnectionString.parse x.connectionString = .error e) : Fault x e
  | badSettings {c : ConnectionString} {e : Error} (hc : x.Has c) (hpresent : x.settings ≠ "")
    (h : Settings.ofJson x.settings = .error e) : Fault x e
  | keyless {c : ConnectionString} {s : Settings} (hc : x.Has c) (hs : ReadsSettings x.settings s)
    (h : c.keyName = none ∨ c.key = none) : Fault x (.configuration .missingCredentials)
  | emptyKey {c : ConnectionString} {s : Settings} {keyName key : String} (hc : x.Has c)
    (hs : ReadsSettings x.settings s) (hkeyName : c.keyName = some keyName)
    (hkey : c.key = some key) (h : keyName = "" ∨ key = "") :
    Fault x (.configuration .emptyKeyPair)
  | longUserAgent {c : ConnectionString} {s : Settings} {keyName key : String} (hc : x.Has c)
    (hs : ReadsSettings x.settings s) (hpair : KeyPair c keyName key)
    (h : 128 < x.userAgent.length) : Fault x (.userAgentTooLong 128)

/-- The texts pass all checks, or there is a first that fails. -/
theorem accepts_or_fault (x : StoredTexts) :
    (∃ c keyName key s, Accepts x c keyName key s) ∨ ∃ e, Fault x e := by
  by_cases hpresent : x.connectionString = ""
  · exact .inr ⟨_, .absent hpresent⟩
  cases hparse : ConnectionString.parse x.connectionString with
  | error e => exact .inr ⟨e, .unparsed hpresent hparse⟩
  | ok c =>
    have hc : x.Has c := ⟨hpresent, hparse⟩
    have hsettings : (∃ s, ReadsSettings x.settings s) ∨ ∃ e, Fault x e := by
      by_cases hempty : x.settings = ""
      · exact .inl ⟨{}, .inl ⟨hempty, rfl⟩⟩
      cases hs : Settings.ofJson x.settings with
      | error e => exact .inr ⟨e, .badSettings hc hempty hs⟩
      | ok s => exact .inl ⟨s, .inr ⟨hempty, hs⟩⟩
    rcases hsettings with ⟨s, hs⟩ | hfault
    swap
    · exact .inr hfault
    cases hkeyName : c.keyName with
    | none => exact .inr ⟨_, .keyless hc hs (.inl hkeyName)⟩
    | some keyName =>
      cases hkey : c.key with
      | none => exact .inr ⟨_, .keyless hc hs (.inr hkey)⟩
      | some key =>
        by_cases hempty : keyName = "" ∨ key = ""
        · exact .inr ⟨_, .emptyKey hc hs hkeyName hkey hempty⟩
        have hpair : KeyPair c keyName key :=
          ⟨hkeyName, hkey, fun h => hempty (.inl h), fun h => hempty (.inr h)⟩
        by_cases hlong : 128 < x.userAgent.length
        · exact .inr ⟨_, .longUserAgent hc hs hpair hlong⟩
        · exact .inl ⟨c, keyName, key, s, hc, hpair, hs, by omega⟩

/-! ### Restoring -/

section Restoring

variable {r : Reference} {c : ConnectionString} {s : Settings}

theorem bind_nonEmpty (text : Option String) : text.bind nonEmpty = nonEmpty (text.getD "") := by
  cases text <;> rfl

/-- The builder of texts with a connection string and settings that can be read. -/
def builderOf (r : Reference) (c : ConnectionString) (settings : Option Settings) : Builder :=
  { Builder.ofConnectionString c with
    settings
    customUserAgent := nonEmpty (storedTexts r).userAgent
    clientId := r.properties.find? clientIdProperty }

theorem applyAll_builderOf (r : Reference) (c : ConnectionString) (settings : Option Settings) :
    (Builder.ofConnectionString c).applyAll
        (settings.toList.map Builder.Change.settings ++ storedUserAgent r.properties ++
          storedClientId r.properties) = builderOf r c settings := by
  have huserAgent : (r.properties.find? userAgentProperty).bind nonEmpty =
      nonEmpty (storedTexts r).userAgent := bind_nonEmpty _
  unfold storedUserAgent storedClientId builderOf
  rw [huserAgent]
  cases settings <;> cases nonEmpty (storedTexts r).userAgent <;>
    cases r.properties.find? clientIdProperty <;> rfl

theorem storedSettings_eq (r : Reference) : storedSettings r.properties =
    if (storedTexts r).settings = "" then .ok []
    else (Settings.ofJson (storedTexts r).settings).map fun s => [.settings s] := by
  have htext : (r.properties.find? settingsProperty).bind nonEmpty =
      nonEmpty (storedTexts r).settings := bind_nonEmpty _
  unfold storedSettings
  rw [htext]
  by_cases hempty : (storedTexts r).settings = ""
  · rw [nonEmpty, if_pos hempty, if_pos hempty]
  · rw [Builder.nonEmpty_of_ne hempty, if_neg hempty]
    dsimp only
    cases Settings.ofJson (storedTexts r).settings <;> rfl

theorem storedSettings_of_reads (hs : ReadsSettings (storedTexts r).settings s) :
    ∃ settings : Option Settings, settings.getD {} = s ∧
      storedSettings r.properties = .ok (settings.toList.map .settings) := by
  rw [storedSettings_eq]
  rcases hs with ⟨hempty, rfl⟩ | ⟨hfilled, hread⟩
  · exact ⟨none, rfl, if_pos hempty⟩
  · refine ⟨some s, rfl, ?_⟩
    rw [if_neg hfilled, hread]
    rfl

theorem require_connectionString (h : (storedTexts r).connectionString ≠ "") :
    r.properties.require kindName connectionStringProperty =
      .ok (storedTexts r).connectionString := by
  refine Properties.require_eq_ok_iff.2 ⟨?_, h⟩
  cases hfind : r.properties.find? connectionStringProperty with
  | none => exact absurd (congrArg (·.getD "") hfind) h
  | some text => rw [storedTexts, hfind, Option.getD_some]

/-- A text that can be parsed starts a builder. -/
theorem restore_of_has (hc : (storedTexts r).Has c) : restore r.properties =
    (storedSettings r.properties >>= fun settings => ((Builder.ofConnectionString c).applyAll
      (settings ++ storedUserAgent r.properties ++ storedClientId r.properties)).build) := by
  unfold restore
  rw [require_connectionString hc.present]
  show (Builder.start (.connectionText (storedTexts r).connectionString) >>= _) = _
  rw [Builder.start, hc.parsed]
  rfl

/-- **With a connection string and settings that can be read, all is left to the checks of
the builder.** -/
theorem restore_eq_build (hc : (storedTexts r).Has c)
    (hs : ReadsSettings (storedTexts r).settings s) :
    ∃ settings : Option Settings, settings.getD {} = s ∧
      restore r.properties = (builderOf r c settings).build := by
  obtain ⟨settings, hsettings, hstored⟩ := storedSettings_of_reads hs
  refine ⟨settings, hsettings, ?_⟩
  rw [restore_of_has hc, hstored, ← applyAll_builderOf]
  rfl

theorem host_met (hc : (storedTexts r).Has c) (settings : Option Settings) :
    Builder.Requirement.host.Met (builderOf r c settings) := by
  have hne : c.host.toList ≠ [] := (ConnectionString.canonical_of_parse hc.parsed).2
  refine ⟨c.host, rfl, fun hempty => hne ?_⟩
  rw [hempty]
  rfl

theorem checkedUserAgent_builderOf (h : (storedTexts r).userAgent.length ≤ 128)
    (c : ConnectionString) (settings : Option Settings) :
    (builderOf r c settings).checkedUserAgent = .ok (nonEmpty (storedTexts r).userAgent) := by
  by_cases hempty : (storedTexts r).userAgent = ""
  · have hnone : nonEmpty (storedTexts r).userAgent = none := if_pos hempty
    rw [Builder.checkedUserAgent, builderOf, hnone]
  · have hsome := Builder.nonEmpty_of_ne hempty
    rw [Builder.checkedUserAgent, builderOf, hsome]
    exact (if_neg (Nat.not_lt.2 h)).trans (congrArg Except.ok hsome)

theorem KeyPair.credentials {keyName key : String} (h : KeyPair c keyName key) :
    Builder.credentialsOf c = some (.sharedAccessKey keyName key) := by
  rw [Builder.credentialsOf, h.named, h.keyed]

/-- **Texts that pass all checks make their factory.** -/
theorem restore_of_accepts {keyName key : String} (h : Accepts (storedTexts r) c keyName key s) :
    restore r.properties = .ok (ofTexts (storedTexts r) c keyName key s) := by
  obtain ⟨settings, rfl, hrestore⟩ := restore_eq_build h.connectionString h.settings
  obtain ⟨host, hhost, hne⟩ := host_met h.connectionString settings
  rw [hrestore]
  refine Builder.build_eq_ok_iff.2 ⟨?_, ?_, ?_, rfl, rfl, rfl, (bind_nonEmpty _).symm⟩
  · cases hhost
    exact Builder.checkedHost_eq_ok_iff.2 ⟨rfl, hne⟩
  · refine Builder.checkedCredentials_eq_ok_iff.2 ⟨h.keyPair.credentials, fun _ _ hsame => ?_⟩
    cases hsame
    exact ⟨h.keyPair.keyName_ne, h.keyPair.key_ne⟩
  · exact checkedUserAgent_builderOf h.userAgent c settings

/-- **Texts that do not pass a check make its error.** -/
theorem restore_of_fault {e : Error} (h : Fault (storedTexts r) e) :
    restore r.properties = .error e := by
  cases h with
  | absent h =>
    have hrequire : r.properties.require kindName connectionStringProperty =
        .error (.requiredProperty kindName connectionStringProperty) := by
      refine Properties.require_eq_error_iff.2 ⟨rfl, ?_⟩
      cases hfind : r.properties.find? connectionStringProperty with
      | none => exact .inl rfl
      | some text =>
        have htext : text = "" := by rwa [storedTexts, hfind] at h
        exact .inr (congrArg some htext)
    rw [restore, hrequire]
    rfl
  | unparsed hpresent h =>
    rw [restore, require_connectionString hpresent]
    show (Builder.start (.connectionText (storedTexts r).connectionString) >>= _) = _
    rw [Builder.start, h]
    rfl
  | badSettings hc hpresent h =>
    rw [restore_of_has hc, storedSettings_eq, if_neg hpresent, h]
    rfl
  | @keyless c s hc hs h =>
    obtain ⟨settings, -, hrestore⟩ := restore_eq_build hc hs
    have hnone : Builder.credentialsOf c = none := by
      rcases h with h | h
      · rw [Builder.credentialsOf, h]
      · rw [Builder.credentialsOf, h]
        cases c.keyName <;> rfl
    rw [hrestore]
    refine Builder.build_of_firstUnmet (q := .credentials) ⟨?_, ?_⟩
    · rintro ⟨presented, hpresented⟩
      rw [builderOf, Builder.ofConnectionString, hnone] at hpresented
      cases hpresented
    · intro q hq
      rw [List.mem_singleton.1 hq]
      exact host_met hc settings
  | @emptyKey c s keyName key hc hs hkeyName hkey h =>
    obtain ⟨settings, -, hrestore⟩ := restore_eq_build hc hs
    have hpair : Builder.credentialsOf c = some (.sharedAccessKey keyName key) := by
      rw [Builder.credentialsOf, hkeyName, hkey]
    rw [hrestore]
    refine Builder.build_of_firstUnmet (q := .keyPair) ⟨fun hmet => ?_, fun q hq => ?_⟩
    · obtain ⟨hkeyName, hkey⟩ := hmet keyName key hpair
      exact h.elim hkeyName hkey
    · rcases List.mem_pair.1 hq with rfl | rfl
      · exact host_met hc settings
      · exact ⟨_, hpair⟩
  | @longUserAgent c s keyName key hc hs hpair h =>
    obtain ⟨settings, -, hrestore⟩ := restore_eq_build hc hs
    have hne : (storedTexts r).userAgent ≠ "" := by
      intro hempty
      rw [hempty] at h
      exact absurd h (by decide)
    rw [hrestore]
    refine Builder.build_of_firstUnmet (q := .userAgent) ⟨fun hmet => ?_, fun q hq => ?_⟩
    · have hshort := hmet _ (Builder.nonEmpty_of_ne hne)
      omega
    · simp only [Builder.Requirement.earlier, List.mem_cons, List.not_mem_nil, or_false] at hq
      rcases hq with rfl | rfl | rfl
      · exact host_met hc settings
      · exact ⟨_, hpair.credentials⟩
      · intro _ _ hsame
        cases hpair.credentials.symm.trans hsame
        exact ⟨hpair.keyName_ne, hpair.key_ne⟩

end Restoring

/-! ### Addresses of a factory -/

section Addresses

variable {r r' : Reference}

/-- An address that spells the name of one of the four properties. -/
def IsOwn (a : Address) : Bool := propertyNames.any fun name => Reference.Spells name a

theorem storedTexts_eq
    (h : ∀ name ∈ propertyNames,
      (r'.properties.find? name).getD "" = (r.properties.find? name).getD "") :
    storedTexts r' = storedTexts r := by
  rw [storedTexts, storedTexts, h connectionStringProperty (by decide),
    h settingsProperty (by decide), h userAgentProperty (by decide), h clientIdProperty (by decide)]

/-- Other addresses do not count. -/
theorem storedTexts_congr (h : r'.addresses.filter IsOwn = r.addresses.filter IsOwn) :
    storedTexts r' = storedTexts r := by
  refine storedTexts_eq fun name hname => ?_
  have hown (addresses : List Address) : addresses.filter (Reference.Spells name) =
      (addresses.filter IsOwn).filter (Reference.Spells name) := by
    rw [List.filter_filter]
    refine List.filter_congr fun a _ => ?_
    by_cases ha : Reference.Spells name a = true
    · have hany : IsOwn a = true := List.any_eq_true.2 ⟨name, hname, ha⟩
      rw [ha, hany]
      rfl
    · simp [ha]
  have hsame : r'.addresses.filter (Reference.Spells name) =
      r.addresses.filter (Reference.Spells name) := by
    rw [hown, hown r.addresses, h]
  rw [Reference.find?_properties_congr hsame]

/-- The names of the properties differ by more than case. -/
theorem spells_unique {name other : String} {a : Address} (hname : name ∈ propertyNames)
    (hother : other ∈ propertyNames) (h : Reference.Spells name a = true)
    (h' : Reference.Spells other a = true) : name = other := by
  have hfold := Text.sameIgnoringCase_iff.1 h
  have hfold' := Text.sameIgnoringCase_iff.1 h'
  exact (propertyNames_distinct name hname other hother).1
    (Text.sameIgnoringCase_iff.2 (hfold.symm.trans hfold'))

/-- An address without a content is as good as none, if no other spells its name. -/
theorem storedTexts_add {name : String} {a : Address} (hname : name ∈ propertyNames)
    (ha : Reference.Spells name a = true) (hempty : a.content.getD "" = "")
    (hnone : ∀ b ∈ r.addresses, Reference.Spells name b = false) :
    storedTexts (r.add a) = storedTexts r := by
  refine storedTexts_eq fun other hother => ?_
  by_cases h : Reference.Spells other a = true
  · obtain rfl := spells_unique hname hother ha h
    have hbefore : r.properties.find? name = none :=
      Reference.find?_properties_eq_none_iff.2 fun b hb => Bool.not_eq_true _ ▸ hnone b hb
    have hdecides : Reference.Decides (r.add a).addresses name a := by
      refine ⟨ha, fun b hb hspells => ?_, r.addresses, [], rfl, fun _ hmem => nomatch hmem⟩
      rcases List.mem_append.1 hb with hb | hb
      · exact absurd hspells (Bool.eq_false_iff.1 (hnone b hb))
      · rw [List.mem_singleton.1 hb]
        exact Std.le_refl _
    have hafter : (r.add a).properties.find? name = some "" :=
      Reference.find?_properties_iff.2 ⟨a, hdecides, hempty⟩
    rw [hbefore, hafter]
    rfl
  · have hsame : (r.add a).addresses.filter (Reference.Spells other) =
        r.addresses.filter (Reference.Spells other) := by
      rw [Reference.add, List.filter_append, List.filter_cons_of_neg h, List.filter_nil,
        List.append_nil]
    rw [Reference.find?_properties_congr hsame]

end Addresses

/-! ### Decoding -/

/-- What a registry decodes a reference of the kind of connection factories as. -/
structure Decodes {ω : Type} [Member ConnectionFactory ω] (g : Registry ω) (r : Reference) :
    Prop where
  /-- It is decoded if and only if there is a connection string with a key pair that has
  nothing empty in it, the settings can be read, and the user agent is not too long. -/
  accepted : (∃ o, g.decode r = .ok o) ↔
    (storedTexts r).connectionString ≠ "" ∧
    (∃ c keyName key, ConnectionString.parse (storedTexts r).connectionString = .ok c ∧
      c.keyName = some keyName ∧ keyName ≠ "" ∧ c.key = some key ∧ key ≠ "") ∧
    ((storedTexts r).settings = "" ∨ ∃ s, Settings.ofJson (storedTexts r).settings = .ok s) ∧
    (storedTexts r).userAgent.length ≤ 128
  /-- Otherwise the first check that fails says what is wrong. -/
  refused : ∀ e, g.decode r = .error e ↔ Fault (storedTexts r) e
  /-- What is decoded is the factory of the texts. -/
  made : ∀ o, g.decode r = .ok o → ∃ c keyName key s,
    Accepts (storedTexts r) c keyName key s ∧
      o = Member.embed (ofTexts (storedTexts r) c keyName key s)
  /-- References with the same texts are decoded alike. -/
  alike : ∀ r' : Reference, r'.kind = kindName → storedTexts r' = storedTexts r →
    g.decode r' = g.decode r
  /-- An empty text is as good as none. -/
  blank : ∀ name ∈ propertyNames, ∀ a : Address, Text.sameIgnoringCase a.type name = true →
    a.content.getD "" = "" →
    (∀ b ∈ r.addresses, Text.sameIgnoringCase b.type name = false) →
      g.decode (r.add a) = g.decode r
  /-- Addresses that spell none of the four names do not count. -/
  others : ∀ r' : Reference, r'.kind = kindName →
    r'.addresses.filter IsOwn = r.addresses.filter IsOwn → g.decode r' = g.decode r

theorem exists_accepts_iff {x : StoredTexts} : (∃ c keyName key s, Accepts x c keyName key s) ↔
    x.connectionString ≠ "" ∧
    (∃ c keyName key, ConnectionString.parse x.connectionString = .ok c ∧
      c.keyName = some keyName ∧ keyName ≠ "" ∧ c.key = some key ∧ key ≠ "") ∧
    (x.settings = "" ∨ ∃ s, Settings.ofJson x.settings = .ok s) ∧ x.userAgent.length ≤ 128 := by
  constructor
  · rintro ⟨c, keyName, key, s, hc, hpair, hs, huserAgent⟩
    refine ⟨hc.present, ⟨c, keyName, key, hc.parsed, hpair.named, hpair.keyName_ne, hpair.keyed,
      hpair.key_ne⟩, ?_, huserAgent⟩
    exact hs.imp And.left fun h => ⟨s, h.2⟩
  · rintro ⟨hpresent, ⟨c, keyName, key, hparse, hnamed, hname, hkeyed, hkey⟩, hs, huserAgent⟩
    have hsettings : ∃ s, ReadsSettings x.settings s := by
      by_cases hempty : x.settings = ""
      · exact ⟨{}, .inl ⟨hempty, rfl⟩⟩
      · obtain ⟨s, hs⟩ := hs.resolve_left hempty
        exact ⟨s, .inr ⟨hempty, hs⟩⟩
    obtain ⟨s, hs⟩ := hsettings
    exact ⟨c, keyName, key, s, ⟨hpresent, hparse⟩, ⟨hnamed, hkeyed, hname, hkey⟩, hs, huserAgent⟩

section Decode

variable {ω : Type} [Member ConnectionFactory ω] {g : Registry ω} {r : Reference}

theorem decode_of_fault (hg : g.Restores ConnectionFactory) (hkind : r.kind = kindName) {e : Error}
    (h : Fault (storedTexts r) e) : g.decode r = .error e := by
  rw [hg.decode hkind, show Restorable.restore r.properties = _ from restore_of_fault h]
  rfl

theorem decode_of_accepts (hg : g.Restores ConnectionFactory) (hkind : r.kind = kindName)
    {c : ConnectionString} {keyName key : String} {s : Settings}
    (h : Accepts (storedTexts r) c keyName key s) :
    g.decode r = .ok (Member.embed (ofTexts (storedTexts r) c keyName key s)) := by
  rw [hg.decode hkind, show Restorable.restore r.properties = _ from restore_of_accepts h]
  rfl

/-- References with the same texts are decoded alike. -/
theorem decode_congr (hg : g.Restores ConnectionFactory) (hkind : r.kind = kindName)
    {r' : Reference} (hkind' : r'.kind = kindName) (h : storedTexts r' = storedTexts r) :
    g.decode r' = g.decode r := by
  rcases accepts_or_fault (storedTexts r) with ⟨c, keyName, key, s, haccepts⟩ | ⟨e, hfault⟩
  · rw [decode_of_accepts hg hkind haccepts, decode_of_accepts hg hkind' (h ▸ haccepts), h]
  · rw [decode_of_fault hg hkind hfault, decode_of_fault hg hkind' (h ▸ hfault)]

/-- **A connection factory is decoded from any reference by four texts alone, and fails by the
first check that they do not pass.** -/
theorem decodes_reference (hg : g.Restores ConnectionFactory) (hkind : r.kind = kindName) :
    Decodes g r where
  accepted := by
    rw [← exists_accepts_iff]
    constructor
    · rintro ⟨o, ho⟩
      refine (accepts_or_fault (storedTexts r)).resolve_right fun ⟨e, hfault⟩ => ?_
      rw [decode_of_fault hg hkind hfault] at ho
      cases ho
    · rintro ⟨c, keyName, key, s, haccepts⟩
      exact ⟨_, decode_of_accepts hg hkind haccepts⟩
  refused e := by
    refine ⟨fun he => ?_, decode_of_fault hg hkind⟩
    rcases accepts_or_fault (storedTexts r) with ⟨c, keyName, key, s, haccepts⟩ | ⟨e', hfault⟩
    · rw [decode_of_accepts hg hkind haccepts] at he
      cases he
    · rw [decode_of_fault hg hkind hfault] at he
      exact Except.error.inj he ▸ hfault
  made o ho := by
    rcases accepts_or_fault (storedTexts r) with ⟨c, keyName, key, s, haccepts⟩ | ⟨e, hfault⟩
    · rw [decode_of_accepts hg hkind haccepts] at ho
      exact ⟨c, keyName, key, s, haccepts, (Except.ok.inj ho).symm⟩
    · rw [decode_of_fault hg hkind hfault] at ho
      cases ho
  alike _ hkind' h := decode_congr hg hkind hkind' h
  blank name hname a ha hempty hnone :=
    decode_congr hg hkind hkind (storedTexts_add hname ha hempty hnone)
  others _ hkind' h := decode_congr hg hkind hkind' (storedTexts_congr h)

end Decode

/-- A reference with types in several spellings, some of them repeated or unknown, and an
address without a content. -/
def mixedReference : Reference where
  kind := kindName
  factory := Reference.factoryName
  addresses :=
    [⟨"CONNECTIONSTRING", some "=="⟩, ⟨"connectionString", some "EntityPath=orders"⟩,
      ⟨"Settings", none⟩, ⟨"proxyHandler", some "proxy.example"⟩, ⟨"clientID", some "first"⟩,
      ⟨"connectionString",
        some "Endpoint=sb://contoso;SharedAccessKeyName=policy;SharedAccessKey=secret"⟩,
      ⟨"clientId", some "second"⟩]

/-- The reference is decoded; it is not after an address is added whose spelling of the settings
counts instead. -/
theorem decodes_reference_mixed :
    let g : Registry ConnectionFactory := Registry.register ConnectionFactory .empty
    let misspelt := mixedReference.add ⟨"settings", some "\x7b\"prefetch\":1\x7d"⟩
    g.Restores ConnectionFactory ∧ mixedReference.kind = kindName ∧ misspelt.kind = kindName ∧
      (∃ f, g.decode mixedReference = .ok f ∧ f.host = "contoso" ∧ f.settings = {} ∧
        f.clientId = some "second") ∧
      g.decode misspelt =
        .error (.configuration (.badSettings (.unknownField "prefetch" Settings.fieldNames))) := by
  intro g misspelt
  have hg : g.Restores ConnectionFactory := Registry.restores_register ConnectionFactory .empty
  have htexts : storedTexts mixedReference =
      ⟨"Endpoint=sb://contoso;SharedAccessKeyName=policy;SharedAccessKey=secret", "", "",
        "second"⟩ := by
    decide +kernel
  have hparse : ConnectionString.parse (storedTexts mixedReference).connectionString =
      .ok ⟨"contoso", some "policy", some "secret", none⟩ := by
    rw [htexts]
    decide +kernel
  have haccepts : Accepts (storedTexts mixedReference) ⟨"contoso", some "policy", some "secret", none⟩
      "policy" "secret" {} := by
    refine ⟨⟨by rw [htexts]; decide, hparse⟩, ⟨rfl, rfl, by decide, by decide⟩, ?_, ?_⟩
    · exact .inl ⟨by rw [htexts], rfl⟩
    · rw [htexts]
      decide
  have hmisspelt : storedTexts misspelt =
      { storedTexts mixedReference with settings := "\x7b\"prefetch\":1\x7d" } := by
    decide +kernel
  have hunread : Settings.ofJson (storedTexts misspelt).settings =
      .error (.configuration (.badSettings (.unknownField "prefetch" Settings.fieldNames))) := by
    rw [hmisspelt]
    decide +kernel
  have hhas : (storedTexts misspelt).Has ⟨"contoso", some "policy", some "secret", none⟩ := by
    rw [hmisspelt]
    exact ⟨haccepts.connectionString.present, hparse⟩
  refine ⟨hg, rfl, rfl, ?_, (decodes_reference hg rfl).refused _ |>.2 ?_⟩
  · obtain ⟨f, hf⟩ := (decodes_reference hg rfl).accepted.2
      (exists_accepts_iff.1 ⟨_, _, _, _, haccepts⟩)
    obtain ⟨c, keyName, key, s, hmade, rfl⟩ := (decodes_reference hg rfl).made f hf
    obtain rfl := Except.ok.inj (hparse.symm.trans hmade.connectionString.parsed)
    have hsettings : s = {} := by
      rcases hmade.settings with ⟨-, hs⟩ | ⟨hfilled, -⟩
      · exact hs
      · exact absurd (by rw [htexts]) hfilled
    refine ⟨_, hf, rfl, hsettings, ?_⟩
    show nonEmpty (storedTexts mixedReference).clientId = some "second"
    rw [htexts]
    rfl
  · exact .badSettings hhas (by rw [hmisspelt]; decide) hunread

end ConnectionFactory
end MessageBus
