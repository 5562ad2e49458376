/-
# Reconnect hosts from connection strings

Hosts to reconnect to are taken from all connection strings or from none. If each
of them can be parsed there is one host for each, in their order, and nothing
else about the settings changes; the address of a group then has these hosts
behind the primary one, all with the same query. Otherwise the first string that
cannot be parsed says what is wrong.

Key definitions: `RemoteUri.marked`, `Settings.Reconnects`.
Key theorems: `RemoteUri.build_group`, `Settings.withReconnectHostsOf_eq_ok_iff`,
`Settings.withReconnectHostsOf_eq_error_iff`, `Settings.reconnects_all_or_none`.
-/
import MessageBus.Proofs.Outcome
import MessageBus.Proofs.RemoteUri
import MessageBus.Proofs.Settings.Options
import MessageBus.Proofs.Settings.Part

namespace MessageBus

/-! ### The address of a group -/

namespace RemoteUri

/-- A query behind its mark; one without text has none. -/
def marked (query : String) : String := if query = "" then "" else "?" ++ query

theorem withQueries_eq_marked (base : String) (q : Query) :
    withQueries base [q] = base ++ marked q.text := by
  by_cases hq : q = []
  · rw [hq, withQueries_nil, marked, if_pos ((Query.text_eq_empty_iff []).2 rfl)]
    simp
  · have hne : q.text ≠ "" := fun h => hq ((Query.text_eq_empty_iff q).1 h)
    rw [withQueries_singleton base hq, marked, if_neg hne, String.append_assoc]

/-- **The address of a group lists its hosts, each with the query of every host**, and the
queries of the group and the provider behind them. -/
theorem build_group {s : Settings} (h : s.shouldReconnect = true) (primary : String) :
    build primary s = "failover:(" ++
      ",".intercalate ((hosts primary s).map fun host => "amqps://" ++ host ++ marked s.hostQuery) ++
        ")" ++ marked (Query.text (s.failoverPairs ++ s.providerPairs)) := by
  have hhost : ofHost s.hostPairs = fun host => "amqps://" ++ host ++ marked s.hostQuery :=
    funext fun host => withQueries_eq_marked ("amqps://" ++ host) s.hostPairs
  rw [build, if_pos h, withQueries_pair, withQueries_eq_marked, ofGroup, hhost]

end RemoteUri

namespace Settings

/-! ### Taking the hosts -/

variable {s t : Settings} {texts : List String}

/-- The connection strings that texts are parsed as. -/
def Parsed (texts : List String) (parsed : List ConnectionString) : Prop :=
  List.Forall₂ (fun text c => ConnectionString.parse text = .ok c) texts parsed

theorem hostOf_eq_ok_iff {text host : String} :
    (ConnectionString.parse text).map (·.host) = .ok host ↔
      ∃ c, ConnectionString.parse text = .ok c ∧ c.host = host := by
  cases ConnectionString.parse text with
  | error e => simp [Except.map]
  | ok c => simp [Except.map]

theorem exists_hostOf_iff {text : String} :
    (∃ host, (ConnectionString.parse text).map (·.host) = .ok host) ↔
      ∃ c, ConnectionString.parse text = .ok c := by
  simp [hostOf_eq_ok_iff]

theorem hostOf_eq_error_iff {text : String} {e : Error} :
    (ConnectionString.parse text).map (·.host) = .error e ↔
      ConnectionString.parse text = .error e := by
  cases ConnectionString.parse text with
  | error e' => simp [Except.map]
  | ok c => simp [Except.map]

/-- The hosts of texts are those of the connection strings that they are parsed as. -/
theorem mapM_hostOf_eq_ok_iff {hosts : List String} :
    (texts.mapM fun text => (ConnectionString.parse text).map (·.host)) = .ok hosts ↔
      ∃ parsed, Parsed texts parsed ∧ parsed.map (·.host) = hosts := by
  rw [Outcome.mapM_eq_ok_iff]
  simp only [hostOf_eq_ok_iff]
  constructor
  · intro h
    induction h with
    | nil => exact ⟨[], .nil, rfl⟩
    | cons hhost _ ih =>
      obtain ⟨c, hparse, rfl⟩ := hhost
      obtain ⟨parsed, hparsed, rfl⟩ := ih
      exact ⟨c :: parsed, .cons hparse hparsed, rfl⟩
  · rintro ⟨parsed, hparsed, rfl⟩
    rw [List.forall₂_map_right_iff]
    exact hparsed.imp fun _ c hparse => ⟨c, hparse, rfl⟩

/-- **Settings with the hosts of connection strings are the settings with these hosts.** -/
theorem withReconnectHostsOf_eq_ok_iff : s.withReconnectHostsOf texts = .ok t ↔
    ∃ parsed, Parsed texts parsed ∧ t = { s with reconnectHosts := some (parsed.map (·.host)) } := by
  rw [withReconnectHostsOf, Outcome.bind_eq_ok]
  constructor
  · rintro ⟨hosts, hhosts, h⟩
    obtain ⟨parsed, hparsed, rfl⟩ := mapM_hostOf_eq_ok_iff.1 hhosts
    exact ⟨parsed, hparsed, (Except.ok.inj h).symm⟩
  · rintro ⟨parsed, hparsed, rfl⟩
    exact ⟨_, mapM_hostOf_eq_ok_iff.2 ⟨parsed, hparsed, rfl⟩, rfl⟩

theorem exists_withReconnectHostsOf_iff : (∃ t, s.withReconnectHostsOf texts = .ok t) ↔
    ∀ text ∈ texts, ∃ c, ConnectionString.parse text = .ok c := by
  have hall : (∃ hosts, (texts.mapM fun text => (ConnectionString.parse text).map (·.host)) =
      .ok hosts) ↔ ∀ text ∈ texts, ∃ c, ConnectionString.parse text = .ok c := by
    rw [Outcome.exists_mapM_eq_ok_iff]
    simp only [exists_hostOf_iff]
  rw [← hall]
  simp only [withReconnectHostsOf, Outcome.bind_eq_ok]
  exact ⟨fun ⟨_, hosts, hhosts, _⟩ => ⟨hosts, hhosts⟩, fun ⟨hosts, hhosts⟩ => ⟨_, hosts, hhosts, rfl⟩⟩

/-- **The first text that cannot be parsed says what is wrong.** -/
theorem withReconnectHostsOf_eq_error_iff {e : Error} : s.withReconnectHostsOf texts = .error e ↔
    ∃ before text after, texts = before ++ text :: after ∧
      (∀ earlier ∈ before, ∃ c, ConnectionString.parse earlier = .ok c) ∧
        ConnectionString.parse text = .error e := by
  have hfirst : s.withReconnectHostsOf texts = .error e ↔
      (texts.mapM fun text => (ConnectionString.parse text).map (·.host)) = .error e := by
    rw [withReconnectHostsOf, Outcome.bind_eq_error]
    exact or_iff_left fun ⟨_, _, h⟩ => nomatch h
  rw [hfirst, Outcome.mapM_eq_error_iff]
  simp only [exists_hostOf_iff, hostOf_eq_error_iff]

/-- Reconnect hosts replace the ones that were there, and nothing else. -/
theorem value_withReconnectHostsOf (h : s.withReconnectHostsOf texts = .ok t) {p : Part}
    (hp : p ≠ .reconnectHosts) : t.value p = s.value p := by
  obtain ⟨parsed, -, rfl⟩ := withReconnectHostsOf_eq_ok_iff.1 h
  cases p with
  | reconnectHosts => exact absurd rfl hp
  | _ => rfl

/-! ### All or none -/

/-- What becomes of settings that are to reconnect to the hosts of connection strings. -/
structure Reconnects (s : Settings) (texts : List String) : Prop where
  /-- They are accepted if and only if each text can be parsed. -/
  accepted : (∃ t, s.withReconnectHostsOf texts = .ok t) ↔
    ∀ text ∈ texts, ∃ c, ConnectionString.parse text = .ok c
  /-- Then there is one host for each text, in their order, repeated ones included. -/
  hosts : ∀ t, s.withReconnectHostsOf texts = .ok t → ∃ parsed, Parsed texts parsed ∧
    t.reconnectHosts = some (parsed.map (·.host))
  /-- Nothing else changes. -/
  others : ∀ t, s.withReconnectHostsOf texts = .ok t →
    ∀ p, p ≠ .reconnectHosts → t.value p = s.value p
  /-- The address of the group has these hosts behind the primary one, each with the query
  that every host had before. -/
  address : ∀ t parsed primary, s.withReconnectHostsOf texts = .ok t → Parsed texts parsed →
    s.shouldReconnect = true → RemoteUri.build primary t = "failover:(" ++
      ",".intercalate ((primary :: parsed.map (·.host)).map fun host =>
        "amqps://" ++ host ++ RemoteUri.marked s.hostQuery) ++ ")" ++
          RemoteUri.marked (Query.text (s.failoverPairs ++ s.providerPairs))
  /-- Otherwise the first text that cannot be parsed says what is wrong, whatever the ones
  after it are. -/
  refused : ∀ e, s.withReconnectHostsOf texts = .error e ↔
    ∃ before text after, texts = before ++ text :: after ∧
      (∀ earlier ∈ before, ∃ c, ConnectionString.parse earlier = .ok c) ∧
        ConnectionString.parse text = .error e

/-- Texts are parsed in one way. -/
theorem Parsed.unique {parsed parsed' : List ConnectionString} (h : Parsed texts parsed)
    (h' : Parsed texts parsed') : parsed = parsed' := by
  refine List.right_unique_forall₂' (fun text c c' hc hc' => ?_) h h'
  exact Except.ok.inj (hc.symm.trans hc')

/-- **Reconnect hosts from connection strings are all or nothing.** -/
theorem reconnects_all_or_none (s : Settings) (texts : List String) : s.Reconnects texts where
  accepted := exists_withReconnectHostsOf_iff
  hosts t h := by
    obtain ⟨parsed, hparsed, rfl⟩ := withReconnectHostsOf_eq_ok_iff.1 h
    exact ⟨parsed, hparsed, rfl⟩
  others t h p hp := value_withReconnectHostsOf h hp
  address t parsed primary h hparsed hreconnect := by
    obtain ⟨parsed', hparsed', rfl⟩ := withReconnectHostsOf_eq_ok_iff.1 h
    obtain rfl := hparsed.unique hparsed'
    exact RemoteUri.build_group (s := { s with reconnectHosts := some (parsed.map (·.host)) })
      hreconnect primary
  refused _ := withReconnectHostsOf_eq_error_iff

end Settings
end MessageBus
