/-
# Decoding remote addresses

An address of clean hosts and options says what it was built from: whether it
reconnects, the hosts in order and the pairs of its queries. The decoder cuts
at the reserved characters, each of which ends one kind of part: `)` the group,
`,` a host, `?` what stands before a query and `&` a pair. A query of two kinds
of pairs is taken apart by the keys.

Of the hosts and failover pairs an address without reconnecting says nothing
but the primary host.

Key definitions: `RemoteUri.Clean`, `RemoteUri.Parts`, `RemoteUri.decode`.
Key theorems: `RemoteUri.decode_build`, `RemoteUri.build_decodable`.
-/
import MessageBus.Proofs.Settings.Query
import MessageBus.RemoteUri

namespace MessageBus
namespace RemoteUri

open Query Settings

/-- A host, reconnect hosts and options without reserved characters. -/
structure Clean (host : String) (s : Settings) : Prop where
  host : CleanText host
  reconnectHosts : ∀ other ∈ s.reconnectHosts.getD [], CleanText other
  options : Query.Clean s.options.entries

/-- What an address says. -/
structure Parts where
  reconnecting : Bool
  hosts : List String
  hostPairs : Query
  failoverPairs : Query
  providerPairs : Query

/-- What the address of a host under settings is to say. -/
def parts (host : String) (s : Settings) : Parts :=
  if s.shouldReconnect then
    ⟨true, hosts host s, s.hostPairs, s.failoverPairs, s.providerPairs⟩
  else ⟨false, [host], s.hostPairs, [], s.providerPairs⟩

/-! ### The decoder -/

/-- What stands before a query, and the query. -/
def splitQuery (s : List Char) : List Char × Query :=
  match Text.cutOnce '?' s with
  | none => (s, [])
  | some (base, query) => (base, Query.ofText query)

/-- A host without the scheme, and the query after it. -/
def splitHost (s : List Char) : String × Query :=
  let (base, query) := splitQuery s
  (String.ofList (base.drop "amqps://".length), query)

/-- The parts of an address. A group of hosts is what ends with `)`; the pairs
of every host are read off the first one. -/
def decode (address : String) : Parts :=
  match Text.cutOnce ')' address.toList with
  | some (group, rest) =>
    let hosts := (Text.cut ',' (group.drop "failover:(".length)).map splitHost
    let query := (splitQuery rest).2
    { reconnecting := true
      hosts := hosts.map Prod.fst
      hostPairs := (hosts.head?.map Prod.snd).getD []
      failoverPairs := query.filter fun pair => isFailoverOption pair.1
      providerPairs := query.filter fun pair => !isFailoverOption pair.1 }
  | none =>
    let (host, query) := splitHost address.toList
    { reconnecting := false
      hosts := [host]
      hostPairs := query.filter fun pair => isHostOption pair.1
      failoverPairs := []
      providerPairs := query.filter fun pair => !isHostOption pair.1 }

/-! ### Texts with queries -/

theorem withQueries_nil (base : String) : withQueries base [[]] = base := rfl

theorem withQueries_singleton (base : String) {q : Query} (h : q ≠ []) :
    withQueries base [q] = base ++ "?" ++ q.text := by
  simp [withQueries, h]

/-- Two queries after a text are one query of the pairs of both. -/
theorem withQueries_pair (base : String) : ∀ q r : Query,
    withQueries base [q, r] = withQueries base [q ++ r]
  | [], [] => rfl
  | [], r :: rs => rfl
  | q :: qs, [] => by
    rw [List.append_nil]
    rfl
  | q :: qs, r :: rs => by
    have htext : "&".intercalate [Query.text (q :: qs), Query.text (r :: rs)] =
        Query.text (q :: qs ++ r :: rs) := by
      rw [Query.text, Query.text, Query.text, List.map_append,
        String.intercalate_append_of_ne_nil (by simp) (by simp),
        String.intercalate_cons_cons, String.intercalate_singleton]
    rw [withQueries_singleton base (by simp), ← htext]
    rfl

theorem withQueries_append (a b : String) (queries : List Query) :
    withQueries (a ++ b) queries = a ++ withQueries b queries := by
  unfold withQueries
  split
  · rfl
  · simp only [String.append_assoc]

/-- The characters of a text with a query are those of both, and `?`. -/
theorem not_mem_withQueries {base : String} {q : Query} {c : Char} (hbase : c ∉ base.toList)
    (hq : Query.Clean q) (hc : isReserved c = true) (hamp : c ≠ '&') (hmark : c ≠ '?') :
    c ∉ (withQueries base [q]).toList := by
  by_cases hnil : q = []
  · subst hnil
    exact hbase
  · rw [withQueries_singleton base hnil]
    simp only [String.toList_append, List.mem_append, not_or]
    exact ⟨⟨hbase, by simpa using hmark⟩, not_mem_text hq hc hamp⟩

/-- **A clean query is split from the text before it.** -/
theorem splitQuery_withQueries {base : String} {q : Query} (hbase : '?' ∉ base.toList)
    (hq : Query.Clean q) : splitQuery (withQueries base [q]).toList = (base.toList, q) := by
  by_cases hnil : q = []
  · subst hnil
    rw [withQueries_nil, splitQuery, Text.cutOnce_eq_none hbase]
  · have hcut : Text.cutOnce '?' (withQueries base [q]).toList =
        some (base.toList, q.text.toList) := by
      rw [withQueries_singleton base hnil]
      simpa using Text.cutOnce_append hbase
    rw [splitQuery, hcut]
    simp only [ofText_text hnil hq]

/-! ### Hosts -/

theorem drop_toList_append (a b : String) : (a ++ b).toList.drop a.length = b.toList := by
  rw [String.toList_append, ← String.length_toList, List.drop_left]

section Host

variable {host : String} {q : Query} (hhost : CleanText host) (hq : Query.Clean q)

include hhost

theorem not_mem_schemed {c : Char} (hc : isReserved c = true) :
    c ∉ ("amqps://" ++ host).toList := by
  rw [String.toList_append, List.mem_append, not_or]
  exact ⟨CleanText.not_mem (by decide) hc, hhost.not_mem hc⟩

include hq

theorem splitHost_ofHost : splitHost (ofHost q host).toList = (host, q) := by
  rw [splitHost, ofHost, splitQuery_withQueries (not_mem_schemed hhost rfl) hq]
  simp only [drop_toList_append, String.ofList_toList]

theorem not_mem_ofHost {c : Char} (hc : isReserved c = true) (hamp : c ≠ '&') (hmark : c ≠ '?') :
    c ∉ (ofHost q host).toList :=
  not_mem_withQueries (not_mem_schemed hhost hc) hq hc hamp hmark

end Host

/-! ### Groups -/

section Group

variable {hosts : List String} {q : Query} (hhosts : ∀ host ∈ hosts, CleanText host)
  (hq : Query.Clean q)

include hhosts hq

theorem not_mem_of_mem_hosts {c : Char} (hc : isReserved c = true) (hamp : c ≠ '&')
    (hmark : c ≠ '?') : ∀ piece ∈ (hosts.map (ofHost q)).map String.toList, c ∉ piece := by
  intro piece hpiece
  simp only [List.map_map, List.mem_map] at hpiece
  obtain ⟨host, hmem, rfl⟩ := hpiece
  exact not_mem_ofHost (hhosts host hmem) hq hc hamp hmark

/-- The hosts of a group come back, each with the query of all. -/
theorem cut_hosts (hne : hosts ≠ []) :
    (Text.cut ',' (",".intercalate (hosts.map (ofHost q))).toList).map splitHost =
      hosts.map fun host => (host, q) := by
  rw [Text.toList_intercalate]
  show (Text.cut ',' (Text.join [','] ((hosts.map (ofHost q)).map String.toList))).map splitHost = _
  rw [Text.cut_join (by simpa using hne)
    (not_mem_of_mem_hosts hhosts hq rfl (by decide) (by decide)), List.map_map, List.map_map]
  exact List.map_congr_left fun host hmem => splitHost_ofHost (hhosts host hmem) hq

/-- The first `)` of an address is the end of its group. -/
theorem cutOnce_group (rest : Query) :
    Text.cutOnce ')' (withQueries (ofGroup q hosts) [rest]).toList =
      some (("failover:(" ++ ",".intercalate (hosts.map (ofHost q))).toList,
        (withQueries "" [rest]).toList) := by
  have hgroup : ')' ∉ ("failover:(" ++ ",".intercalate (hosts.map (ofHost q))).toList := by
    rw [String.toList_append, List.mem_append, not_or]
    refine ⟨by decide, fun hmem => ?_⟩
    rw [Text.toList_intercalate] at hmem
    obtain hsep | ⟨piece, hpiece, hmem⟩ := Text.mem_of_mem_join hmem
    · exact absurd hsep (by decide)
    · exact not_mem_of_mem_hosts hhosts hq rfl (by decide) (by decide) piece hpiece hmem
  have hmark : withQueries ")" [rest] = ")" ++ withQueries "" [rest] :=
    withQueries_append ")" "" [rest]
  rw [ofGroup, withQueries_append, hmark, String.toList_append]
  simpa using Text.cutOnce_append hgroup

end Group

/-! ### Queries of two kinds -/

section Kinds

variable {p : String → Bool} {q r : Query} (hq : AllKeys p q)
  (hr : ∀ pair ∈ r, p pair.1 = false)

include hq hr

theorem filter_kind : (q ++ r).filter (fun pair => p pair.1) = q := by
  have hnone : r.filter (fun pair => p pair.1) = [] :=
    List.filter_eq_nil_iff.2 fun pair hp => by simp [hr pair hp]
  rw [List.filter_append, List.filter_eq_self.2 hq, hnone, List.append_nil]

theorem filter_other : (q ++ r).filter (fun pair => !p pair.1) = r := by
  have hnone : q.filter (fun pair => !p pair.1) = [] :=
    List.filter_eq_nil_iff.2 fun pair hp => by simp [hq pair hp]
  have hall : r.filter (fun pair => !p pair.1) = r :=
    List.filter_eq_self.2 fun pair hp => by simp [hr pair hp]
  rw [List.filter_append, hnone, hall, List.nil_append]

end Kinds

/-! ### The round trip -/

variable {host : String} {s : Settings}

theorem Clean.hosts (h : Clean host s) : ∀ other ∈ RemoteUri.hosts host s, CleanText other :=
  fun other hmem => (List.mem_cons.1 hmem).elim (fun he => he ▸ h.host) (h.reconnectHosts other)

theorem decode_single (h : Clean host s) :
    decode (withQueries ("amqps://" ++ host) [s.hostPairs, s.providerPairs]) =
      ⟨false, [host], s.hostPairs, [], s.providerPairs⟩ := by
  have hq : Query.Clean (s.hostPairs ++ s.providerPairs) :=
    clean_append (hostPairs_clean h.options) (providerPairs_clean h.options)
  have hother : ∀ pair ∈ s.providerPairs, isHostOption pair.1 = false := fun pair hp =>
    (isProviderOption_iff.1 (providerPairs_keys s pair hp)).1
  have hend : ')' ∉ (ofHost (s.hostPairs ++ s.providerPairs) host).toList :=
    not_mem_ofHost h.host hq rfl (by decide) (by decide)
  rw [withQueries_pair]
  show decode (ofHost (s.hostPairs ++ s.providerPairs) host) = _
  rw [decode, Text.cutOnce_eq_none hend]
  simp only [splitHost_ofHost h.host hq,
    filter_kind (hostPairs_keys s) hother, filter_other (hostPairs_keys s) hother]

theorem decode_group (h : Clean host s) :
    decode (withQueries (ofGroup s.hostPairs (hosts host s)) [s.failoverPairs, s.providerPairs]) =
      ⟨true, hosts host s, s.hostPairs, s.failoverPairs, s.providerPairs⟩ := by
  have hq : Query.Clean (s.failoverPairs ++ s.providerPairs) :=
    clean_append (failoverPairs_clean h.options) (providerPairs_clean h.options)
  have hother : ∀ pair ∈ s.providerPairs, isFailoverOption pair.1 = false := fun pair hp =>
    (isProviderOption_iff.1 (providerPairs_keys s pair hp)).2
  have hhost := hostPairs_clean h.options
  have hrest : splitQuery (withQueries "" [s.failoverPairs ++ s.providerPairs]).toList =
      ([], s.failoverPairs ++ s.providerPairs) :=
    splitQuery_withQueries (by decide) hq
  rw [withQueries_pair, decode, cutOnce_group h.hosts hhost]
  simp only [drop_toList_append, cut_hosts h.hosts hhost (List.cons_ne_nil _ _),
    hrest, filter_kind (failoverPairs_keys s) hother, filter_other (failoverPairs_keys s) hother]
  simp [hosts, Function.comp_def]

/-- **The decoder recovers what an address was built from.** -/
theorem decode_build (h : Clean host s) : decode (build host s) = parts host s := by
  unfold build parts
  by_cases hre : s.shouldReconnect
  · rw [if_pos hre, if_pos hre]
    exact decode_group h
  · rw [if_neg hre, if_neg hre]
    exact decode_single h

/-- Settings that tune the delay between attempts. -/
def delayTuned : Settings :=
  { reconnectHosts := some ["b"], reconnectDelay := some 5, options := .ofList [("k", "v=w")] }

/-- Settings that give the same delay as an option. -/
def delayOption : Settings :=
  { reconnectHosts := some ["b"]
    options := .ofList [("failover.reconnectDelay", "5"), ("k", "v=w")] }

end RemoteUri
end MessageBus
