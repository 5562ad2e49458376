/-
# What a remote address depends on

An address is made of a few values and of the options over the defaults. Two
settings that agree in these have the same address, whatever else they hold.
Without reconnecting neither the hosts to reconnect to nor the tuning nor the
options of the group count; with it they do, and no hosts count as much as an
empty list of them. How long idle queues, topics and subscribers live and the
proxy never count, and a default that the caller spells out is a default.

Key definitions: `Settings.SameTransport`, `Settings.SameTuning`,
`Settings.AlikePlain`, `Settings.AlikeGroup`.
Key theorems: `Query.Selects.unique`, `RemoteUri.build_eq_of_alikePlain`,
`RemoteUri.build_eq_of_alikeGroup`, `RemoteUri.build_independent`.
-/
import MessageBus.Proofs.Settings.Options
import MessageBus.RemoteUri

namespace MessageBus

/-! ### Options of one kind -/

namespace Query

variable {q r : Query} {d e : Dictionary String} {kind : String → Prop}

/-- **Dictionaries that agree in the keys of a kind have the same entries of it.** -/
theorem Selects.unique (hq : q.Selects d kind) (hr : r.Selects e kind)
    (hagree : ∀ key, kind key → d.get? key = e.get? key) : q = r := by
  have hmem (pair : String × String) : pair ∈ q ↔ pair ∈ r := by
    obtain ⟨key, value⟩ := pair
    rw [hq.mem_iff, hr.mem_iff]
    exact and_congr_left fun hkind => by rw [hagree key hkind]
  exact Dictionary.eq_of_mem_iff hq.ordered hr.ordered hmem

end Query

/-! ### Settings that are alike -/

namespace Settings

variable {s t : Settings}

/-- The settings have the same values for the transport. -/
structure SameTransport (s t : Settings) : Prop where
  idleTimeout : s.idleTimeout = t.idleTimeout
  traceFrames : s.traceFrames = t.traceFrames

/-- The settings have the same tuning values. -/
structure SameTuning (s t : Settings) : Prop where
  initialReconnectDelay : s.initialReconnectDelay = t.initialReconnectDelay
  reconnectDelay : s.reconnectDelay = t.reconnectDelay
  maxReconnectDelay : s.maxReconnectDelay = t.maxReconnectDelay
  useBackOff : s.useBackOff = t.useBackOff
  backOffMultiplier : s.backOffMultiplier = t.backOffMultiplier
  maxReconnectAttempts : s.maxReconnectAttempts = t.maxReconnectAttempts
  startupMaxReconnectAttempts : s.startupMaxReconnectAttempts = t.startupMaxReconnectAttempts
  warnAfterReconnectAttempts : s.warnAfterReconnectAttempts = t.warnAfterReconnectAttempts
  randomize : s.randomize = t.randomize
  mergeAction : s.mergeAction = t.mergeAction

/-- The settings do not reconnect, and agree in the values of the transport and in the
options that are not for the group of hosts. -/
structure AlikePlain (s t : Settings) : Prop where
  left : s.shouldReconnect = false
  right : t.shouldReconnect = false
  transport : s.SameTransport t
  options : ∀ key, ¬ FailoverKey key → s.mergedOptions.get? key = t.mergedOptions.get? key

/-- The settings reconnect, and agree in the values of the transport, the tuning, the
options and the hosts to reconnect to. -/
structure AlikeGroup (s t : Settings) : Prop where
  left : s.shouldReconnect = true
  right : t.shouldReconnect = true
  transport : s.SameTransport t
  tuning : s.SameTuning t
  options : ∀ key, s.mergedOptions.get? key = t.mergedOptions.get? key
  hosts : s.reconnectHosts.getD [] = t.reconnectHosts.getD []

/-- A default that the caller spells out, with no other value of the same key before. -/
structure Spells (s : Settings) (key value : String) : Prop where
  default : defaultOptions.get? key = some value
  silent : ∀ own, s.options.get? key = some own → own = value

/-- The settings with the default spelled out. -/
def spellOut (s : Settings) (key value : String) : Settings :=
  { s with options := s.options.insert key value }

/-- The settings with other idle lives and another proxy. -/
def elsewhere (s : Settings) (queue topic subscriber : UInt64) (proxy : Option Proxy) : Settings :=
  { s with queueIdleLife := queue, topicIdleLife := topic, subscriberIdleLife := subscriber, proxy }

/-! ### Their queries -/

theorem optionsWhere_eq {p : String → Bool}
    (h : ∀ key, p key = true → s.mergedOptions.get? key = t.mergedOptions.get? key) :
    s.optionsWhere p = t.optionsWhere p :=
  (s.optionsWhere_selects fun _ => Iff.rfl).unique (t.optionsWhere_selects fun _ => Iff.rfl) h

theorem SameTransport.hostPairs_eq (h : s.SameTransport t)
    (hoptions : ∀ key, HostKey key → s.mergedOptions.get? key = t.mergedOptions.get? key) :
    s.hostPairs = t.hostPairs := by
  have hselected : s.optionsWhere isHostOption = t.optionsWhere isHostOption :=
    optionsWhere_eq fun key hkey => hoptions key (isHostOption_iff.1 hkey)
  rw [hostPairs, hostPairs, h.idleTimeout, h.traceFrames, hselected]

theorem SameTuning.tuningPairs_eq (h : s.SameTuning t) : s.tuningPairs = t.tuningPairs := by
  rw [tuningPairs, tuningPairs, h.initialReconnectDelay, h.reconnectDelay, h.maxReconnectDelay,
    h.useBackOff, h.backOffMultiplier, h.maxReconnectAttempts, h.startupMaxReconnectAttempts,
    h.warnAfterReconnectAttempts, h.randomize, h.mergeAction]

theorem providerPairs_eq
    (h : ∀ key, ¬ FailoverKey key → s.mergedOptions.get? key = t.mergedOptions.get? key) :
    s.providerPairs = t.providerPairs :=
  optionsWhere_eq fun key hkey => h key fun hfailover => by
    have hother : isFailoverOption key = false := (isProviderOption_iff.1 hkey).2
    rw [isFailoverOption_iff.2 hfailover] at hother
    cases hother

/-- A default that is spelled out leaves the options over the defaults as they are. -/
theorem Spells.get?_mergedOptions {key value : String} (h : s.Spells key value) (other : String) :
    (s.spellOut key value).mergedOptions.get? other = s.mergedOptions.get? other := by
  rw [Settings.get?_mergedOptions, Settings.get?_mergedOptions]
  show ((s.options.insert key value).get? other).or _ = _
  rw [Dictionary.get?_insert]
  by_cases hother : key = other
  · subst hother
    rw [if_pos rfl, h.default]
    cases hown : s.options.get? key with
    | none => rfl
    | some own => rw [h.silent own hown]
  · rw [if_neg hother]

end Settings

/-! ### Their addresses -/

namespace RemoteUri

open Settings

variable {s t : Settings} (host : String)

/-- **Without reconnecting** an address depends on nothing of the group of hosts. -/
theorem build_eq_of_alikePlain (h : s.AlikePlain t) : build host s = build host t := by
  have hhost : s.hostPairs = t.hostPairs :=
    h.transport.hostPairs_eq fun key hkey => h.options key (not_failoverKey_of_hostKey hkey)
  have hprovider : s.providerPairs = t.providerPairs := providerPairs_eq h.options
  rw [build, build, h.left, h.right, if_neg Bool.false_ne_true, if_neg Bool.false_ne_true, hhost,
    hprovider]

/-- **With reconnecting** an address depends on the hosts, but not on how their absence is
put. -/
theorem build_eq_of_alikeGroup (h : s.AlikeGroup t) : build host s = build host t := by
  have hhost : s.hostPairs = t.hostPairs := h.transport.hostPairs_eq fun key _ => h.options key
  have hprovider : s.providerPairs = t.providerPairs := providerPairs_eq fun key _ => h.options key
  have hfailover : s.failoverPairs = t.failoverPairs := by
    rw [failoverPairs, failoverPairs, h.tuning.tuningPairs_eq,
      optionsWhere_eq fun key _ => h.options key]
  rw [build, build, h.left, h.right, if_pos rfl, if_pos rfl, hhost, hprovider, hfailover, hosts,
    hosts, h.hosts]

/-- Settings that differ only in what is no part of an address. -/
theorem build_eq_of_same (hreconnect : s.shouldReconnect = t.shouldReconnect)
    (htransport : s.SameTransport t) (htuning : s.SameTuning t)
    (hoptions : ∀ key, s.mergedOptions.get? key = t.mergedOptions.get? key)
    (hhosts : s.reconnectHosts = t.reconnectHosts) : build host s = build host t := by
  cases hs : s.shouldReconnect with
  | false =>
    exact build_eq_of_alikePlain host
      ⟨hs, hreconnect.symm.trans hs, htransport, fun key _ => hoptions key⟩
  | true =>
    exact build_eq_of_alikeGroup host
      ⟨hs, hreconnect.symm.trans hs, htransport, htuning, hoptions, congrArg (·.getD []) hhosts⟩

theorem build_spellOut {key value : String} (h : s.Spells key value) :
    build host (s.spellOut key value) = build host s :=
  build_eq_of_same host rfl ⟨rfl, rfl⟩ ⟨rfl, rfl, rfl, rfl, rfl, rfl, rfl, rfl, rfl, rfl⟩
    h.get?_mergedOptions rfl

/-- **An address depends on nothing but what it is made of**: settings that are alike, in
the one way without reconnecting and in the other with it, have the same address; so a
default that is spelled out, the idle lives and the proxy make no difference in either. -/
theorem build_independent (s t : Settings) :
    (s.AlikePlain t → build host s = build host t) ∧
      (s.AlikeGroup t → build host s = build host t) ∧
      (∀ key value, s.Spells key value → build host (s.spellOut key value) = build host s) ∧
      ∀ queue topic subscriber proxy,
        build host (s.elsewhere queue topic subscriber proxy) = build host s :=
  ⟨build_eq_of_alikePlain host, build_eq_of_alikeGroup host, fun _ _ => build_spellOut host,
    fun _ _ _ _ => rfl⟩

/-- Settings that do not reconnect, with nothing for the group. -/
def plain : Settings :=
  { shouldReconnect := false, traceFrames := true, options := .ofList [("amqp.vhost", "v")] }

/-- Settings that do not reconnect either, with hosts, a tuning value and an option of the
group. -/
def plainTuned : Settings :=
  { shouldReconnect := false
    traceFrames := true
    reconnectHosts := some ["b"]
    reconnectDelay := some 5
    options := (plain.options.insert "failover.nested" "x").insert "jms.prefetchPolicy.all" "0" }

/-- Settings that reconnect, without hosts to reconnect to. -/
def grouped : Settings := { reconnectDelay := some 5 }

/-- Settings that reconnect to none of an empty list of hosts, through a proxy. -/
def groupedNowhere : Settings :=
  { reconnectDelay := some 5
    reconnectHosts := some []
    proxy := some ⟨"proxy.example"⟩
    queueIdleLife := 60 }

theorem build_independent_tuned :
    (plain.AlikePlain plainTuned ∧ build "a" plain = build "a" plainTuned) ∧
      (grouped.AlikeGroup groupedNowhere ∧ build "a" grouped = build "a" groupedNowhere) ∧
        plain.Spells "jms.prefetchPolicy.all" "0" ∧
          build "a" (plain.spellOut "jms.prefetchPolicy.all" "0") = build "a" plain := by
  have hkeys (key : String) (hkey : ¬ FailoverKey key) :
      plain.mergedOptions.get? key = plainTuned.mergedOptions.get? key := by
    have hnested : "failover.nested" ≠ key := fun heq => hkey ⟨"nested", heq.symm⟩
    rw [get?_mergedOptions, get?_mergedOptions]
    show _ = (((plain.options.insert _ _).insert _ _).get? key).or _
    rw [Dictionary.get?_insert, Dictionary.get?_insert, if_neg hnested]
    by_cases hprefetch : "jms.prefetchPolicy.all" = key
    · subst hprefetch
      decide
    · rw [if_neg hprefetch]
  have hplain : plain.AlikePlain plainTuned := ⟨rfl, rfl, ⟨rfl, rfl⟩, hkeys⟩
  have hgroup : grouped.AlikeGroup groupedNowhere :=
    ⟨rfl, rfl, ⟨rfl, rfl⟩, ⟨rfl, rfl, rfl, rfl, rfl, rfl, rfl, rfl, rfl, rfl⟩, fun _ => rfl, rfl⟩
  have hspells : plain.Spells "jms.prefetchPolicy.all" "0" := by
    refine ⟨by decide, fun own hown => ?_⟩
    cases (show plain.options.get? "jms.prefetchPolicy.all" = none by decide).symm.trans hown
  have hindependent := build_independent "a" plain plainTuned
  exact ⟨⟨hplain, hindependent.1 hplain⟩,
    ⟨hgroup, (build_independent "a" grouped groupedNowhere).2.1 hgroup⟩, hspells,
    hindependent.2.2.1 _ _ hspells⟩

end RemoteUri
end MessageBus
