/-
# Settings after any changes

A change gives one part of the settings a value and leaves all others as they
are; connection strings that cannot all be parsed give nothing. So after a
sequence of changes, from whatever start, a part has the value that it was given
last, or the one that it had at the start.

What a part is after a change depends on what it was before and on no other
part, so only the changes of a part count for it (`value_applyAll_filter`), and
changes of different parts may change places.

Key definitions: `Change.Gives`, `Change.part`, `LastGiven`, `LastWins`.
Key theorems: `changes_apply`, `value_applyAll`, `applyAll_eq_of_filter_eq`,
`last_change_wins`.
-/
import MessageBus.Proofs.Settings.ReconnectHosts

namespace MessageBus
namespace Settings

/-! ### One change -/

/-- What a change gives a part. -/
inductive Change.Gives : Change → (p : Part) → p.Value → Prop
  | idleTimeout (n : UInt64) : Gives (.idleTimeout n) .idleTimeout n
  | traceFrames (on : Bool) : Gives (.traceFrames on) .traceFrames on
  | proxy (proxy : Proxy) : Gives (.proxy proxy) .proxy (some proxy)
  | queueIdleLife (n : UInt64) : Gives (.queueIdleLife n) .queueIdleLife n
  | topicIdleLife (n : UInt64) : Gives (.topicIdleLife n) .topicIdleLife n
  | subscriberIdleLife (n : UInt64) : Gives (.subscriberIdleLife n) .subscriberIdleLife n
  | option (key value : String) : Gives (.option key value) (.option key) (some value)
  | shouldReconnect (on : Bool) : Gives (.shouldReconnect on) .shouldReconnect on
  | reconnectHosts (hosts : List String) :
    Gives (.reconnectHosts hosts) .reconnectHosts (some hosts)
  /-- Connection strings give hosts, if each of them can be parsed. -/
  | reconnectHostsOf {texts : List String} {parsed : List ConnectionString}
    (h : Parsed texts parsed) :
    Gives (.reconnectHostsOf texts) .reconnectHosts (some (parsed.map (·.host)))
  | initialReconnectDelay (n : UInt64) :
    Gives (.initialReconnectDelay n) .initialReconnectDelay (some n)
  | reconnectDelay (n : UInt64) : Gives (.reconnectDelay n) .reconnectDelay (some n)
  | maxReconnectDelay (n : UInt64) : Gives (.maxReconnectDelay n) .maxReconnectDelay (some n)
  | useBackOff (on : Bool) : Gives (.useBackOff on) .useBackOff (some on)
  | backOffMultiplier (x : Float) : Gives (.backOffMultiplier x) .backOffMultiplier (some x)
  | maxReconnectAttempts (n : Int32) :
    Gives (.maxReconnectAttempts n) .maxReconnectAttempts (some n)
  | startupMaxReconnectAttempts (n : Int32) :
    Gives (.startupMaxReconnectAttempts n) .startupMaxReconnectAttempts (some n)
  | warnAfterReconnectAttempts (n : Int32) :
    Gives (.warnAfterReconnectAttempts n) .warnAfterReconnectAttempts (some n)
  | randomize (on : Bool) : Gives (.randomize on) .randomize (some on)
  | mergeAction (action : MergeAction) : Gives (.mergeAction action) .mergeAction (some action)

/-- The part that a change is about. -/
def Change.part : Change → Part
  | .idleTimeout _ => .idleTimeout
  | .traceFrames _ => .traceFrames
  | .proxy _ => .proxy
  | .queueIdleLife _ => .queueIdleLife
  | .topicIdleLife _ => .topicIdleLife
  | .subscriberIdleLife _ => .subscriberIdleLife
  | .option key _ => .option key
  | .shouldReconnect _ => .shouldReconnect
  | .reconnectHosts _ | .reconnectHostsOf _ => .reconnectHosts
  | .initialReconnectDelay _ => .initialReconnectDelay
  | .reconnectDelay _ => .reconnectDelay
  | .maxReconnectDelay _ => .maxReconnectDelay
  | .useBackOff _ => .useBackOff
  | .backOffMultiplier _ => .backOffMultiplier
  | .maxReconnectAttempts _ => .maxReconnectAttempts
  | .startupMaxReconnectAttempts _ => .startupMaxReconnectAttempts
  | .warnAfterReconnectAttempts _ => .warnAfterReconnectAttempts
  | .randomize _ => .randomize
  | .mergeAction _ => .mergeAction

variable {s t : Settings} {c : Change} {p : Part}

theorem Change.Gives.part_eq {v : p.Value} (h : c.Gives p v) : p = c.part := by
  cases h <;> rfl

/-- What one change makes of settings: it gives its part a value, and nothing else. -/
structure Changes (s : Settings) (c : Change) (t : Settings) : Prop where
  given : c.Gives c.part (t.value c.part)
  others : ∀ p, p ≠ c.part → t.value p = s.value p

/-- A part that a change is not about stays as it is. -/
theorem value_apply_of_ne (h : s.apply c = .ok t) (hp : p ≠ c.part) : t.value p = s.value p := by
  cases c with
  | reconnectHostsOf texts => exact value_withReconnectHostsOf h hp
  | option key value =>
    cases h
    cases p with
    | option other =>
      have hother : key ≠ other := fun heq => hp (congrArg Part.option heq.symm)
      exact (Dictionary.get?_insert s.options key other value).trans (if_neg hother)
    | _ => rfl
  | _ =>
    cases h
    cases p <;> first | rfl | exact absurd rfl hp

/-- **A change that succeeds gives its part a value and leaves the others as they are.** -/
theorem changes_apply (h : s.apply c = .ok t) : s.Changes c t := by
  refine ⟨?_, fun p hp => value_apply_of_ne h hp⟩
  cases c with
  | reconnectHostsOf texts =>
    obtain ⟨parsed, hparsed, rfl⟩ := withReconnectHostsOf_eq_ok_iff.1 h
    exact .reconnectHostsOf hparsed
  | option key value =>
    cases h
    have hown : (s.options.insert key value).get? key = some value :=
      Dictionary.get?_insert_self _ _ _
    show Change.Gives _ (.option key) ((s.options.insert key value).get? key)
    rw [hown]
    exact .option key value
  | _ =>
    cases h
    constructor

theorem Change.Gives.unique {v w : p.Value} (h : c.Gives p v) (h' : c.Gives p w) : v = w := by
  cases h with
  | reconnectHostsOf hparsed =>
    cases h' with
    | reconnectHostsOf hparsed' => rw [hparsed.unique hparsed']
  | _ =>
    cases h'
    rfl

/-- A change that has something to give succeeds. -/
theorem Change.Gives.exists_apply {v : p.Value} (h : c.Gives p v) (s : Settings) :
    ∃ t, s.apply c = .ok t := by
  cases h with
  | reconnectHostsOf hparsed => exact ⟨_, withReconnectHostsOf_eq_ok_iff.2 ⟨_, hparsed, rfl⟩⟩
  | _ => exact ⟨_, rfl⟩

theorem applyOrKeep_of_ok (h : s.apply c = .ok t) : s.applyOrKeep c = t := by
  rw [applyOrKeep, h]
  rfl

theorem applyOrKeep_of_error {e : Error} (h : s.apply c = .error e) : s.applyOrKeep c = s := by
  rw [applyOrKeep, h]
  rfl

/-- A part has the value that a change gives it. -/
theorem value_applyOrKeep_of_gives {v : p.Value} (h : c.Gives p v) (s : Settings) :
    (s.applyOrKeep c).value p = v := by
  obtain ⟨t, ht⟩ := h.exists_apply s
  obtain rfl := h.part_eq
  rw [applyOrKeep_of_ok ht]
  exact (changes_apply ht).given.unique h

/-- A part that a change gives nothing is what it was. -/
theorem value_applyOrKeep_of_not_gives (h : ∀ v, ¬ c.Gives p v) (s : Settings) :
    (s.applyOrKeep c).value p = s.value p := by
  cases hs : s.apply c with
  | error e => rw [applyOrKeep_of_error hs]
  | ok t =>
    have hother : p ≠ c.part := by
      rintro rfl
      exact h _ (changes_apply hs).given
    rw [applyOrKeep_of_ok hs]
    exact (changes_apply hs).others p hother

/-- What a part is after a change depends on what it was before, and on no other part. -/
theorem value_applyOrKeep_congr (h : s.value p = t.value p) (c : Change) :
    (s.applyOrKeep c).value p = (t.applyOrKeep c).value p := by
  by_cases hgives : ∃ v, c.Gives p v
  · obtain ⟨v, hv⟩ := hgives
    rw [value_applyOrKeep_of_gives hv, value_applyOrKeep_of_gives hv]
  · have hnot : ∀ v, ¬ c.Gives p v := fun v hv => hgives ⟨v, hv⟩
    rw [value_applyOrKeep_of_not_gives hnot, value_applyOrKeep_of_not_gives hnot, h]

/-! ### Sequences of changes -/

/-- A value is the last that a sequence of changes gives a part. -/
def LastGiven (changes : List Change) (p : Part) (v : p.Value) : Prop :=
  ∃ before c after, changes = before ++ c :: after ∧ c.Gives p v ∧
    ∀ later ∈ after, ∀ w, ¬ later.Gives p w

/-- A part that no change gives a value keeps the one that it has. -/
theorem value_applyAll_of_not_gives : ∀ {changes : List Change} (s : Settings),
    (∀ c ∈ changes, ∀ v, ¬ c.Gives p v) → (s.applyAll changes).value p = s.value p
  | [], _, _ => rfl
  | c :: changes, s, h => by
    have hc : (s.applyOrKeep c).value p = s.value p :=
      value_applyOrKeep_of_not_gives (h c List.mem_cons_self) s
    rw [← hc]
    exact value_applyAll_of_not_gives (s.applyOrKeep c) fun c hc => h c (List.mem_cons_of_mem _ hc)

/-- **After any changes a part has the last value that it was given.** -/
theorem value_applyAll {changes : List Change} {v : p.Value} (h : LastGiven changes p v)
    (s : Settings) : (s.applyAll changes).value p = v := by
  obtain ⟨before, c, after, rfl, hgives, hlater⟩ := h
  have hsplit : s.applyAll (before ++ c :: after) =
      ((s.applyAll before).applyOrKeep c).applyAll after :=
    List.foldl_append
  rw [hsplit, value_applyAll_of_not_gives _ hlater]
  exact value_applyOrKeep_of_gives hgives _

/-- Either some change is the last to give a part a value, or none gives it any. -/
theorem lastGiven_or_not (p : Part) : ∀ changes : List Change,
    (∃ v, LastGiven changes p v) ∨ ∀ c ∈ changes, ∀ v, ¬ c.Gives p v
  | [] => .inr fun _ h => nomatch h
  | c :: changes => by
    rcases lastGiven_or_not p changes with ⟨v, before, last, after, rfl, hlast⟩ | hnone
    · exact .inl ⟨v, c :: before, last, after, rfl, hlast⟩
    · by_cases hgives : ∃ v, c.Gives p v
      · obtain ⟨v, hv⟩ := hgives
        exact .inl ⟨v, [], c, changes, rfl, hv, hnone⟩
      · exact .inr (List.forall_mem_cons.2 ⟨fun v hv => hgives ⟨v, hv⟩, hnone⟩)

/-- Only the changes of a part count for what it is. -/
theorem value_applyAll_filter : ∀ (changes : List Change) {s t : Settings},
    s.value p = t.value p →
      (s.applyAll changes).value p = (t.applyAll (changes.filter (·.part = p))).value p
  | [], _, _, h => h
  | c :: changes, s, t, h => by
    by_cases hc : c.part = p
    · rw [List.filter_cons_of_pos (by simpa using hc)]
      exact value_applyAll_filter changes (value_applyOrKeep_congr h c)
    · rw [List.filter_cons_of_neg (by simpa using hc)]
      have hnot : ∀ v, ¬ c.Gives p v := fun v hv => hc hv.part_eq.symm
      exact value_applyAll_filter changes ((value_applyOrKeep_of_not_gives hnot s).trans h)

/-- **Changes of different parts may change places.** -/
theorem applyAll_eq_of_filter_eq (s : Settings) {changes changes' : List Change}
    (h : ∀ p, changes'.filter (·.part = p) = changes.filter (·.part = p)) :
    s.applyAll changes' = s.applyAll changes :=
  eq_of_value fun p => by
    rw [value_applyAll_filter changes' (rfl : s.value p = s.value p), h p,
      ← value_applyAll_filter changes (rfl : s.value p = s.value p)]

/-! ### The last change wins -/

/-- Settings that lead to the same getters, queries, documents and addresses. -/
structure SameShown (s t : Settings) : Prop where
  values : ∀ p : Part, s.value p = t.value p
  options : s.mergedOptions = t.mergedOptions
  hostQuery : s.hostQuery = t.hostQuery
  failoverQuery : s.failoverQuery = t.failoverQuery
  providerQuery : s.providerQuery = t.providerQuery
  document : s.toJson = t.toJson
  address : ∀ host, RemoteUri.build host s = RemoteUri.build host t

/-- What any changes make of settings, whatever these were. -/
structure LastWins (s : Settings) (changes : List Change) : Prop where
  /-- A change succeeds if and only if it gives its part a value: all do but connection
  strings that cannot all be parsed. -/
  succeeds : ∀ (t : Settings) (c : Change), (∃ t', t.apply c = .ok t') ↔ ∃ v, c.Gives c.part v
  /-- One that fails is passed over. -/
  fails : ∀ before c e, (s.applyAll before).apply c = .error e →
    s.applyAll (before ++ [c]) = s.applyAll before
  /-- A part has the value that it was given last. -/
  last : ∀ p v, LastGiven changes p v → (s.applyAll changes).value p = v
  /-- A part that was given none has the value of the start. -/
  kept : ∀ p, (∀ c ∈ changes, ∀ v, ¬ c.Gives p v) → (s.applyAll changes).value p = s.value p
  /-- There is no third case. -/
  cases : ∀ p, (∃ v, LastGiven changes p v) ∨ ∀ c ∈ changes, ∀ v, ¬ c.Gives p v
  /-- An order in which the changes of each part follow each other as before leads to the
  same. -/
  reordered : ∀ changes' : List Change, changes'.Perm changes →
    (∀ p, changes'.filter (·.part = p) = changes.filter (·.part = p)) →
      SameShown (s.applyAll changes') (s.applyAll changes)

theorem exists_apply_iff : (∃ t, s.apply c = .ok t) ↔ ∃ v, c.Gives c.part v := by
  constructor
  · rintro ⟨t, ht⟩
    exact ⟨_, (changes_apply ht).given⟩
  · rintro ⟨v, hv⟩
    exact hv.exists_apply s

theorem applyAll_concat_of_error {before : List Change} {e : Error}
    (h : (s.applyAll before).apply c = .error e) :
    s.applyAll (before ++ [c]) = s.applyAll before := by
  have hlast : s.applyAll (before ++ [c]) = (s.applyAll before).applyOrKeep c :=
    List.foldl_concat ..
  rw [hlast, applyOrKeep_of_error h]

/-- **The last change of each part wins, in whatever order those of different parts come.** -/
theorem last_change_wins (s : Settings) (changes : List Change) : s.LastWins changes where
  succeeds _ _ := exists_apply_iff
  fails _ _ _ := applyAll_concat_of_error
  last _ _ h := value_applyAll h s
  kept _ h := value_applyAll_of_not_gives s h
  cases p := lastGiven_or_not p changes
  reordered changes' _ h := by
    rw [applyAll_eq_of_filter_eq s h]
    exact ⟨fun _ => rfl, rfl, rfl, rfl, rfl, rfl, fun _ => rfl⟩

end Settings
end MessageBus
