/-
# The grammar of connection strings

The segments of a text are read one after the other, but what is wrong with a segment does
not depend on those before it: it has no equals sign, or it gives an endpoint without a host.
So a text is refused for the first segment with something wrong, or, when there is none, for
having no endpoint at all. Otherwise each part is what the last segment of its key gives.

The invariant is `Gathered`: after some segments, each part of the draft is what the last of
them with its key gives. One more segment is one of six things (`Draft.Takes`).

Key definitions: `ConnectionString.Gives`, `ConnectionString.Offends`,
`ConnectionString.Draft.Takes`, `ConnectionString.LastGives`, `ConnectionString.Gathered`,
`ConnectionString.Follows`.
Key theorems: `ConnectionString.Draft.takes`, `ConnectionString.Gathered.concat`,
`ConnectionString.foldlM_of_firstOffends`, `ConnectionString.parse_follows_grammar`.
-/
import MessageBus.Proofs.ConnectionString

namespace MessageBus
namespace ConnectionString

/-! ### What a segment says -/

/-- A segment gives a key, in whatever case it spells it, a value: its key is what stands
before the first equals sign and its value all that follows, both trimmed. -/
def Gives (key : String) (segment : List Char) (value : String) : Prop :=
  ∃ front back, segment = front ++ '=' :: back ∧ '=' ∉ front ∧
    Text.sameIgnoringCase (String.ofList (Text.trim front)) key = true ∧
    value = String.ofList (Text.trim back)

/-- Why an endpoint gives no host: its address cannot be read, or says none. -/
inductive LacksHost (endpoint : String) : Misconfiguration → Prop
  | badEndpoint {fault : AddressFault} (h : Endpoint.parse endpoint.toList = .error fault) :
    LacksHost endpoint (.badEndpoint endpoint fault)
  | hostlessEndpoint {host : Option Host} (h : Endpoint.parse endpoint.toList = .ok host)
    (hempty : ∀ found ∈ host, found.render = []) : LacksHost endpoint (.hostlessEndpoint endpoint)

/-- What is wrong with a segment. -/
inductive Offends (segment : List Char) : Misconfiguration → Prop
  | malformed (h : '=' ∉ segment) : Offends segment (.malformedSegment (String.ofList segment))
  | endpoint {endpoint : String} {cause : Misconfiguration} (h : Gives "Endpoint" segment endpoint)
    (hlacks : LacksHost endpoint cause) : Offends segment cause

/-- A segment with nothing wrong: it has an equals sign, and an endpoint that it gives has a
host. -/
structure Sound (segment : List Char) : Prop where
  equals : '=' ∈ segment
  host : ∀ endpoint, Gives "Endpoint" segment endpoint → ∃ host, endpointHost endpoint = .ok host

/-- The keys that mean something. -/
def keys : List String := ["Endpoint", "SharedAccessKeyName", "SharedAccessKey", "EntityPath"]

section Gives

variable {key key' value value' : String} {segment : List Char}

theorem Gives.equals (h : Gives key segment value) : '=' ∈ segment := by
  obtain ⟨front, back, rfl, -⟩ := h
  exact List.mem_append_right _ List.mem_cons_self

/-- A segment gives one key one value. -/
theorem Gives.unique (h : Gives key segment value) (h' : Gives key' segment value') :
    Text.foldCase key = Text.foldCase key' ∧ value = value' := by
  obtain ⟨front, back, rfl, hfront, hkey, rfl⟩ := h
  obtain ⟨front', back', hsplit, hfront', hkey', rfl⟩ := h'
  have hcut : Text.cutOnce '=' (front ++ '=' :: back) = some (front, back) :=
    Text.cutOnce_append hfront
  rw [hsplit, Text.cutOnce_append hfront'] at hcut
  obtain ⟨rfl, rfl⟩ := Prod.mk.inj (Option.some.inj hcut)
  have hfold := (Text.sameIgnoringCase_iff.1 hkey).symm.trans (Text.sameIgnoringCase_iff.1 hkey')
  exact ⟨hfold, rfl⟩

theorem Gives.not_gives (h : Gives key segment value)
    (hne : Text.foldCase key ≠ Text.foldCase key') (other : String) : ¬ Gives key' segment other :=
  fun h' => hne (h.unique h').1

end Gives

theorem endpointHost_eq_error_iff {endpoint : String} {e : Error} :
    endpointHost endpoint = .error e ↔
      ∃ cause, LacksHost endpoint cause ∧ e = .configuration cause := by
  unfold endpointHost
  constructor
  · intro h
    split at h
    · next fault hfault =>
      cases h
      exact ⟨_, .badEndpoint hfault, rfl⟩
    · next hnone =>
      cases h
      exact ⟨_, .hostlessEndpoint hnone fun _ hfound => (nomatch hfound), rfl⟩
    · next host hhost =>
      by_cases hempty : host.render = []
      · rw [if_pos hempty] at h
        cases h
        refine ⟨_, .hostlessEndpoint hhost fun found hfound => ?_, rfl⟩
        rwa [← Option.mem_some.1 hfound]
      · rw [if_neg hempty] at h
        cases h
  · rintro ⟨cause, hlacks, rfl⟩
    cases hlacks with
    | badEndpoint h => rw [h]
    | @hostlessEndpoint host h hempty =>
      rw [h]
      cases host with
      | none => rfl
      | some found => exact if_pos (hempty found rfl)

/-! ### Reading one segment -/

/-- What reading a segment after others comes to. -/
inductive Draft.Takes (d : Draft) (segment : List Char) : Except Error Draft → Prop
  | offence {cause : Misconfiguration} (h : Offends segment cause) :
    Takes d segment (.error (.configuration cause))
  | endpoint {endpoint host : String} (h : Gives "Endpoint" segment endpoint)
    (hhost : endpointHost endpoint = .ok host) : Takes d segment (.ok { d with host := some host })
  | keyName {value : String} (h : Gives "SharedAccessKeyName" segment value) :
    Takes d segment (.ok { d with keyName := some value })
  | key {value : String} (h : Gives "SharedAccessKey" segment value) :
    Takes d segment (.ok { d with key := some value })
  | entityPath {value : String} (h : Gives "EntityPath" segment value) :
    Takes d segment (.ok { d with entityPath := some value })
  | other (hequals : '=' ∈ segment) (h : ∀ key ∈ keys, ∀ value, ¬ Gives key segment value) :
    Takes d segment (.ok d)

namespace Draft

variable (d : Draft) {key value : String} {segment : List Char} {cause : Misconfiguration}

theorem apply_of_gives (h : Gives key segment value) : d.apply segment = d.set key value := by
  obtain ⟨front, back, rfl, hfront, hkey, rfl⟩ := h
  rw [apply, Text.cutOnce_append hfront]
  exact set_of_foldCase d _ (Text.sameIgnoringCase_iff.1 hkey)

theorem apply_of_offends (h : Offends segment cause) :
    d.apply segment = .error (.configuration cause) := by
  cases h with
  | malformed h => rw [apply, Text.cutOnce_eq_none h]
  | endpoint h hlacks =>
    rw [d.apply_of_gives h, set_endpoint, endpointHost_eq_error_iff.2 ⟨cause, hlacks, rfl⟩]
    rfl

/-- A segment with another key is passed over. -/
theorem apply_of_not_gives (hequals : '=' ∈ segment)
    (h : ∀ key ∈ keys, ∀ value, ¬ Gives key segment value) : d.apply segment = .ok d := by
  obtain ⟨front, back, rfl, hfront⟩ := List.eq_append_cons_of_mem hequals
  have hother : ∀ known ∈ keys,
      Text.sameIgnoringCase (String.ofList (Text.trim front)) known = false :=
    fun known hmem => eq_false_of_ne_true fun hsame =>
      h known hmem _ ⟨front, back, rfl, hfront, hsame, rfl⟩
  simp only [keys, List.forall_mem_cons] at hother
  obtain ⟨hendpoint, hname, hkey, hpath, -⟩ := hother
  rw [apply, Text.cutOnce_append hfront]
  simp only [set, hendpoint, hname, hkey, hpath, Bool.false_eq_true, if_false]
  rfl

theorem takes_of_gives (hmem : key ∈ keys) (h : Gives key segment value) :
    d.Takes segment (d.apply segment) := by
  rw [d.apply_of_gives h]
  simp only [keys, List.mem_cons, List.not_mem_nil, or_false] at hmem
  rcases hmem with rfl | rfl | rfl | rfl
  · rw [set_endpoint]
    cases hhost : endpointHost value with
    | error e =>
      obtain ⟨cause, hlacks, rfl⟩ := endpointHost_eq_error_iff.1 hhost
      exact .offence (.endpoint h hlacks)
    | ok host => exact .endpoint h hhost
  · rw [set_keyName]
    exact .keyName h
  · rw [set_key]
    exact .key h
  · rw [set_entityPath]
    exact .entityPath h

/-- **Reading a segment is one of six things.** -/
theorem takes (segment : List Char) : d.Takes segment (d.apply segment) := by
  by_cases hequals : '=' ∈ segment
  · by_cases hgives : ∃ key ∈ keys, ∃ value, Gives key segment value
    · obtain ⟨key, hmem, value, hgives⟩ := hgives
      exact d.takes_of_gives hmem hgives
    · have hnone : ∀ key ∈ keys, ∀ value, ¬ Gives key segment value :=
        fun key hmem value h => hgives ⟨key, hmem, value, h⟩
      rw [d.apply_of_not_gives hequals hnone]
      exact .other hequals hnone
  · rw [d.apply_of_offends (.malformed hequals)]
    exact .offence (.malformed hequals)

end Draft

section Sound

variable {segment : List Char} {cause : Misconfiguration}

theorem Offends.not_sound (h : Offends segment cause) : ¬ Sound segment := by
  intro hsound
  cases h with
  | malformed h => exact h hsound.equals
  | endpoint h hlacks =>
    obtain ⟨host, hhost⟩ := hsound.host _ h
    rw [endpointHost_eq_error_iff.2 ⟨cause, hlacks, rfl⟩] at hhost
    cases hhost

/-- A segment that is read has nothing wrong. -/
theorem sound_of_apply {d d' : Draft} (h : d.apply segment = .ok d') : Sound segment := by
  have htakes := d.takes segment
  rw [h] at htakes
  have hother {key value : String} (hgives : Gives key segment value)
      (hne : Text.foldCase key ≠ Text.foldCase "Endpoint") : Sound segment :=
    ⟨hgives.equals, fun endpoint hendpoint => absurd hendpoint (hgives.not_gives hne endpoint)⟩
  cases htakes with
  | @endpoint value host hgives hhost =>
    refine ⟨hgives.equals, fun endpoint hendpoint => ⟨host, ?_⟩⟩
    rw [← (hgives.unique hendpoint).2, hhost]
  | keyName hgives => exact hother hgives (by decide)
  | key hgives => exact hother hgives (by decide)
  | entityPath hgives => exact hother hgives (by decide)
  | other hequals hnone =>
    exact ⟨hequals, fun endpoint hendpoint => absurd hendpoint (hnone _ (by decide) endpoint)⟩

/-- A segment with nothing wrong is read, whatever was read before it. -/
theorem Sound.apply (h : Sound segment) (d : Draft) : ∃ d', d.apply segment = .ok d' := by
  cases happly : d.apply segment with
  | ok d' => exact ⟨d', rfl⟩
  | error e =>
    have htakes := d.takes segment
    rw [happly] at htakes
    cases htakes with
    | offence hoffends => exact absurd h hoffends.not_sound

end Sound

/-! ### Reading all segments -/

/-- What the last of the segments with a key gives it: nothing if there is none. -/
inductive LastGives (key : String) : List (List Char) → Option String → Prop
  | absent {segments : List (List Char)}
    (h : ∀ segment ∈ segments, ∀ value, ¬ Gives key segment value) :
    LastGives key segments none
  | given (before : List (List Char)) {segment : List Char} {value : String}
    (h : Gives key segment value) {after : List (List Char)}
    (hafter : ∀ later ∈ after, ∀ other, ¬ Gives key later other) :
    LastGives key (before ++ segment :: after) (some value)

/-- The first of the segments with something wrong. -/
def FirstOffends (segments : List (List Char)) (cause : Misconfiguration) : Prop :=
  ∃ before segment after, segments = before ++ segment :: after ∧
    (∀ earlier ∈ before, Sound earlier) ∧ Offends segment cause

/-- What a draft is after some segments. -/
structure Gathered (segments : List (List Char)) (d : Draft) : Prop where
  sound : ∀ segment ∈ segments, Sound segment
  host : ∃ endpoint, LastGives "Endpoint" segments endpoint ∧
    endpoint.map endpointHost = d.host.map .ok
  keyName : LastGives "SharedAccessKeyName" segments d.keyName
  key : LastGives "SharedAccessKey" segments d.key
  entityPath : LastGives "EntityPath" segments d.entityPath

section LastGives

variable {key value : String} {segments : List (List Char)} {segment : List Char}
  {given : Option String}

/-- A segment that does not give the key changes nothing. -/
theorem LastGives.concat (h : LastGives key segments given)
    (hnot : ∀ value, ¬ Gives key segment value) : LastGives key (segments ++ [segment]) given := by
  cases h with
  | absent h =>
    refine .absent fun other hmem => ?_
    rcases List.mem_append.1 hmem with hmem | hmem
    · exact h other hmem
    · rwa [List.mem_singleton.1 hmem]
  | given before h hafter =>
    rw [List.append_assoc, List.cons_append]
    refine .given before h fun later hmem => ?_
    rcases List.mem_append.1 hmem with hmem | hmem
    · exact hafter later hmem
    · rwa [List.mem_singleton.1 hmem]

theorem LastGives.concat_of_gives (segments : List (List Char)) (h : Gives key segment value) :
    LastGives key (segments ++ [segment]) (some value) :=
  .given segments h fun _ hmem => absurd hmem List.not_mem_nil

theorem LastGives.exists_gives (h : LastGives key segments (some value)) :
    ∃ segment ∈ segments, Gives key segment value := by
  cases h with
  | given before h => exact ⟨_, List.mem_append_right _ List.mem_cons_self, h⟩

/-- Nothing is given only if no segment has the key. -/
theorem LastGives.not_gives (h : LastGives key segments none) :
    ∀ segment ∈ segments, ∀ value, ¬ Gives key segment value := by
  cases h with
  | absent h => exact h

end LastGives

theorem gathered_blank : Gathered [] Draft.blank where
  sound _ hmem := absurd hmem List.not_mem_nil
  host := ⟨none, .absent fun _ hmem => absurd hmem List.not_mem_nil, rfl⟩
  keyName := .absent fun _ hmem => absurd hmem List.not_mem_nil
  key := .absent fun _ hmem => absurd hmem List.not_mem_nil
  entityPath := .absent fun _ hmem => absurd hmem List.not_mem_nil

section Reading

variable {segments : List (List Char)} {segment : List Char} {d d' : Draft}

/-- **One more segment, and the parts are still those of the last segments.** -/
theorem Gathered.concat (h : Gathered segments d) (happly : d.apply segment = .ok d') :
    Gathered (segments ++ [segment]) d' := by
  have hsound : ∀ other ∈ segments ++ [segment], Sound other := fun other hmem => by
    rcases List.mem_append.1 hmem with hmem | hmem
    · exact h.sound other hmem
    · rw [List.mem_singleton.1 hmem]
      exact sound_of_apply happly
  obtain ⟨endpoint, hlast, hhost⟩ := h.host
  have htakes := d.takes segment
  rw [happly] at htakes
  cases htakes with
  | @endpoint value host hgives hvalue =>
    exact {
      sound := hsound
      host := ⟨some value, .concat_of_gives segments hgives, congrArg some hvalue⟩
      keyName := h.keyName.concat (hgives.not_gives (by decide))
      key := h.key.concat (hgives.not_gives (by decide))
      entityPath := h.entityPath.concat (hgives.not_gives (by decide)) }
  | keyName hgives =>
    exact {
      sound := hsound
      host := ⟨endpoint, hlast.concat (hgives.not_gives (by decide)), hhost⟩
      keyName := .concat_of_gives segments hgives
      key := h.key.concat (hgives.not_gives (by decide))
      entityPath := h.entityPath.concat (hgives.not_gives (by decide)) }
  | key hgives =>
    exact {
      sound := hsound
      host := ⟨endpoint, hlast.concat (hgives.not_gives (by decide)), hhost⟩
      keyName := h.keyName.concat (hgives.not_gives (by decide))
      key := .concat_of_gives segments hgives
      entityPath := h.entityPath.concat (hgives.not_gives (by decide)) }
  | entityPath hgives =>
    exact {
      sound := hsound
      host := ⟨endpoint, hlast.concat (hgives.not_gives (by decide)), hhost⟩
      keyName := h.keyName.concat (hgives.not_gives (by decide))
      key := h.key.concat (hgives.not_gives (by decide))
      entityPath := .concat_of_gives segments hgives }
  | other _ hnone =>
    exact {
      sound := hsound
      host := ⟨endpoint, hlast.concat (hnone _ (by decide)), hhost⟩
      keyName := h.keyName.concat (hnone _ (by decide))
      key := h.key.concat (hnone _ (by decide))
      entityPath := h.entityPath.concat (hnone _ (by decide)) }

/-- Segments with nothing wrong are all read. -/
theorem Gathered.foldlM : ∀ {rest before : List (List Char)} {d : Draft}, Gathered before d →
    (∀ segment ∈ rest, Sound segment) →
      ∃ d', rest.foldlM Draft.apply d = .ok d' ∧ Gathered (before ++ rest) d'
  | [], before, d, h, _ => ⟨d, rfl, by rwa [List.append_nil]⟩
  | segment :: rest, before, d, h, hsound => by
    obtain ⟨next, happly⟩ := (hsound segment List.mem_cons_self).apply d
    obtain ⟨d', hfold, hd'⟩ := (h.concat happly).foldlM
      fun later hmem => hsound later (List.mem_cons_of_mem _ hmem)
    refine ⟨d', ?_, by rwa [List.append_assoc, List.singleton_append] at hd'⟩
    rw [List.foldlM_cons, happly]
    exact hfold

/-- **Reading stops at the first segment with something wrong.** -/
theorem foldlM_of_firstOffends {cause : Misconfiguration} (h : FirstOffends segments cause) :
    segments.foldlM Draft.apply Draft.blank = .error (.configuration cause) := by
  obtain ⟨before, segment, after, rfl, hsound, hoffends⟩ := h
  obtain ⟨d, hfold, -⟩ := gathered_blank.foldlM hsound
  rw [List.foldlM_append, hfold]
  show (segment :: after).foldlM Draft.apply d = _
  rw [List.foldlM_cons, d.apply_of_offends hoffends]
  rfl

/-- Either nothing is wrong with any segment, or there is a first one with something wrong. -/
theorem sound_or_firstOffends : ∀ segments : List (List Char),
    (∀ segment ∈ segments, Sound segment) ∨ ∃ cause, FirstOffends segments cause
  | [] => .inl fun _ hmem => absurd hmem List.not_mem_nil
  | segment :: rest => by
    cases happly : Draft.blank.apply segment with
    | error e =>
      have htakes := Draft.blank.takes segment
      rw [happly] at htakes
      cases htakes with
      | @offence cause hoffends =>
        exact .inr ⟨cause, [], segment, rest, rfl, fun _ hmem => absurd hmem List.not_mem_nil,
          hoffends⟩
    | ok d =>
      have hsegment : Sound segment := sound_of_apply happly
      obtain hrest | ⟨cause, before, found, after, rfl, hbefore, hoffends⟩ :=
        sound_or_firstOffends rest
      · exact .inl (List.forall_mem_cons.2 ⟨hsegment, hrest⟩)
      · exact .inr ⟨cause, segment :: before, found, after, rfl,
          List.forall_mem_cons.2 ⟨hsegment, hbefore⟩, hoffends⟩

end Reading

/-! ### The grammar -/

/-- The parts of a connection string are those that the last segments of their keys give. -/
structure Parts (segments : List (List Char)) (c : ConnectionString) : Prop where
  host : ∃ endpoint, LastGives "Endpoint" segments (some endpoint) ∧
    endpointHost endpoint = .ok c.host
  keyName : LastGives "SharedAccessKeyName" segments c.keyName
  key : LastGives "SharedAccessKey" segments c.key
  entityPath : LastGives "EntityPath" segments c.entityPath

/-- What segments are read as. -/
structure Follows (segments : List (List Char)) (outcome : Except Error ConnectionString) :
    Prop where
  /-- They are a connection string if and only if each has an equals sign, every endpoint has a
  host, also one that a later endpoint replaces, and there is an endpoint. -/
  accepted : (∃ c, outcome = .ok c) ↔
    (∀ segment ∈ segments, '=' ∈ segment) ∧
    (∀ segment ∈ segments, ∀ endpoint, Gives "Endpoint" segment endpoint →
      ∃ host, endpointHost endpoint = .ok host) ∧
    ∃ segment ∈ segments, ∃ endpoint, Gives "Endpoint" segment endpoint
  parts : ∀ c, outcome = .ok c → Parts segments c
  /-- They are refused for the first one with something wrong, or for having no endpoint when
  there is nothing wrong with any. -/
  refused : ∀ e, outcome = .error e ↔
    (∃ cause, FirstOffends segments cause ∧ e = .configuration cause) ∨
    ((∀ segment ∈ segments, Sound segment) ∧
      (∀ segment ∈ segments, ∀ endpoint, ¬ Gives "Endpoint" segment endpoint) ∧
      e = .configuration .missingEndpoint)

section Follows

variable {segments : List (List Char)} {d : Draft} {cause : Misconfiguration}

theorem FirstOffends.not_sound (h : FirstOffends segments cause) :
    ¬ ∀ segment ∈ segments, Sound segment := by
  obtain ⟨before, segment, after, rfl, -, hoffends⟩ := h
  exact fun hall => hoffends.not_sound (hall segment (List.mem_append_right _ List.mem_cons_self))

/-- Only one thing is the first that is wrong. -/
theorem FirstOffends.unique {cause' : Misconfiguration} (h : FirstOffends segments cause)
    (h' : FirstOffends segments cause') : cause = cause' := by
  have herror := (foldlM_of_firstOffends h).symm.trans (foldlM_of_firstOffends h')
  exact Error.configuration.inj (Except.error.inj herror)

theorem FirstOffends.follows (h : FirstOffends segments cause) :
    Follows segments (.error (.configuration cause)) where
  accepted := iff_of_false (fun ⟨_, hc⟩ => nomatch hc) fun ⟨hequals, hhost, _⟩ =>
    h.not_sound fun segment hmem => ⟨hequals segment hmem, hhost segment hmem⟩
  parts _ hc := nomatch hc
  refused e := by
    constructor
    · intro he
      exact .inl ⟨cause, h, (Except.error.inj he).symm⟩
    · rintro (⟨cause', h', rfl⟩ | ⟨hall, -⟩)
      · rw [h.unique h']
      · exact absurd hall h.not_sound

/-- Without an endpoint the segments are refused for that. -/
theorem follows_of_not_gives (hsound : ∀ segment ∈ segments, Sound segment)
    (hnone : ∀ segment ∈ segments, ∀ endpoint, ¬ Gives "Endpoint" segment endpoint) :
    Follows segments (.error (.configuration .missingEndpoint)) where
  accepted := iff_of_false (fun ⟨_, hc⟩ => nomatch hc)
    fun ⟨_, _, segment, hmem, endpoint, hgives⟩ => hnone segment hmem endpoint hgives
  parts _ hc := nomatch hc
  refused e := by
    constructor
    · intro he
      exact .inr ⟨hsound, hnone, (Except.error.inj he).symm⟩
    · rintro (⟨cause, hfirst, -⟩ | ⟨-, -, rfl⟩)
      · exact absurd hsound hfirst.not_sound
      · rfl

/-- With an endpoint they are the connection string of their parts. -/
theorem Parts.follows {c : ConnectionString} (h : Parts segments c)
    (hsound : ∀ segment ∈ segments, Sound segment) : Follows segments (.ok c) := by
  have hsome : ∃ segment ∈ segments, ∃ endpoint, Gives "Endpoint" segment endpoint := by
    obtain ⟨endpoint, hlast, -⟩ := h.host
    obtain ⟨segment, hmem, hgives⟩ := hlast.exists_gives
    exact ⟨segment, hmem, endpoint, hgives⟩
  refine ⟨iff_of_true ⟨c, rfl⟩ ⟨?_, ?_, hsome⟩, fun c' hc => ?_, fun e => ?_⟩
  · exact fun segment hmem => (hsound segment hmem).equals
  · exact fun segment hmem => (hsound segment hmem).host
  · rwa [← Except.ok.inj hc]
  · refine iff_of_false (fun he => nomatch he) ?_
    rintro (⟨cause, hfirst, -⟩ | ⟨-, hnone, -⟩)
    · exact hfirst.not_sound hsound
    · obtain ⟨segment, hmem, endpoint, hgives⟩ := hsome
      exact hnone segment hmem endpoint hgives

theorem Gathered.follows (h : Gathered segments d) : Follows segments d.finish := by
  obtain ⟨endpoint, hlast, hhost⟩ := h.host
  unfold Draft.finish
  cases hd : d.host with
  | none =>
    obtain rfl : endpoint = none := by simpa [hd] using hhost
    exact follows_of_not_gives h.sound hlast.not_gives
  | some host =>
    rw [hd] at hhost
    obtain ⟨endpoint, rfl, hvalue⟩ := Option.map_eq_some_iff.1 hhost
    exact Parts.follows ⟨⟨endpoint, hlast, hvalue⟩, h.keyName, h.key, h.entityPath⟩ h.sound

end Follows

theorem follows_parse (text : String) : Follows (segments text.toList) (parse text) := by
  obtain hsound | ⟨cause, hfirst⟩ := sound_or_firstOffends (segments text.toList)
  · obtain ⟨d, hfold, hd⟩ := gathered_blank.foldlM hsound
    rw [parse, hfold]
    exact hd.follows
  · rw [parse, foldlM_of_firstOffends hfirst]
    exact hfirst.follows

/-- **The parser accepts exactly the grammar of connection strings.** A text is cut at every
semicolon, the pieces are trimmed, and those that are left are read as `Follows` says. -/
theorem parse_follows_grammar (text : String) : ∃ pieces : List (List Char),
    Text.join [';'] pieces = text.toList ∧ (∀ piece ∈ pieces, ';' ∉ piece) ∧
      Follows ((pieces.map Text.trim).filter (· ≠ [])) (parse text) :=
  ⟨Text.cut ';' text.toList, Text.join_cut _ _, fun _ => Text.not_mem_of_mem_cut,
    follows_parse text⟩

end ConnectionString
end MessageBus
