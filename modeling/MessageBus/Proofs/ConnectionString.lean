/-
# Connection strings that read back

Rendering escapes nothing, so a connection string comes back from its text only
if none of its parts holds a semicolon or has a blank at either end. What the
parser gives always is such a connection string; rendering one gives a segment
for each of its parts, and the segments are read in turn.

Key definitions: `ConnectionString.Carried`, `ConnectionString.Carries`,
`ConnectionString.rendered`.
Key theorems: `ConnectionString.carries_of_parse`, `ConnectionString.segments_render`,
`ConnectionString.parse_render`, `ConnectionString.parse_render_iff`.
-/
import MessageBus.ConnectionString
import MessageBus.Proofs.Text
import MessageBus.Proofs.Text.Blank

namespace MessageBus
namespace ConnectionString

/-! ### What a segment can carry -/

/-- A value that a segment carries unchanged. -/
structure Carried (value : String) : Prop where
  unbroken : ';' ∉ value.toList
  trimmed : Text.trim value.toList = value.toList

/-- The parts that were given can be carried by segments. -/
def Draft.Carries (d : Draft) : Prop :=
  ∀ part ∈ [d.keyName, d.key, d.entityPath], ∀ value ∈ part, Carried value

/-- The parts that are present can be carried by segments. -/
def Carries (c : ConnectionString) : Prop :=
  ∀ part ∈ [c.keyName, c.key, c.entityPath], ∀ value ∈ part, Carried value

theorem carried_empty : Carried "" := ⟨by decide, rfl⟩

/-- Equals signs make no difference to what a segment can carry. -/
theorem Carried.equals {a b : String} (ha : Carried a) (hb : Carried b) :
    Carried (a ++ "=" ++ b) where
  unbroken := by
    simp only [String.toList_append, List.mem_append, not_or]
    exact ⟨⟨ha.unbroken, by decide⟩, hb.unbroken⟩
  trimmed := by
    have hequals : Text.Trimmed "=".toList := Text.trim_eq_self_iff.1 (by decide)
    rw [String.toList_append, String.toList_append]
    exact Text.trim_eq_self_iff.2 <|
      ((Text.trim_eq_self_iff.1 ha.trimmed).append hequals).append
        (Text.trim_eq_self_iff.1 hb.trimmed)

/-- What is left of an unbroken text after trimming can be carried. -/
theorem carried_trim {text : List Char} (h : ';' ∉ text) :
    Carried (String.ofList (Text.trim text)) where
  unbroken := by
    rw [String.toList_ofList]
    exact fun hmem => h (Text.mem_of_mem_trim hmem)
  trimmed := by rw [String.toList_ofList, Text.trim_trim]

/-! ### What the parser gives -/

theorem carries_blank : Draft.blank.Carries := by
  simp [Draft.Carries, Draft.blank]

section Draft

variable {d d' : Draft}

theorem Draft.Carries.set {key value : String} (h : d.Carries) (hv : Carried value)
    (hset : d.set key value = .ok d') : d'.Carries := by
  unfold Draft.set at hset
  unfold Draft.Carries at h ⊢
  simp only [List.forall_mem_cons] at h ⊢
  split at hset
  · cases hhost : endpointHost value with
    | error e =>
      rw [hhost] at hset
      cases hset
    | ok host =>
      rw [hhost] at hset
      cases hset
      exact h
  · split at hset
    · cases hset
      exact ⟨fun v hv' => Option.mem_some.1 hv' ▸ hv, h.2⟩
    · split at hset
      · cases hset
        exact ⟨h.1, fun v hv' => Option.mem_some.1 hv' ▸ hv, h.2.2⟩
      · split at hset
        · cases hset
          exact ⟨h.1, h.2.1, fun v hv' => Option.mem_some.1 hv' ▸ hv, h.2.2.2⟩
        · cases hset
          exact h

/-- A segment without semicolons gives a value that can be carried. -/
theorem Draft.Carries.apply {segment : List Char} (h : d.Carries) (hs : ';' ∉ segment)
    (happly : d.apply segment = .ok d') : d'.Carries := by
  unfold Draft.apply at happly
  cases hcut : Text.cutOnce '=' segment with
  | none =>
    rw [hcut] at happly
    cases happly
  | some pair =>
    obtain ⟨key, value⟩ := pair
    rw [hcut] at happly
    have hvalue : ';' ∉ value := fun hmem =>
      hs (Text.cutOnce_eq_some hcut ▸ List.mem_append_right _ (List.mem_cons_of_mem _ hmem))
    exact h.set (carried_trim hvalue) happly

theorem Draft.Carries.foldlM : ∀ {segments : List (List Char)} {d d' : Draft}, d.Carries →
    (∀ segment ∈ segments, ';' ∉ segment) → segments.foldlM Draft.apply d = .ok d' → d'.Carries
  | [], _, _, h, _, hfold => by
    cases hfold
    exact h
  | segment :: segments, d, d', h, hs, hfold => by
    rw [List.foldlM_cons] at hfold
    cases happly : d.apply segment with
    | error e =>
      rw [happly] at hfold
      cases hfold
    | ok next =>
      rw [happly] at hfold
      exact (h.apply (hs segment List.mem_cons_self) happly).foldlM
        (fun s hmem => hs s (List.mem_cons_of_mem _ hmem)) hfold

end Draft

theorem not_mem_of_mem_segments {text segment : List Char} (h : segment ∈ segments text) :
    ';' ∉ segment := by
  obtain ⟨piece, hpiece, rfl⟩ := List.mem_map.1 (List.mem_of_mem_filter h)
  exact fun hmem => Text.not_mem_of_mem_cut hpiece (Text.mem_of_mem_trim hmem)

/-- **Whatever the parser gives, its parts can be carried by segments.** -/
theorem carries_of_parse {text : String} {c : ConnectionString} (h : parse text = .ok c) :
    c.Carries := by
  unfold parse at h
  cases hfold : (segments text.toList).foldlM Draft.apply Draft.blank with
  | error e =>
    rw [hfold] at h
    cases h
  | ok d =>
    rw [hfold] at h
    have hd : d.Carries := carries_blank.foldlM (fun _ => not_mem_of_mem_segments) hfold
    change d.finish = .ok c at h
    unfold Draft.finish at h
    split at h
    · cases h
    · cases h
      exact hd

/-! ### Reading what was rendered -/

/-- The segment of a part, when the part is present. -/
def renderedPart (key : String) : Option String → List (List Char)
  | none => []
  | some value => [(key ++ "=" ++ value).toList]

/-- The segments that a connection string is rendered as. -/
def rendered (c : ConnectionString) : List (List Char) :=
  ("Endpoint" ++ "=" ++ ("sb://" ++ c.host ++ "/")).toList ::
    (renderedPart "SharedAccessKeyName" c.keyName ++ renderedPart "SharedAccessKey" c.key ++
      renderedPart "EntityPath" c.entityPath)

theorem toList_renderPart (key : String) (part : Option String) :
    (renderPart key part).toList = (renderedPart key part).flatMap ([';'] ++ ·) := by
  cases part with
  | none => rfl
  | some value => simp [renderPart, renderedPart]

theorem toList_render (c : ConnectionString) : c.render.toList = Text.join [';'] c.rendered := by
  have hendpoint : "Endpoint=sb://".toList = "Endpoint".toList ++ ("=".toList ++ "sb://".toList) :=
    rfl
  unfold rendered render
  rw [Text.join_cons, List.flatMap_append, List.flatMap_append, ← toList_renderPart,
    ← toList_renderPart, ← toList_renderPart]
  simp only [String.toList_append, List.append_assoc, hendpoint]

/-- A piece that the parser takes for a segment as it stands. -/
structure Intact (segment : List Char) : Prop where
  unbroken : ';' ∉ segment
  trimmed : Text.trim segment = segment
  filled : segment ≠ []

/-- A key and a value make such a piece. -/
theorem intact_segment {key value : String} (hkey : Carried key) (hv : Carried value) :
    Intact (key ++ "=" ++ value).toList where
  unbroken := (hkey.equals hv).unbroken
  trimmed := (hkey.equals hv).trimmed
  filled := by simp

theorem intact_renderedPart {key : String} {part : Option String} (hkey : Carried key)
    (hpart : ∀ value ∈ part, Carried value) : ∀ segment ∈ renderedPart key part, Intact segment := by
  cases part with
  | none => exact fun _ hmem => absurd hmem List.not_mem_nil
  | some value =>
    intro segment hmem
    rw [List.mem_singleton.1 hmem]
    exact intact_segment hkey (hpart value rfl)

theorem segments_join {pieces : List (List Char)} (hne : pieces ≠ [])
    (h : ∀ piece ∈ pieces, Intact piece) : segments (Text.join [';'] pieces) = pieces := by
  have htrim : pieces.map Text.trim = pieces :=
    (List.map_congr_left fun piece hmem => (h piece hmem).trimmed).trans (List.map_id pieces)
  rw [segments, Text.cut_join hne fun piece hmem => (h piece hmem).unbroken, htrim]
  exact List.filter_eq_self.2 fun piece hmem => by simp [(h piece hmem).filled]

/-- An endpoint has no blank at its ends, whatever the host. -/
theorem carried_endpoint {host : String} (h : ';' ∉ host.toList) :
    Carried ("sb://" ++ host ++ "/") where
  unbroken := by
    simp only [String.toList_append, List.mem_append, not_or]
    exact ⟨⟨by decide, h⟩, by decide⟩
  trimmed := by
    have hscheme : Text.Trimmed "sb://".toList := Text.trim_eq_self_iff.1 (by decide)
    have hslash : Text.Trimmed "/".toList := Text.trim_eq_self_iff.1 (by decide)
    rw [String.toList_append, String.toList_append]
    exact Text.trim_eq_self_iff.2 (hscheme.around hslash (by decide) (by decide) host.toList)

section Render

variable {c : ConnectionString} (hhost : ';' ∉ c.host.toList) (hcarries : c.Carries)

include hhost hcarries

/-- **The segments of a rendered connection string are the endpoint and the parts.** -/
theorem segments_render : segments c.render.toList = c.rendered := by
  have hparts : ∀ part ∈ [c.keyName, c.key, c.entityPath], ∀ value ∈ part, Carried value := hcarries
  simp only [List.forall_mem_cons, List.not_mem_nil] at hparts
  obtain ⟨hname, hkey, hpath, -⟩ := hparts
  rw [toList_render]
  refine segments_join (List.cons_ne_nil _ _) fun piece hmem => ?_
  rcases List.mem_cons.1 hmem with rfl | hmem
  · exact intact_segment ⟨by decide, by decide⟩ (carried_endpoint hhost)
  · rcases List.mem_append.1 hmem with hmem | hmem
    · rcases List.mem_append.1 hmem with hmem | hmem
      · exact intact_renderedPart ⟨by decide, by decide⟩ hname piece hmem
      · exact intact_renderedPart ⟨by decide, by decide⟩ hkey piece hmem
    · exact intact_renderedPart ⟨by decide, by decide⟩ hpath piece hmem

end Render

section Keys

variable (d : Draft) (value : String)

/-- A key counts for what it is in lower case. -/
theorem set_of_foldCase {key key' : String} (h : Text.foldCase key = Text.foldCase key') :
    d.set key value = d.set key' value := by
  have hsame (known : String) :
      Text.sameIgnoringCase key known = Text.sameIgnoringCase key' known := by
    rw [Text.sameIgnoringCase, Text.sameIgnoringCase, h]
  simp only [Draft.set, hsame]

theorem set_endpoint : d.set "Endpoint" value =
    (endpointHost value).map fun host => { d with host := some host } := by
  unfold Draft.set
  rw [if_pos (by decide)]
  cases endpointHost value with
  | error e => rfl
  | ok host => rfl

theorem set_keyName : d.set "SharedAccessKeyName" value = .ok { d with keyName := some value } := by
  unfold Draft.set
  rw [if_neg (by decide), if_pos (by decide)]
  rfl

theorem set_key : d.set "SharedAccessKey" value = .ok { d with key := some value } := by
  unfold Draft.set
  rw [if_neg (by decide), if_neg (by decide), if_pos (by decide)]
  rfl

theorem set_entityPath : d.set "EntityPath" value = .ok { d with entityPath := some value } := by
  unfold Draft.set
  rw [if_neg (by decide), if_neg (by decide), if_neg (by decide), if_pos (by decide)]
  rfl

end Keys

section Apply

variable {key : String} (hkey : Carried key) (hequals : '=' ∉ key.toList)

include hkey hequals

/-- A segment gives its key what it carries, equals signs included. -/
theorem apply_segment (d : Draft) {value : String} (hv : Carried value) :
    d.apply (key ++ "=" ++ value).toList = d.set key value := by
  have hcut : Text.cutOnce '=' (key ++ "=" ++ value).toList = some (key.toList, value.toList) := by
    simpa using Text.cutOnce_append hequals
  rw [Draft.apply, hcut]
  simp only [hkey.trimmed, hv.trimmed, String.ofList_toList]

theorem foldlM_renderedPart {put : Draft → String → Draft}
    (hset : ∀ d value, Draft.set d key value = .ok (put d value)) (d : Draft) {part : Option String}
    (hpart : ∀ value ∈ part, Carried value) :
    (renderedPart key part).foldlM Draft.apply d = .ok (part.elim d (put d)) := by
  cases part with
  | none => rfl
  | some value =>
    rw [renderedPart, List.foldlM_cons, apply_segment hkey hequals d (hpart value rfl), hset]
    rfl

end Apply

/-- **A connection string of parts that segments carry is read from its text, with
the host that its endpoint has.** -/
theorem parse_render {c : ConnectionString} (hhost : ';' ∉ c.host.toList) (hcarries : c.Carries) :
    parse c.render =
      (endpointHost ("sb://" ++ c.host ++ "/")).map fun host => { c with host } := by
  have hparts : ∀ part ∈ [c.keyName, c.key, c.entityPath], ∀ value ∈ part, Carried value := hcarries
  simp only [List.forall_mem_cons, List.not_mem_nil] at hparts
  obtain ⟨hname, hkey, hpath, -⟩ := hparts
  rw [parse, segments_render hhost hcarries, rendered, List.foldlM_cons,
    apply_segment ⟨by decide, by decide⟩ (by decide) _ (carried_endpoint hhost), set_endpoint]
  cases endpointHost ("sb://" ++ c.host ++ "/") with
  | error e => rfl
  | ok host =>
    have hfold : (renderedPart "SharedAccessKeyName" c.keyName ++
        renderedPart "SharedAccessKey" c.key ++ renderedPart "EntityPath" c.entityPath).foldlM
          Draft.apply { Draft.blank with host := some host } =
        .ok ⟨some host, c.keyName, c.key, c.entityPath⟩ := by
      rw [List.foldlM_append, List.foldlM_append,
        foldlM_renderedPart ⟨by decide, by decide⟩ (by decide) set_keyName _ hname]
      show (renderedPart "SharedAccessKey" c.key).foldlM Draft.apply _ >>= _ = _
      rw [foldlM_renderedPart ⟨by decide, by decide⟩ (by decide) set_key _ hkey]
      show (renderedPart "EntityPath" c.entityPath).foldlM Draft.apply _ = _
      rw [foldlM_renderedPart ⟨by decide, by decide⟩ (by decide) set_entityPath _ hpath]
      cases c.keyName <;> cases c.key <;> cases c.entityPath <;> rfl
    show (List.foldlM Draft.apply _ _ >>= _) = _
    rw [hfold]
    rfl

/-- **A connection string reads back if and only if its endpoint has its host and
segments can carry its parts.** They carry any text without semicolons and
without blanks at its ends: the empty one, and any with equals signs. -/
theorem parse_render_iff {c : ConnectionString} (hhost : ';' ∉ c.host.toList) :
    (parse c.render = .ok c ↔
      endpointHost ("sb://" ++ c.host ++ "/") = .ok c.host ∧
        ∀ part ∈ [c.keyName, c.key, c.entityPath], ∀ value ∈ part,
          ';' ∉ value.toList ∧ Text.trim value.toList = value.toList) ∧
      Carried "" ∧ ∀ a b, Carried a → Carried b → Carried (a ++ "=" ++ b) := by
  refine ⟨⟨fun h => ?_, fun ⟨hendpoint, hparts⟩ => ?_⟩, carried_empty, fun _ _ => .equals⟩
  · have hcarries := carries_of_parse h
    have hendpoint : endpointHost ("sb://" ++ c.host ++ "/") = .ok c.host := by
      rw [parse_render hhost hcarries] at h
      cases hparsed : endpointHost ("sb://" ++ c.host ++ "/") with
      | error e =>
        rw [hparsed] at h
        cases h
      | ok host =>
        rw [hparsed] at h
        exact congrArg (·.map ConnectionString.host) h
    exact ⟨hendpoint, fun part hpart value hv =>
      ⟨(hcarries part hpart value hv).unbroken, (hcarries part hpart value hv).trimmed⟩⟩
  · have hcarries : c.Carries := fun part hpart value hv =>
      ⟨(hparts part hpart value hv).1, (hparts part hpart value hv).2⟩
    rw [parse_render hhost hcarries, hendpoint]
    rfl

/-- A connection string without a policy, with a padded key and an empty path. -/
def padded : ConnectionString := ⟨"contoso", none, some "c2VjcmV0PQ==", some ""⟩

theorem parse_render_iff_padded : ';' ∉ padded.host.toList ∧ parse padded.render = .ok padded := by
  have hhost : ';' ∉ padded.host.toList := by decide
  have hendpoint : endpointHost ("sb://" ++ padded.host ++ "/") = .ok padded.host := by decide
  exact ⟨hhost, (parse_render_iff hhost).1.2 ⟨hendpoint, by decide⟩⟩

end ConnectionString
end MessageBus
