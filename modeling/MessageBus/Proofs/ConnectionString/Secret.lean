/-
# Reading past the key

The parser never looks at the value of a shared access key: it keeps the value
and goes on. So two texts that differ in nothing but such values are both read,
and the connection strings differ in nothing but the key, or both are refused
with the same error.

Key definitions: `ConnectionString.SameButKey`, `ConnectionString.SegmentAlike`,
`ConnectionString.TextAlike`, `ConnectionString.rekey`.
Key theorems: `ConnectionString.Draft.SameButKey.apply`,
`ConnectionString.sameOutcome_parse`, `ConnectionString.cut_rekey`,
`ConnectionString.parse_rekey`.
-/
import Mathlib.Data.List.Forall2
import MessageBus.Proofs.ConnectionString
import MessageBus.Proofs.Outcome

namespace MessageBus

namespace ConnectionString

/-! ### What may differ -/

/-- Two connection strings that differ at most in the value of the key. -/
structure SameButKey (c c' : ConnectionString) : Prop where
  host : c.host = c'.host
  keyName : c.keyName = c'.keyName
  key : c.key.isSome = c'.key.isSome
  entityPath : c.entityPath = c'.entityPath

/-- Two drafts that differ at most in the value of the key. -/
structure Draft.SameButKey (d d' : Draft) : Prop where
  host : d.host = d'.host
  keyName : d.keyName = d'.keyName
  key : d.key.isSome = d'.key.isSome
  entityPath : d.entityPath = d'.entityPath

/-- What stands before the first equals sign of a segment that gives the key. -/
structure NamesKey (name : List Char) : Prop where
  unbroken : '=' ∉ name
  same : Text.sameIgnoringCase (String.ofList (Text.trim name)) "SharedAccessKey" = true

/-- Two segments are the same, or both give the key, perhaps another value. -/
inductive SegmentAlike : List Char → List Char → Prop
  | same (segment : List Char) : SegmentAlike segment segment
  | key {name : List Char} (h : NamesKey name) (value value' : List Char) :
    SegmentAlike (name ++ '=' :: value) (name ++ '=' :: value')

/-- Two texts that differ at most in the values of keys. -/
def TextAlike (text text' : String) : Prop :=
  List.Forall₂ SegmentAlike (Text.cut ';' text.toList) (Text.cut ';' text'.toList)

/-! ### Segments -/

theorem NamesKey.trimStart {name : List Char} (h : NamesKey name) :
    NamesKey (Text.trimStartWhere Text.isBlank name) where
  unbroken hmem := h.unbroken ((List.dropWhile_suffix _).subset hmem)
  same := by rw [Text.trim_trimStartWhere, h.same]

theorem SegmentAlike.trim {segment segment' : List Char} (h : SegmentAlike segment segment') :
    SegmentAlike (Text.trim segment) (Text.trim segment') := by
  cases h with
  | same => exact .same _
  | key hname value value' =>
    have hequals : Text.isBlank '=' = false := by decide
    rw [Text.trim_append_cons hequals, Text.trim_append_cons hequals]
    exact .key hname.trimStart _ _

/-- A segment that gives a key is not blank, so none is passed over for its value. -/
theorem SegmentAlike.nil_iff {segment segment' : List Char} (h : SegmentAlike segment segment') :
    segment = [] ↔ segment' = [] := by
  cases h with
  | same => rfl
  | key _ value value' => simp

theorem TextAlike.segments {text text' : String} (h : TextAlike text text') :
    List.Forall₂ SegmentAlike (segments text.toList) (segments text'.toList) := by
  have htrim : List.Forall₂ SegmentAlike ((Text.cut ';' text.toList).map Text.trim)
      ((Text.cut ';' text'.toList).map Text.trim) :=
    List.forall₂_map_left_iff.2 <| List.forall₂_map_right_iff.2 <|
      h.imp fun _ _ hsegment => hsegment.trim
  refine List.rel_filter (fun segment segment' hsegment => ?_) htrim
  simpa using not_congr hsegment.nil_iff

/-! ### Reading -/

theorem NamesKey.set {name : List Char} (h : NamesKey name) (d : Draft) (value : String) :
    d.set (String.ofList (Text.trim name)) value = .ok { d with key := some value } := by
  rw [set_of_foldCase d value (Text.sameIgnoringCase_iff.1 h.same), set_key]

namespace Draft.SameButKey

variable {d d' : Draft} (h : d.SameButKey d')

include h

/-- Giving any key the same value leaves two drafts alike. -/
theorem set (key value : String) :
    SameOutcome Draft.SameButKey (d.set key value) (d'.set key value) := by
  unfold Draft.set
  split
  · cases endpointHost value with
    | error e => exact .error e
    | ok host => exact .ok { h with host := rfl }
  · split
    · exact .ok { h with keyName := rfl }
    · split
      · exact .ok { h with key := rfl }
      · split
        · exact .ok { h with entityPath := rfl }
        · exact .ok h

/-- **One segment leaves two drafts alike**, also when it gives each of them a key of its own. -/
theorem apply {segment segment' : List Char} (hsegment : SegmentAlike segment segment') :
    SameOutcome Draft.SameButKey (d.apply segment) (d'.apply segment') := by
  cases hsegment with
  | same =>
    unfold Draft.apply
    split
    · exact .error _
    · exact h.set _ _
  | key hname value value' =>
    unfold Draft.apply
    rw [Text.cutOnce_append hname.unbroken, Text.cutOnce_append hname.unbroken]
    simp only [hname.set]
    exact .ok { h with key := rfl }

omit h in
theorem foldlM {segments segments' : List (List Char)}
    (hsegments : List.Forall₂ SegmentAlike segments segments') :
    ∀ {d d' : Draft}, d.SameButKey d' → SameOutcome Draft.SameButKey
      (segments.foldlM Draft.apply d) (segments'.foldlM Draft.apply d') := by
  induction hsegments with
  | nil => exact fun h => .ok h
  | cons hsegment _ ih =>
    intro d d' h
    rw [List.foldlM_cons, List.foldlM_cons]
    exact (h.apply hsegment).bind fun _ _ => ih

theorem finish : SameOutcome ConnectionString.SameButKey d.finish d'.finish := by
  unfold Draft.finish
  rw [h.host]
  cases d'.host with
  | none => exact .error _
  | some host => exact .ok ⟨rfl, h.keyName, h.key, h.entityPath⟩

end Draft.SameButKey

/-- **Texts that differ at most in the values of keys are refused with the same error, or
are read as connection strings that differ at most in the key.** -/
theorem sameOutcome_parse {text text' : String} (h : TextAlike text text') :
    SameOutcome SameButKey (parse text) (parse text') := by
  have hblank : Draft.blank.SameButKey Draft.blank := ⟨rfl, rfl, rfl, rfl⟩
  exact (Draft.SameButKey.foldlM h.segments hblank).bind fun _ _ hdraft => hdraft.finish

/-! ### Other values for the keys -/

/-- What stands before the equals sign of a piece that gives the key. -/
def keyFront? (piece : List Char) : Option (List Char) :=
  match Text.cutOnce '=' piece with
  | none => none
  | some (front, _) =>
    if Text.sameIgnoringCase (String.ofList (Text.trim front)) "SharedAccessKey" then some front
    else none

/-- A piece with another value for the key, if it gives the key. -/
def rekeyPiece (value : String) (piece : List Char) : List Char :=
  match keyFront? piece with
  | none => piece
  | some front => front ++ '=' :: value.toList

/-- A text in which every piece that gives the key has another value for it: the piece at a
place between the semicolons has the value for that place. -/
def rekey (values : Nat → String) (text : String) : String :=
  String.ofList <| Text.join [';'] <|
    (Text.cut ';' text.toList).mapIdx fun place piece => rekeyPiece (values place) piece

section Rekey

variable {piece : List Char} {values : Nat → String}

theorem keyFront?_eq_some_iff {front : List Char} : keyFront? piece = some front ↔
    NamesKey front ∧ ∃ value, piece = front ++ '=' :: value := by
  unfold keyFront?
  constructor
  · intro h
    cases hcut : Text.cutOnce '=' piece with
    | none =>
      rw [hcut] at h
      cases h
    | some pair =>
      obtain ⟨name, value⟩ := pair
      rw [hcut] at h
      by_cases hsame : Text.sameIgnoringCase (String.ofList (Text.trim name)) "SharedAccessKey" = true
      · obtain rfl : name = front := by simpa [hsame] using h
        exact ⟨⟨Text.not_mem_of_cutOnce hcut, hsame⟩, value, Text.cutOnce_eq_some hcut⟩
      · simp [hsame] at h
  · rintro ⟨hname, value, rfl⟩
    rw [Text.cutOnce_append hname.unbroken]
    exact if_pos hname.same

/-- **The front of a piece that gives the key stays, and so does every other piece.** -/
theorem rekeyPiece_cases (value : String) (piece : List Char) :
    (∃ front old, NamesKey front ∧ piece = front ++ '=' :: old ∧
      rekeyPiece value piece = front ++ '=' :: value.toList) ∨
    (∀ front old, NamesKey front → piece ≠ front ++ '=' :: old) ∧
      rekeyPiece value piece = piece := by
  unfold rekeyPiece
  cases hfront : keyFront? piece with
  | none =>
    refine .inr ⟨fun front old hname hpiece => ?_, rfl⟩
    rw [keyFront?_eq_some_iff.2 ⟨hname, old, hpiece⟩] at hfront
    cases hfront
  | some front =>
    obtain ⟨hname, old, hpiece⟩ := keyFront?_eq_some_iff.1 hfront
    exact .inl ⟨front, old, hname, hpiece, rfl⟩

theorem segmentAlike_rekeyPiece (value : String) (piece : List Char) :
    SegmentAlike piece (rekeyPiece value piece) := by
  obtain ⟨front, old, hname, hpiece, hrekeyed⟩ | ⟨-, hrekeyed⟩ := rekeyPiece_cases value piece
  · rw [hrekeyed, hpiece]
    exact .key hname old value.toList
  · rw [hrekeyed]
    exact .same piece

theorem not_mem_rekeyPiece {value : String} (hpiece : ';' ∉ piece) (hvalue : ';' ∉ value.toList) :
    ';' ∉ rekeyPiece value piece := by
  obtain ⟨front, old, -, rfl, hrekeyed⟩ | ⟨-, hrekeyed⟩ := rekeyPiece_cases value piece
  · rw [hrekeyed]
    simp only [List.mem_append, List.mem_cons, not_or] at hpiece ⊢
    exact ⟨hpiece.1, hpiece.2.1, hvalue⟩
  · rwa [hrekeyed]

/-- Values without semicolons leave the pieces apart. -/
theorem cut_rekey (h : ∀ place, ';' ∉ (values place).toList) (text : String) :
    Text.cut ';' (rekey values text).toList =
      (Text.cut ';' text.toList).mapIdx fun place piece => rekeyPiece (values place) piece := by
  rw [rekey, String.toList_ofList, Text.cut_join]
  · simpa using Text.cut_ne_nil ';' text.toList
  · intro piece hmem
    obtain ⟨place, hplace, rfl⟩ := List.mem_mapIdx.1 hmem
    exact not_mem_rekeyPiece (Text.not_mem_of_mem_cut (List.getElem_mem hplace)) (h place)

theorem textAlike_rekey (h : ∀ place, ';' ∉ (values place).toList) (text : String) :
    TextAlike text (rekey values text) := by
  unfold TextAlike
  rw [cut_rekey h, List.forall₂_iff_get]
  refine ⟨by simp, fun place hplace hplace' => ?_⟩
  simpa using segmentAlike_rekeyPiece (values place) (Text.cut ';' text.toList)[place]

end Rekey

/-- **What is refused, and why, does not depend on the values of keys, nor does any part but
the key of what is read.** -/
theorem parse_rekey {values : Nat → String} (h : ∀ place, ';' ∉ (values place).toList)
    (text : String) :
    (∃ e, parse text = .error e ∧ parse (rekey values text) = .error e) ∨
      ∃ c key, parse text = .ok c ∧ parse (rekey values text) = .ok { c with key := key } ∧
        key.isSome = c.key.isSome := by
  have hsame := sameOutcome_parse (textAlike_rekey h text)
  generalize parse text = outcome at hsame ⊢
  generalize parse (rekey values text) = outcome' at hsame ⊢
  cases hsame with
  | error e => exact .inl ⟨e, rfl, rfl⟩
  | @ok c c' hc =>
    obtain ⟨host, keyName, key, entityPath⟩ := c
    obtain ⟨host', keyName', key', entityPath'⟩ := c'
    obtain ⟨rfl, rfl, hkey, rfl⟩ := hc
    exact .inr ⟨_, key', rfl, rfl, hkey.symm⟩

/-- A text with two keys, and an endpoint that it is refused for. -/
def keyedText : String := "Endpoint=nowhere; sharedACCESSkey = pass ;SharedAccessKey="

/-- An endpoint as the first of them, and an equals sign as the second. -/
def otherKeys : Nat → String
  | 1 => "Endpoint=sb://contoso/"
  | _ => "="

theorem parse_rekey_keyed : (∀ place, ';' ∉ (otherKeys place).toList) ∧
    parse (rekey otherKeys keyedText) =
      .error (.configuration (.badEndpoint "nowhere" .relative)) := by
  have hkeys : ∀ place, ';' ∉ (otherKeys place).toList := by
    intro place
    unfold otherKeys
    split <;> decide
  have hparse : parse keyedText = .error (.configuration (.badEndpoint "nowhere" .relative)) := by
    decide +kernel
  refine ⟨hkeys, ?_⟩
  obtain ⟨e, he, hrekeyed⟩ | ⟨c, key, hc, -⟩ := parse_rekey hkeys keyedText
  · rw [hrekeyed, ← he, hparse]
  · rw [hparse] at hc
    cases hc

end ConnectionString
end MessageBus
