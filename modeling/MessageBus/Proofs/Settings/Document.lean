/-
# Settings documents

The document of settings reads back as the same settings, apart from what a
document does not hold: the proxy, and a multiplier that is no finite number.

Key definitions: `Settings.restored`, `Settings.FiniteMultiplier`, `Restores`.
Key theorem: `ofJson_toJson`.
-/
import MessageBus.Proofs.Json.Codec
import MessageBus.Settings.Document

namespace MessageBus
namespace Settings

/-- The settings without what their document leaves out. -/
def restored (s : Settings) : Settings :=
  { s with proxy := none, backOffMultiplier := s.backOffMultiplier.filter Number.isFinite }

/-- The multiplier, if there is one, is neither infinite nor not a number. -/
def FiniteMultiplier (s : Settings) : Prop :=
  ∀ x, s.backOffMultiplier = some x → Number.isFinite x = true

theorem restored_of_finiteMultiplier {s : Settings} (h : s.FiniteMultiplier) :
    s.restored = { s with proxy := none } := by
  have hkept : s.backOffMultiplier.filter Number.isFinite = s.backOffMultiplier := by
    cases hx : s.backOffMultiplier with
    | none => rfl
    | some x => rw [Option.filter_some, if_pos (h x hx)]
  rw [restored, hkept]

/-! ### Fields -/

/-- The fields of `s` are read one after the other, taking the settings `t` to `t'`. -/
inductive Restores (s : Settings) : List Field → Settings → Settings → Prop
  | nil (t : Settings) : Restores s [] t t
  | cons {field : Field} {later : List Field} {t t' t'' : Settings}
      (hread : ∀ rest, Json.EndsValue rest →
        field.read t (field.write s ++ rest) = .ok (t', rest))
      (hlater : Restores s later t' t'') : Restores s (field :: later) t t''

/-- A field is read back when its codec reads back what the settings have for it. -/
theorem Field.of_read {α : Type} {name : String} {codec : Json.Codec α} {get : Settings → α}
    {set : Settings → α → Settings} {s : Settings} {value : α}
    (h : ∀ rest, Json.EndsValue rest →
      codec.read (codec.write (get s) ++ rest) = .ok (value, rest)) (t : Settings)
    (rest : List Char) (hr : Json.EndsValue rest) :
    (Field.of name codec get set).read t ((Field.of name codec get set).write s ++ rest) =
      .ok (set t value, rest) := by
  simp only [Field.of, h rest hr]
  rfl

theorem find?_field : ∀ {known : List Field} {field : Field},
    (known.map Field.name).Nodup → field ∈ known →
      (known.find? fun other => other.name == field.name) = some field
  | first :: known, field, hn, hf => by
    rw [List.map_cons, List.nodup_cons] at hn
    rcases List.mem_cons.1 hf with rfl | hf
    · simp
    · have hne : first.name ≠ field.name := by
        intro heq
        exact hn.1 (heq ▸ List.mem_map_of_mem hf)
      rw [List.find?_cons_of_neg (by simpa using hne), find?_field hn.2 hf]

theorem nodup_fieldNames : fieldNames.Nodup := by
  decide

/-- Members named for distinct fields that have not been seen are taken in turn. -/
theorem Restores.absorbs {s : Settings} {later : List Field} {t t' : Settings}
    (h : Restores s later t t') : ∀ seen : List String, (∀ field ∈ later, field ∈ fields) →
      (later.map Field.name).Nodup → (∀ field ∈ later, field.name ∉ seen) →
        ∃ seen', Json.Absorbs readMember ⟨t, seen⟩
          (later.map fun field => (field.name, field.write s)) ⟨t', seen'⟩ := by
  induction h with
  | nil t => exact fun seen _ _ _ => ⟨seen, .nil _⟩
  | @cons field later t t' t'' hread _ ih =>
    intro seen hknown hnodup hseen
    rw [List.map_cons, List.nodup_cons] at hnodup
    have hfresh : ∀ other ∈ later, other.name ∉ field.name :: seen := by
      intro other ho hmem
      rcases List.mem_cons.1 hmem with heq | hmem
      · exact hnodup.1 (heq ▸ List.mem_map_of_mem ho)
      · exact hseen other (List.mem_cons_of_mem _ ho) hmem
    obtain ⟨seen', hlater⟩ := ih (field.name :: seen)
      (fun other ho => hknown other (List.mem_cons_of_mem _ ho)) hnodup.2 hfresh
    have hfind := find?_field nodup_fieldNames (hknown field List.mem_cons_self)
    have hname : readMember field.name ⟨t, seen⟩ = .ok fun text =>
        (field.read t text).map fun read => (⟨read.1, field.name :: seen⟩, read.2) := by
      simp only [readMember, hfind, if_neg (hseen field List.mem_cons_self)]
    refine ⟨seen', .cons hname (fun rest hr => ?_) hlater⟩
    rw [hread rest hr]
    rfl

/-! ### Documents -/

theorem mergeActionCodec_roundTrips (action : MergeAction) :
    mergeActionCodec.RoundTrips action := by
  cases action with
  | replace => exact Json.choice_roundTrips rfl rfl
  | add => exact Json.choice_roundTrips rfl rfl
  | ignore => exact Json.choice_roundTrips rfl rfl

theorem opens_mergeActionCodec (action : MergeAction) :
    Json.Opens (mergeActionCodec.write action) := by
  cases action with
  | replace => exact Json.opens_writeString "REPLACE"
  | add => exact Json.opens_writeString "ADD"
  | ignore => exact Json.opens_writeString "IGNORE"

/-- A multiplier comes back, or comes back absent when it is not finite. -/
theorem multiplier_read {x : Option Float}
    (h : ∀ y, x = some y → Number.isFinite y = true → Json.ReadsBack y) (rest : List Char)
    (hr : Json.EndsValue rest) :
    (Json.optional Json.float).read ((Json.optional Json.float).write x ++ rest) =
      .ok (x.filter Number.isFinite, rest) := by
  cases x with
  | none => rfl
  | some y =>
    cases hy : Number.isFinite y with
    | true =>
      have hback := h y rfl hy
      rw [Json.optional_some_roundTrips (Json.float_roundTrips hback) hback.opens rest hr,
        Option.filter_some, if_pos hy]
    | false =>
      have hnull : (Json.optional Json.float).write (some y) = ['n', 'u', 'l', 'l'] :=
        Json.writeFloat_of_not_isFinite hy
      rw [hnull, Option.filter_some, hy]
      rfl

section Document

variable {s : Settings}

/-- All fields together restore the settings from the defaults. -/
theorem restores_fields
    (h : ∀ x, s.backOffMultiplier = some x → Number.isFinite x = true → Json.ReadsBack x) :
    Restores s fields {} s.restored := by
  have hword (v : Option UInt64) :=
    Json.optional_roundTrips Json.word64_roundTrips (fun n => Json.opens_writeInt n.toNat) v
  have hcount (v : Option Int32) :=
    Json.optional_roundTrips Json.signed32_roundTrips (fun n => Json.opens_writeInt n.toInt) v
  have htruth (v : Option Bool) :=
    Json.optional_roundTrips Json.boolean_roundTrips Json.opens_boolean v
  have hoptions : (Json.dictionary Json.text).RoundTrips s.options :=
    Json.dictionary_roundTrips fun e _ => Json.textAs_roundTrips "a string" e.2
  have hhosts (v : Option (List String)) : (Json.optional (Json.list Json.text)).RoundTrips v :=
    Json.optional_roundTrips
      (fun hosts => Json.list_roundTrips fun host _ =>
        ⟨Json.textAs_roundTrips "a string" host, Json.opens_writeString host⟩)
      (fun _ => ⟨'[', _, rfl, by decide, by decide, by decide⟩) v
  have haction (v : Option MergeAction) :=
    Json.optional_roundTrips mergeActionCodec_roundTrips opens_mergeActionCodec v
  exact .cons (Field.of_read (Json.word64_roundTrips s.idleTimeout) _) <|
    .cons (Field.of_read (Json.boolean_roundTrips s.traceFrames) _) <|
    .cons (Field.of_read (Json.word64_roundTrips s.queueIdleLife) _) <|
    .cons (Field.of_read (Json.word64_roundTrips s.topicIdleLife) _) <|
    .cons (Field.of_read (Json.word64_roundTrips s.subscriberIdleLife) _) <|
    .cons (Field.of_read hoptions _) <|
    .cons (Field.of_read (Json.boolean_roundTrips s.shouldReconnect) _) <|
    .cons (Field.of_read (hhosts s.reconnectHosts) _) <|
    .cons (Field.of_read (hword s.initialReconnectDelay) _) <|
    .cons (Field.of_read (hword s.reconnectDelay) _) <|
    .cons (Field.of_read (hword s.maxReconnectDelay) _) <|
    .cons (Field.of_read (htruth s.useBackOff) _) <|
    .cons (Field.of_read (multiplier_read h) _) <|
    .cons (Field.of_read (hcount s.maxReconnectAttempts) _) <|
    .cons (Field.of_read (hcount s.startupMaxReconnectAttempts) _) <|
    .cons (Field.of_read (hcount s.warnAfterReconnectAttempts) _) <|
    .cons (Field.of_read (htruth s.randomize) _) <|
    .cons (Field.of_read (haction s.mergeAction) _) <| .nil _

theorem toJson_ne_empty (s : Settings) : s.toJson ≠ "" := by
  intro h
  have hlist := congrArg String.toList h
  simp [toJson, Json.writeObject] at hlist

/-- **The document of settings reads back as the settings, without the proxy and
without a multiplier that is not finite.** -/
theorem ofJson_toJson
    (h : ∀ x, s.backOffMultiplier = some x → Number.isFinite x = true → Json.ReadsBack x) :
    ofJson s.toJson = .ok s.restored := by
  obtain ⟨seen, habsorbs⟩ := (restores_fields h).absorbs [] (fun _ hf => hf) nodup_fieldNames
    (fun _ _ => List.not_mem_nil)
  have hread := Json.readMembers_of_absorbs [] habsorbs
  have hspace : Json.isSpace '\x7b' = false := by decide
  have hdocument : readDocument s.toJson.toList = .ok (s.restored, []) := by
    simp only [toJson, String.toList_ofList, Json.writeObject, List.cons_append, readDocument,
      Json.readBy, Json.skipSpace_cons hspace, if_true, hread]
    rfl
  simp only [ofJson, Json.readAll, hdocument]
  rfl

end Document

end Settings
end MessageBus
