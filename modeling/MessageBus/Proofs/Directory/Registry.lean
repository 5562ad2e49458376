/-
# Registries after any registrations

A registry is what its registrations make of it. Of the registrations of a kind
only the last counts, so those of different kinds may change places; an unknown
kind and an object that is no reference are refused by the registry itself,
whatever its constructors do, and nothing else is. An object of a registered
type has the kind that it was decoded under, and is handed out as one of a given
type exactly when it is one.

Key definitions: `Registry.Restores`, `Registration`, `Registry.afterwards`,
`Registry.latest?`, `Registry.Refuses`.
Key theorems: `Registry.get?_afterwards`, `Registry.afterwards_eq_of_filter_eq`,
`Registry.refuses_some_iff`, `Registry.decodes_by_latest`.
-/
import MessageBus.Directory.Objects
import MessageBus.Proofs.Directory.Member

namespace MessageBus

/-- A registry restores the objects of a type: the constructor of their kind is
the one that belongs to the type. -/
def Registry.Restores {ω : Type} (α : Type) [Restorable α] [Member α ω] (g : Registry ω) : Prop :=
  g.constructors.get? (Restorable.kindName α) = some fun p =>
    (Restorable.restore p : Except Error α).map (Member.embed (ω := ω))

theorem Registry.restores_register {ω : Type} (α : Type) [Restorable α] [Member α ω]
    (g : Registry ω) : (g.register α).Restores α :=
  Dictionary.get?_insert_self _ _ _

theorem Registry.Restores.registerWith {ω α : Type} [Restorable α] [Member α ω] {g : Registry ω}
    (h : g.Restores α) {kind : String} (hkind : kind ≠ Restorable.kindName α)
    (constructor : Constructor ω) : (g.registerWith kind constructor).Restores α := by
  unfold Restores Registry.registerWith
  rw [Dictionary.get?_insert, if_neg hkind]
  exact h

/-- A reference of the kind of a type is restored as an object of the type. -/
theorem Registry.Restores.decode {ω α : Type} [Restorable α] [Member α ω] {g : Registry ω}
    (h : g.Restores α) {r : Reference} (hkind : r.kind = Restorable.kindName α) :
    g.decode r = (Restorable.restore r.properties : Except Error α).map Member.embed := by
  unfold Registry.decode
  rw [hkind, show g.constructors.get? (Restorable.kindName α) = _ from h]

/-! ### Refusals -/

namespace Registry

variable {ω : Type}

theorem decode_eq (g : Registry ω) (r : Reference) :
    g.decode r = (g.constructors.get? r.kind).elim (.error (.unknownKind r.kind))
      fun constructor => constructor r.properties := by
  unfold decode
  cases g.constructors.get? r.kind <;> rfl

/-- The registry itself fails on what may be a reference: it does so whatever the
constructors of its kinds would do. -/
def Refuses (g : Registry ω) (object : Option Reference) (e : Error) : Prop :=
  ∀ g' : Registry ω, (∀ kind, g'.isRegistered kind = g.isRegistered kind) →
    g'.objectOf object = .error e

/-- The registry in which every constructor fails in one way. -/
def failing (g : Registry ω) (e : Error) : Registry ω :=
  ⟨g.constructors.mapValues fun _ _ => .error e⟩

theorem isRegistered_failing (g : Registry ω) (e : Error) (kind : String) :
    (g.failing e).isRegistered kind = g.isRegistered kind := by
  rw [isRegistered, failing, Dictionary.get?_mapValues, Option.isSome_map, isRegistered]

theorem decode_failing {g : Registry ω} {r : Reference} (h : g.isRegistered r.kind = true)
    (e : Error) : (g.failing e).decode r = .error e := by
  obtain ⟨constructor, hget⟩ := Option.isSome_iff_exists.1 h
  rw [decode_eq, failing, Dictionary.get?_mapValues, hget]
  rfl

theorem decode_of_not_isRegistered {g : Registry ω} {r : Reference}
    (h : g.isRegistered r.kind = false) : g.decode r = .error (.unknownKind r.kind) := by
  rw [decode_eq, Option.not_isSome_iff_eq_none.1 (Bool.eq_false_iff.1 h)]
  rfl

/-- **Of references a registry refuses exactly those of unknown kinds, as such.** -/
theorem refuses_some_iff {g : Registry ω} {r : Reference} {e : Error} :
    g.Refuses (some r) e ↔ g.isRegistered r.kind = false ∧ e = .unknownKind r.kind := by
  constructor
  · intro h
    have hunknown : g.isRegistered r.kind = false := by
      refine Bool.eq_false_iff.2 fun hknown => ?_
      -- the constructors could make it fail in two ways
      have hfails (e' : Error) : e' = e :=
        Except.error.inj ((decode_failing hknown e').symm.trans (h _ (g.isRegistered_failing e')))
      exact absurd ((hfails .notAReference).trans (hfails (.client "")).symm) (by decide)
    have hself : g.decode r = .error e := h g fun _ => rfl
    rw [decode_of_not_isRegistered hunknown] at hself
    exact ⟨hunknown, (Except.error.inj hself).symm⟩
  · rintro ⟨hunknown, rfl⟩ g' hsame
    exact decode_of_not_isRegistered ((hsame r.kind).trans hunknown)

/-- **What is no reference is refused by every registry.** -/
theorem refuses_none_iff {g : Registry ω} {e : Error} : g.Refuses none e ↔ e = .notAReference := by
  constructor
  · intro h
    exact (Except.error.inj (h g fun _ => rfl)).symm
  · rintro rfl g' -
    rfl

end Registry

/-! ### Registrations -/

/-- A type whose objects can be registered among the objects of `ω`: all of them have the
kind of the type. -/
structure Registrable (ω : Type) [Storable ω] : Type 1 where
  Object : Type
  [restorable : Restorable Object]
  [member : Member Object ω]
  [lawful : LawfulMember Object ω]
  sameKind : ∀ a : Object, Storable.kind a = Restorable.kindName Object

attribute [instance] Registrable.restorable Registrable.member Registrable.lawful

/-- What a registry is told: how the objects of a kind are made. -/
inductive Registration (ω : Type) [Storable ω] : Type 1
  /-- As a type of objects is restored: destinations, connection factories or others. -/
  | type (t : Registrable ω)
  /-- In any way, which may make objects of other kinds, or fail with any error. -/
  | custom (kind : String) (constructor : Constructor ω)

namespace Registration

variable {ω : Type} [Storable ω]

def kind : Registration ω → String
  | .type t => Restorable.kindName t.Object
  | .custom kind _ => kind

/-- What makes the objects of the kind. -/
def constructor : Registration ω → Constructor ω
  | .type t => fun p => (Restorable.restore p : Except Error t.Object).map Member.embed
  | .custom _ constructor => constructor

def apply (g : Registry ω) : Registration ω → Registry ω
  | .type t => g.register t.Object
  | .custom kind constructor => g.registerWith kind constructor

theorem apply_eq (g : Registry ω) (x : Registration ω) :
    apply g x = g.registerWith x.kind x.constructor := by
  cases x with
  | type t => rfl
  | custom kind constructor => rfl

def IsType : Registration ω → Prop
  | .type _ => True
  | .custom .. => False

/-- What a registered type makes has the kind of the registration. -/
theorem kind_of_isType {x : Registration ω} (hx : x.IsType) {p : Properties} {o : ω}
    (h : x.constructor p = .ok o) : Storable.kind o = x.kind := by
  cases x with
  | custom kind constructor => exact hx.elim
  | type t =>
    simp only [constructor] at h
    cases hrestore : (Restorable.restore p : Except Error t.Object) with
    | error e =>
      rw [hrestore] at h
      cases h
    | ok a =>
      rw [hrestore] at h
      cases h
      exact (LawfulMember.kind_embed a).trans (t.sameKind a)

end Registration

namespace Registry

variable {ω : Type} [Storable ω]

def latest? (steps : List (Registration ω)) (kind : String) : Option (Registration ω) :=
  (steps.filter (·.kind = kind)).getLast?

theorem kind_of_latest? {steps : List (Registration ω)} {kind : String} {x : Registration ω}
    (h : latest? steps kind = some x) : x.kind = kind := by
  have hmem := List.mem_of_getLast? h
  simpa using (List.mem_filter.1 hmem).2

theorem latest?_append (xs ys : List (Registration ω)) (kind : String) :
    latest? (xs ++ ys) kind = (latest? ys kind).or (latest? xs kind) := by
  rw [latest?, List.filter_append, List.getLast?_append]
  rfl

/-- Neighbours of different kinds may change places. -/
theorem filter_swap {x y : Registration ω} (h : x.kind ≠ y.kind) (rest : List (Registration ω))
    (kind : String) : (y :: x :: rest).filter (·.kind = kind) =
      (x :: y :: rest).filter (·.kind = kind) := by
  by_cases hx : x.kind = kind
  · have hy : y.kind ≠ kind := fun hy => h (hx.trans hy.symm)
    simp [hx, hy]
  · simp [List.filter_cons, hx]

/-- **A registry knows of a kind what it was told last.** -/
theorem get?_foldl_apply (kind : String) : ∀ (steps : List (Registration ω)) (g : Registry ω),
    (steps.foldl Registration.apply g).constructors.get? kind =
      ((latest? steps kind).map Registration.constructor).or (g.constructors.get? kind)
  | [], g => by simp [latest?]
  | x :: steps, g => by
    have hx : (Registration.apply g x).constructors.get? kind =
        ((latest? [x] kind).map Registration.constructor).or (g.constructors.get? kind) := by
      rw [Registration.apply_eq, registerWith, Dictionary.get?_insert]
      by_cases h : x.kind = kind <;> simp [latest?, h]
    rw [List.foldl_cons, get?_foldl_apply kind steps, hx, ← List.singleton_append (l := steps),
      latest?_append, Option.map_or, Option.or_assoc]

/-! ### Objects of a given type -/

/-- What a registry hands out as an object of a type. -/
theorem instanceOf_eq {U : Type} [Storable U] [Member U ω] [LawfulMember U ω] (g : Registry ω)
    (r : Reference) :
    (∀ e, g.decode r = .error e → g.instanceOf U r = .error e) ∧
    (∀ u : U, g.decode r = .ok (Member.embed u) → g.instanceOf U r = .ok u) ∧
    (∀ o, g.decode r = .ok o → (∀ u : U, Member.embed u ≠ o) →
      g.instanceOf U r = .error (.kindMismatch r.kind)) := by
  refine ⟨fun e h => ?_, fun u h => ?_, fun o h hother => ?_⟩
  · simp only [instanceOf, h]
  · simp only [instanceOf, h, LawfulMember.project?_embed]
  · simp only [instanceOf, h, LawfulMember.project?_eq_none_iff.2 hother]

/-! ### Runs of registrations -/

/-- A registry knows what it was told by registrations, the last one of each kind. -/
structure Knows (g : Registry ω) (steps : List (Registration ω)) : Prop where
  /-- The constructor that was registered last for exactly the kind of a reference decides. -/
  decode : ∀ r, g.decode r =
    (latest? steps r.kind).elim (.error (.unknownKind r.kind)) fun x => x.constructor r.properties
  isRegistered : ∀ kind, g.isRegistered kind = (latest? steps kind).isSome
  /-- A reference fails as one of an unknown kind if its kind is not registered, or if its
  constructor fails in this way. -/
  unknown : ∀ r, g.decode r = .error (.unknownKind r.kind) ↔ g.isRegistered r.kind = false ∨
    ∃ x, latest? steps r.kind = some x ∧ x.constructor r.properties = .error (.unknownKind r.kind)
  /-- The registry itself refuses references of unknown kinds, and no others. -/
  refuses : ∀ r e, g.Refuses (some r) e ↔ g.isRegistered r.kind = false ∧ e = .unknownKind r.kind
  /-- It refuses whatever is no reference. -/
  refusesNone : ∀ e, g.Refuses none e ↔ e = .notAReference
  objectOf : ∀ r, g.objectOf (some r) = g.decode r
  /-- The objects of a registered type have the kind that they are decoded under. -/
  kind : ∀ r x o, latest? steps r.kind = some x → x.IsType → g.decode r = .ok o →
    Storable.kind o = r.kind
  /-- An object is handed out as one of a type exactly when it is one. -/
  instanceOf : ∀ (U : Type) [Storable U] [Member U ω] [LawfulMember U ω] (r : Reference),
    (∀ e, g.decode r = .error e → g.instanceOf U r = .error e) ∧
    (∀ u : U, g.decode r = .ok (Member.embed u) → g.instanceOf U r = .ok u) ∧
    (∀ o, g.decode r = .ok o → (∀ u : U, Member.embed u ≠ o) →
      g.instanceOf U r = .error (.kindMismatch r.kind))

theorem knows_of_get? {g : Registry ω} {steps : List (Registration ω)}
    (h : ∀ kind, g.constructors.get? kind = (latest? steps kind).map Registration.constructor) :
    g.Knows steps where
  decode r := by
    rw [decode_eq, h]
    cases latest? steps r.kind <;> rfl
  isRegistered kind := by
    rw [Registry.isRegistered, h, Option.isSome_map]
  unknown r := by
    rw [decode_eq, Registry.isRegistered, h]
    cases latest? steps r.kind <;> simp
  refuses _ _ := refuses_some_iff
  refusesNone _ := refuses_none_iff
  objectOf _ := rfl
  kind r x o hx htype hdecode := by
    rw [decode_eq, h, hx] at hdecode
    exact (Registration.kind_of_isType htype hdecode).trans (kind_of_latest? hx)
  instanceOf _ _ _ _ r := instanceOf_eq _ r

/-- Where a registry starts from. -/
inductive Origin
  | empty
  | destinations

variable [Member Queue ω] [Member Topic ω]

def Origin.registry : Origin → Registry ω
  | .empty => .empty
  | .destinations => .destinations

def afterwards (origin : Origin) (steps : List (Registration ω)) : Registry ω :=
  steps.foldl Registration.apply origin.registry

variable [LawfulMember Queue ω] [LawfulMember Topic ω]

/-- What a registry has been told at its start. -/
def Origin.registrations : Origin → List (Registration ω)
  | .empty => []
  | .destinations => [.type ⟨Queue, fun _ => rfl⟩, .type ⟨Topic, fun _ => rfl⟩]

theorem afterwards_eq (origin : Origin) (steps : List (Registration ω)) :
    afterwards origin steps = (origin.registrations ++ steps).foldl Registration.apply .empty := by
  rw [List.foldl_append]
  cases origin <;> rfl

theorem get?_afterwards (origin : Origin) (steps : List (Registration ω)) (kind : String) :
    (afterwards origin steps).constructors.get? kind =
      (latest? (origin.registrations ++ steps) kind).map Registration.constructor := by
  rw [afterwards_eq, get?_foldl_apply, empty, Dictionary.get?_empty, Option.or_none]

/-- Registrations of different kinds may change places. -/
theorem afterwards_eq_of_filter_eq (origin : Origin) {steps steps' : List (Registration ω)}
    (h : ∀ kind, steps'.filter (·.kind = kind) = steps.filter (·.kind = kind)) :
    afterwards origin steps' = afterwards origin steps := by
  have hget (kind : String) : (afterwards origin steps').constructors.get? kind =
      (afterwards origin steps).constructors.get? kind := by
    rw [get?_afterwards, get?_afterwards, latest?_append, latest?_append, latest?, h kind, ← latest?]
  exact congrArg Registry.mk (Dictionary.eq_of_get? hget)

/-- **After any registrations a registry decodes by the last one of each kind, whatever the
order of those of different kinds.** -/
theorem decodes_by_latest (origin : Origin) (steps : List (Registration ω)) :
    (afterwards origin steps).Knows (origin.registrations ++ steps) ∧
      ∀ steps', (∀ kind, steps'.filter (·.kind = kind) = steps.filter (·.kind = kind)) →
        afterwards origin steps' = afterwards origin steps :=
  ⟨knows_of_get? (get?_afterwards origin steps), fun _ h => afterwards_eq_of_filter_eq origin h⟩

/-- A constructor can fail as the registry does: the failure of a reference does not tell that its
kind is unknown. -/
theorem unknown_though_registered :
    let g : Registry (Queue ⊕ Topic ⊕ ConnectionFactory) :=
      afterwards .empty [.custom "alias" fun _ => .error (.unknownKind "alias")]
    let r : Reference := .ofKind "alias"
    g.decode r = .error (.unknownKind r.kind) ∧ g.isRegistered r.kind = true :=
  ⟨rfl, rfl⟩

/-- Two kinds, one of them registered twice: the second time for topics under another name. -/
def aliases : List (Registration (Queue ⊕ Topic ⊕ ConnectionFactory)) :=
  [.custom "alias" fun _ => .error (.unknownKind "alias"),
    .type ⟨ConnectionFactory, fun _ => rfl⟩,
    .custom "alias" fun p => (Restorable.restore p : Except Error Topic).map Member.embed]

theorem decodes_by_latest_aliases :
    let r : Reference := ⟨"alias", Reference.factoryName, [⟨nameProperty, some "events"⟩]⟩
    let swapped := [aliases[1], aliases[0], aliases[2]]
    (afterwards .destinations aliases).decode r = .ok (.inr (.inl ⟨"events"⟩)) ∧
      (afterwards .destinations aliases).instanceOf Queue r = .error (.kindMismatch "alias") ∧
        afterwards .destinations swapped = afterwards .destinations aliases := by
  intro r swapped
  obtain ⟨hknows, hreordered⟩ := decodes_by_latest .destinations aliases
  have hdecode : (afterwards .destinations aliases).decode r = .ok (.inr (.inl ⟨"events"⟩)) :=
    (hknows.decode r).trans rfl
  refine ⟨hdecode, (hknows.instanceOf Queue r).2.2 _ hdecode (fun u h => nomatch h), ?_⟩
  exact hreordered swapped (filter_swap (by decide) [aliases[2]])

end Registry
end MessageBus
