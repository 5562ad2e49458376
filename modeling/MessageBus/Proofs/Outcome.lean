/-
# Outcomes

What an outcome says about the steps that it comes from: if they end in a
result, every check was passed, every part that had to be read was read, and
what follows is the rest of the steps. And what it means that two outcomes are
alike: the same error, or results that are related.

Key definition: `SameOutcome`.
Key theorems: `Outcome.bind_eq_ok`, `Outcome.ite_eq_ok_iff`, `Outcome.mapM_eq_ok_iff`,
`Outcome.mapM_eq_error_iff`, `SameOutcome.bind`.
-/
import Mathlib.Data.List.Forall2
import MessageBus.Error

namespace MessageBus
namespace Outcome

variable {ε α β : Type} {c : Prop} [Decidable c] {e : ε} {a : α}

theorem bind_eq_ok {x : Except ε β} {f : β → Except ε α} :
    (x >>= f) = .ok a ↔ ∃ b, x = .ok b ∧ f b = .ok a := by
  cases x with
  | error e => exact iff_of_false (fun h => nomatch h) (fun ⟨_, h, _⟩ => nomatch h)
  | ok b => exact ⟨fun h => ⟨b, rfl, h⟩, fun ⟨_, hb, h⟩ => Except.ok.inj hb ▸ h⟩

theorem bind_eq_error {x : Except ε β} {f : β → Except ε α} :
    (x >>= f) = .error e ↔ x = .error e ∨ ∃ b, x = .ok b ∧ f b = .error e := by
  cases x with
  | error e' => exact ⟨fun h => .inl (congrArg Except.error (Except.error.inj h)),
      fun h => h.elim (fun h => congrArg Except.error (Except.error.inj h)) fun ⟨_, h, _⟩ => nomatch h⟩
  | ok b => exact ⟨fun h => .inr ⟨b, rfl, h⟩,
      fun h => h.elim (fun h => nomatch h) fun ⟨_, hb, h⟩ => Except.ok.inj hb ▸ h⟩

/-- A branch that does not have the result was not taken. -/
theorem ite_eq_ok_iff {x y : Except ε α} (hx : x ≠ .ok a) :
    (if c then x else y) = .ok a ↔ ¬ c ∧ y = .ok a := by
  split
  · next hc => exact iff_of_false hx fun h => h.1 hc
  · next hc => exact ⟨fun h => ⟨hc, h⟩, fun h => h.2⟩

/-- A check that was passed. -/
theorem refuse_eq_ok {y : Except ε α} : (if c then .error e else y) = .ok a ↔ ¬ c ∧ y = .ok a :=
  ite_eq_ok_iff fun h => nomatch h

/-- Something that was found was not passed over. -/
theorem none_eq_ok {y : Except ε (Option α)} :
    (if c then pure none else y) = .ok (some a) ↔ ¬ c ∧ y = .ok (some a) :=
  ite_eq_ok_iff fun h => nomatch h

/-! ### Steps for every element of a list -/

section Lists

variable {f : α → Except ε β}

/-- All steps succeed exactly when each does, with a result for each, in order. -/
theorem mapM_eq_ok_iff : ∀ {xs : List α} {ys : List β},
    xs.mapM f = .ok ys ↔ List.Forall₂ (fun x y => f x = .ok y) xs ys
  | [], ys => by
    rw [List.mapM_nil, List.forall₂_nil_left_iff]
    exact ⟨fun h => (Except.ok.inj h).symm, fun h => h ▸ rfl⟩
  | x :: xs, ys => by
    rw [List.mapM_cons, bind_eq_ok, List.forall₂_cons_left_iff]
    refine exists_congr fun y => ?_
    rw [bind_eq_ok]
    constructor
    · rintro ⟨hy, later, hlater, h⟩
      exact ⟨later, hy, mapM_eq_ok_iff.1 hlater, (Except.ok.inj h).symm⟩
    · rintro ⟨later, hy, hlater, rfl⟩
      exact ⟨hy, later, mapM_eq_ok_iff.2 hlater, rfl⟩

/-- They all succeed if and only if each does. -/
theorem exists_mapM_eq_ok_iff : ∀ xs : List α,
    (∃ ys, xs.mapM f = .ok ys) ↔ ∀ x ∈ xs, ∃ y, f x = .ok y
  | [] => iff_of_true ⟨[], rfl⟩ fun _ h => nomatch h
  | x :: xs => by
    rw [List.forall_mem_cons, ← exists_mapM_eq_ok_iff xs]
    constructor
    · rintro ⟨ys, hys⟩
      obtain ⟨y, later, hy, hlater, -⟩ := List.forall₂_cons_left_iff.1 (mapM_eq_ok_iff.1 hys)
      exact ⟨⟨y, hy⟩, later, mapM_eq_ok_iff.2 hlater⟩
    · rintro ⟨⟨y, hy⟩, later, hlater⟩
      exact ⟨y :: later, mapM_eq_ok_iff.2 (.cons hy (mapM_eq_ok_iff.1 hlater))⟩

/-- The first step that fails makes them all fail, whatever those after it come to. -/
theorem mapM_of_first {x : α} (after : List α) (hx : f x = .error e) : ∀ {before : List α},
    (∀ y ∈ before, ∃ z, f y = .ok z) → (before ++ x :: after).mapM f = .error e
  | [], _ => by
    rw [List.nil_append, List.mapM_cons, hx]
    rfl
  | y :: before, h => by
    obtain ⟨z, hz⟩ := h y List.mem_cons_self
    have hlater := mapM_of_first after hx fun x hx => h x (List.mem_cons_of_mem _ hx)
    rw [List.cons_append, List.mapM_cons, hz, hlater]
    rfl

/-- **They fail exactly as the first of them that fails.** -/
theorem mapM_eq_error_iff {xs : List α} : xs.mapM f = .error e ↔
    ∃ before x after, xs = before ++ x :: after ∧ (∀ y ∈ before, ∃ z, f y = .ok z) ∧
      f x = .error e := by
  constructor
  · induction xs with
    | nil => exact fun h => nomatch h
    | cons x xs ih =>
      intro h
      rw [List.mapM_cons, bind_eq_error] at h
      rcases h with hx | ⟨y, hx, h⟩
      · exact ⟨[], x, xs, rfl, fun _ hmem => (nomatch hmem), hx⟩
      · rcases bind_eq_error.1 h with hlater | ⟨ys, -, hdone⟩
        · obtain ⟨before, found, after, rfl, hbefore, hfound⟩ := ih hlater
          exact ⟨x :: before, found, after, rfl, List.forall_mem_cons.2 ⟨⟨y, hx⟩, hbefore⟩, hfound⟩
        · cases hdone
  · rintro ⟨before, x, after, rfl, hbefore, hx⟩
    exact mapM_of_first after hx hbefore

end Lists

end Outcome

/-- Two outcomes are the same error, or results that are related. -/
inductive SameOutcome {α : Type} (R : α → α → Prop) : Except Error α → Except Error α → Prop
  | error (e : Error) : SameOutcome R (.error e) (.error e)
  | ok {a a' : α} (h : R a a') : SameOutcome R (.ok a) (.ok a')

namespace SameOutcome

variable {α β : Type} {R : α → α → Prop} {S : β → β → Prop}

/-- Related results go on to related outcomes. -/
theorem bind {x x' : Except Error α} {f f' : α → Except Error β} (h : SameOutcome R x x')
    (hf : ∀ a a', R a a' → SameOutcome S (f a) (f' a')) : SameOutcome S (x >>= f) (x' >>= f') := by
  cases h with
  | error e => exact .error e
  | ok h => exact hf _ _ h

theorem map {x x' : Except Error α} {f : α → β} (h : SameOutcome R x x')
    (hf : ∀ a a', R a a' → S (f a) (f a')) : SameOutcome S (x.map f) (x'.map f) := by
  cases h with
  | error e => exact .error e
  | ok h => exact .ok (hf _ _ h)

/-- The relation may be weakened, knowing what the outcomes are. -/
theorem imp {x x' : Except Error α} {R' : α → α → Prop} (h : SameOutcome R x x')
    (hR : ∀ a a', x = .ok a → x' = .ok a' → R a a' → R' a a') : SameOutcome R' x x' := by
  cases h with
  | error e => exact .error e
  | ok h => exact .ok (hR _ _ rfl rfl h)

end SameOutcome

end MessageBus
