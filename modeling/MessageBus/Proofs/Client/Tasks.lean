/-
# Tasks in rounds and under schedules

Tasks can be polled in any order. A schedule says in which; the rounds of
`Tasks.runTogether` are the one that goes through the tasks again and again.
Programs that need no one else can also be run one after the other.

Key definitions: `Tasks.inTurn`, `Tasks.follow`, `Tasks.inFlight`.
Key theorems: `Tasks.round_append`, `Tasks.rounds_eq_follow`.
-/
import MessageBus.Client.Tasks

namespace MessageBus

variable {α σ : Type}

/-! ### Polls -/

namespace Task

variable (answer : (r : Request) → σ → r.Reply × σ) (n : Nat)

/-- A task that is first in line for a cache takes it. -/
theorem run_lock_of_holder {cache : TokenCache} {s : Shared σ}
    (h : (s.line.join cache n).holder? cache = some n)
    (next : (Request.lock cache).Reply → Program α) (asked : Bool) :
    run answer n (.ask (.lock cache) next) asked s =
      run answer n (next ()) asked { s with line := s.line.join cache n } :=
  if_pos h

/-- A task that is not first in line waits. -/
theorem run_lock_of_not_holder {cache : TokenCache} {s : Shared σ}
    (h : (s.line.join cache n).holder? cache ≠ some n)
    (next : (Request.lock cache).Reply → Program α) (asked : Bool) :
    run answer n (.ask (.lock cache) next) asked s =
      (⟨.ask (.lock cache) next, asked⟩, { s with line := s.line.join cache n }) :=
  if_neg h

end Task

namespace Tasks

variable (answer : (r : Request) → σ → r.Reply × σ)

/-! ### One after the other -/

/-- Runs programs one after the other. -/
def inTurn : List (Program α) → σ → List α × σ
  | [], s => ([], s)
  | p :: ps, s =>
    let (a, s) := p.runWith answer s
    let (rest, s) := inTurn ps s
    (a :: rest, s)

/-! ### Schedules -/

def pollAt (state : List (Task α) × Shared σ) (i : Nat) : List (Task α) × Shared σ :=
  match state.1[i]? with
  | none => state
  | some t => (state.1.set i (t.poll answer i state.2).1, (t.poll answer i state.2).2)

/-- Polls tasks in the order of a schedule. -/
def follow (schedule : List Nat) (state : List (Task α) × Shared σ) :
    List (Task α) × Shared σ :=
  schedule.foldl (pollAt answer) state

/-- Whether the credential has been asked on behalf of a task and has not answered. -/
def waitsForToken (t : Task α) : Bool :=
  t.asked && match t.left with
    | .ask (.newToken ..) _ => true
    | _ => false

/-- How many tasks have asked for a token that has not come. -/
def inFlight (ts : List (Task α)) : Nat := ts.countP waitsForToken

/-- When no two places wait for a token, at most one task does. -/
theorem inFlight_le_one_of_unique : ∀ {ts : List (Task α)},
    (∀ (i j : Nat) (t u : Task α), ts[i]? = some t → ts[j]? = some u → waitsForToken t = true →
      waitsForToken u = true → i = j) → inFlight ts ≤ 1
  | [], _ => Nat.zero_le 1
  | t :: ts, h => by
    have hlater : inFlight ts ≤ 1 := inFlight_le_one_of_unique fun i j u v hu hv hwu hwv =>
      Nat.succ.inj (h (i + 1) (j + 1) u v hu hv hwu hwv)
    unfold inFlight at hlater ⊢
    by_cases ht : waitsForToken t = true
    · have hnone : ts.countP waitsForToken = 0 := by
        rw [List.countP_eq_zero]
        intro u hu hwait
        obtain ⟨j, hj⟩ := List.mem_iff_getElem?.1 hu
        exact Nat.succ_ne_zero j (h 0 (j + 1) t u rfl hj ht hwait).symm
      have hone : (t :: ts).countP waitsForToken = 1 := by
        rw [List.countP_cons_of_pos ht, hnone]
      exact Nat.le_of_eq hone
    · rwa [List.countP_cons_of_neg ht]

theorem round_cons (i : Nat) (t : Task α) (ts : List (Task α)) (s : Shared σ) :
    round answer i (t :: ts) s =
      ((t.poll answer i s).1 :: (round answer (i + 1) ts (t.poll answer i s).2).1,
        (round answer (i + 1) ts (t.poll answer i s).2).2) := rfl

/-- A round goes through one part of the tasks and then through the other. -/
theorem round_append : ∀ (i : Nat) (ts us : List (Task α)) (s : Shared σ),
    round answer i (ts ++ us) s =
      ((round answer i ts s).1 ++ (round answer (i + ts.length) us (round answer i ts s).2).1,
        (round answer (i + ts.length) us (round answer i ts s).2).2)
  | _, [], _, _ => rfl
  | i, t :: ts, us, s => by
    have hlength : i + 1 + ts.length = i + (t :: ts).length := by
      rw [List.length_cons]
      omega
    rw [List.cons_append, round_cons, round_append (i + 1) ts us, round_cons, hlength]
    rfl

/-- A round follows the schedule that names every task once, in their order. -/
theorem round_eq_follow : ∀ (us ts : List (Task α)) (s : Shared σ),
    follow answer (List.range' ts.length us.length) (ts ++ us, s) =
      (ts ++ (round answer ts.length us s).1, (round answer ts.length us s).2)
  | [], ts, s => by simp [follow, round]
  | u :: us, ts, s => by
    have hpoll : pollAt answer (ts ++ u :: us, s) ts.length =
        (ts ++ [(u.poll answer ts.length s).1] ++ us, (u.poll answer ts.length s).2) := by
      simp [pollAt]
    have ih := round_eq_follow us (ts ++ [(u.poll answer ts.length s).1])
      (u.poll answer ts.length s).2
    rw [List.length_append, List.length_singleton] at ih
    rw [List.length_cons, List.range'_succ, follow, List.foldl_cons, hpoll]
    show follow answer _ _ = _
    rw [ih, round_cons, List.append_assoc]
    rfl

theorem length_round : ∀ (i : Nat) (ts : List (Task α)) (s : Shared σ),
    (round answer i ts s).1.length = ts.length
  | _, [], _ => rfl
  | i, t :: ts, s => by
    rw [round_cons, List.length_cons, length_round (i + 1) ts, List.length_cons]

/-- **Rounds follow a schedule.** -/
theorem rounds_eq_follow : ∀ (k : Nat) (ts : List (Task α)) (s : Shared σ),
    rounds answer k ts s =
      follow answer (List.replicate k (List.range' 0 ts.length)).flatten (ts, s)
  | 0, _, _ => rfl
  | k + 1, ts, s => by
    have hround := round_eq_follow answer ts [] s
    rw [List.nil_append, List.length_nil, List.nil_append] at hround
    rw [rounds, List.replicate_succ, List.flatten_cons, follow, List.foldl_append]
    show rounds answer k (round answer 0 ts s).1 (round answer 0 ts s).2 =
      follow answer _ (follow answer (List.range' 0 ts.length) (ts, s))
    rw [hround, rounds_eq_follow k, length_round]

end Tasks
end MessageBus
