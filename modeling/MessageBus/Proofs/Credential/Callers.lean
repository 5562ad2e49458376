/-
# Concurrent callers of a token cache

Callers that run next to each other on one cache get what they would get one
after the other. While one of them waits for the credential the others wait in
line; when it is done the next ones find the token that it left, up to the
first of them who has to ask the credential again. So every round ends with
nobody left, or with one caller who has asked and the rest in line behind it
(`round_callers`), and the credential is never asked twice at once.

Key definitions: `Stage.answerAt`, `TokenCache.check`, `TokenCache.serve`,
`TokenCache.Exclusive`.
Key theorems: `TokenCache.runTogether_eq_inTurn`, `TokenCache.inFlight_le_one`,
`TokenCache.callers_linearize`.
-/
import MessageBus.Client.Script
import MessageBus.Proofs.Client.Tasks
import MessageBus.Proofs.Credential

namespace MessageBus

/-! ### The time -/

/-- The scripted surroundings at another instant than zero. -/
def Stage.answerAt (now : Instant) : (r : Request) → Stage → r.Reply × Stage
  | .now, stage => (now, stage)
  | r, stage => answer r stage

/-! ### Lines -/

namespace Line

variable (cache : TokenCache)

/-- The line of `k` tasks for a cache, from task number `i` on. -/
def queue (i k : Nat) : Line := (List.range' i k).map (cache, ·)

theorem mem_queue {i k j : Nat} : (cache, j) ∈ queue cache i k ↔ i ≤ j ∧ j < i + k := by
  simp [queue, List.mem_range'_1]

theorem queue_succ (i k : Nat) : queue cache i (k + 1) = (cache, i) :: queue cache (i + 1) k := by
  rw [queue, List.range'_succ, List.map_cons, queue]

/-- Whoever comes next goes to the end of the line, if not in line already. -/
theorem join_queue {i k j : Nat} (hi : i ≤ j) (hj : j ≤ i + k) :
    (queue cache i k).join cache j = queue cache i (max k (j + 1 - i)) := by
  unfold join
  by_cases hmem : (cache, j) ∈ queue cache i k
  · have hlt := ((mem_queue cache).1 hmem).2
    rw [if_pos hmem, Nat.max_eq_left (by omega)]
  · have hend : j = i + k := by
      rw [mem_queue] at hmem
      omega
    subst hend
    rw [if_neg hmem, show max k (i + k + 1 - i) = k + 1 by omega, queue, queue,
      List.range'_1_concat, List.map_append]
    rfl

theorem holder_queue (i k : Nat) : (queue cache i (k + 1)).holder? cache = some i := by
  rw [queue_succ, holder?]
  simp

theorem leave_queue (i k : Nat) : (queue cache i (k + 1)).leave cache i = queue cache (i + 1) k := by
  rw [queue_succ, leave, List.erase_cons_head]

end Line

namespace TokenCache

variable {σ : Type} (answer : (r : Request) → σ → r.Reply × σ) (cache : TokenCache)

/-! ### One caller -/

/-- The token that a cache keeps, if it is still valid, and the surroundings after
looking. -/
def check (s : σ) : Option String × σ :=
  match ((answer (.cachedToken cache) s).1 : Option AccessToken) with
  | none => (none, (answer (.cachedToken cache) s).2)
  | some kept =>
    let (now, s) := answer .now (answer (.cachedToken cache) s).2
    (if kept.isExpired now then none else some kept.token, s)

/-- A new token, and the surroundings after it. -/
def renewed (s : σ) : Except Error String × σ := cache.renew.run.runWith answer s

/-- The end of a call, which frees the cache. -/
def finish (outcome : Except Error String) : Program (Except Error String) :=
  .ask (.unlock cache) fun _ => .done outcome

/-- A caller who has not been polled, or who waits in line. -/
def fresh : Task (Except Error String) := ⟨cache.token.run, false⟩

/-- A caller who has asked the credential. -/
def asking : Task (Except Error String) := ⟨cache.renew.run.bind cache.finish, true⟩

/-- A caller who has the outcome. -/
def served (outcome : Except Error String) : Task (Except Error String) := ⟨.done outcome, false⟩

section Polls

variable (n : Nat) (line : Line)

theorem run_renew (s : σ) :
    Task.run answer n (cache.renew.run.bind cache.finish) false ⟨line, s⟩ =
      (cache.asking, ⟨line, s⟩) := by
  rw [asking, renew_run]
  rfl

/-- The credential answers, and the caller leaves. -/
theorem poll_asking (s : σ) : cache.asking.poll answer n ⟨line, s⟩ =
    (served (cache.renewed answer s).1, ⟨line.leave cache n, (cache.renewed answer s).2⟩) := by
  unfold asking renewed Task.poll
  rw [renew_run]
  show Task.run answer n ((cache.settle (answer (.newToken cache [audience]) s).1).bind
    cache.finish) false ⟨line, (answer (.newToken cache [audience]) s).2⟩ = _
  cases hreply : ((answer (.newToken cache [audience]) s).1 : Except Error AccessToken) with
  | ok fresh =>
    simp only [Program.runWith, hreply]
    rfl
  | error e =>
    simp only [Program.runWith, hreply]
    rfl

/-- A caller whose turn it is leaves with the kept token, or asks the credential. -/
theorem poll_fresh_of_holder (s : σ) (h : (line.join cache n).holder? cache = some n) :
    cache.fresh.poll answer n ⟨line, s⟩ = match cache.check answer s with
      | (some token, s) => (served (.ok token), ⟨(line.join cache n).leave cache n, s⟩)
      | (none, s) => (cache.asking, ⟨line.join cache n, s⟩) := by
  unfold fresh Task.poll check
  rw [token_run, Task.run_lock_of_holder answer n h, current_run]
  show Task.run answer n (Program.bind (match
      ((answer (.cachedToken cache) s).1 : Option AccessToken) with
    | none => cache.renew.run
    | some kept => .ask .now fun now =>
      if kept.isExpired now then cache.renew.run else .done (.ok kept.token)) cache.finish)
    false ⟨line.join cache n, (answer (.cachedToken cache) s).2⟩ = _
  cases hkept : ((answer (.cachedToken cache) s).1 : Option AccessToken) with
  | none => exact run_renew answer cache n _ _
  | some kept =>
    show Task.run answer n (Program.bind (ite
        (kept.isExpired (answer .now (answer (.cachedToken cache) s).2).1 = true) _ _) cache.finish)
      false ⟨line.join cache n, (answer .now (answer (.cachedToken cache) s).2).2⟩ = _
    by_cases hexpired : kept.isExpired (answer .now (answer (.cachedToken cache) s).2).1 = true
    · rw [if_pos hexpired]
      simp only [hexpired, if_true]
      exact run_renew answer cache n _ _
    · rw [if_neg hexpired]
      simp only [hexpired]
      rfl

/-- A caller whose turn it is not stays in line. -/
theorem poll_fresh_of_not_holder (s : σ) (h : (line.join cache n).holder? cache ≠ some n) :
    cache.fresh.poll answer n ⟨line, s⟩ = (cache.fresh, ⟨line.join cache n, s⟩) := by
  unfold fresh Task.poll
  rw [token_run, Task.run_lock_of_not_holder answer n h]

end Polls

/-- Alone, a caller gets the kept token if it is valid, and else a new one. -/
theorem runWith_token {s : σ} (hlock : ∀ s, (answer (.lock cache) s).2 = s)
    (hunlock : ∀ s, (answer (.unlock cache) s).2 = s) :
    cache.token.run.runWith answer s = match cache.check answer s with
      | (some token, s) => (.ok token, s)
      | (none, s) => cache.renewed answer s := by
  rw [token_run]
  show ((cache.current.run.bind cache.finish).runWith answer (answer (.lock cache) s).2) = _
  rw [hlock, Program.runWith_bind]
  show ((cache.current.run.runWith answer s).1,
    (answer (.unlock cache) (cache.current.run.runWith answer s).2).2) = _
  rw [hunlock, current_run]
  unfold check renewed
  show (match ((answer (.cachedToken cache) s).1 : Option AccessToken) with
    | none => cache.renew.run
    | some kept => .ask .now fun now =>
      if kept.isExpired now then cache.renew.run
      else .done (.ok kept.token)).runWith answer (answer (.cachedToken cache) s).2 = _
  cases hkept : ((answer (.cachedToken cache) s).1 : Option AccessToken) with
  | none => rfl
  | some kept =>
    show (ite (kept.isExpired (answer .now (answer (.cachedToken cache) s).2).1 = true) _ _ :
      Program (Except Error String)).runWith answer
        (answer .now (answer (.cachedToken cache) s).2).2 = _
    by_cases hexpired : kept.isExpired (answer .now (answer (.cachedToken cache) s).2).1 = true
    · rw [if_pos hexpired]
      simp only [hexpired, if_true]
    · rw [if_neg hexpired]
      simp only [hexpired]
      rfl

/-! ### A line of callers -/

/-- What becomes of `m` callers up to the first who asks the credential: the outcomes
of those before, how many are behind the one who asks, and the surroundings then. -/
def serve : Nat → σ → List (Except Error String) × Option Nat × σ
  | 0, s => ([], none, s)
  | m + 1, s =>
    match cache.check answer s with
    | (some token, s) =>
      ((.ok token) :: (serve m s).1, (serve m s).2.1, (serve m s).2.2)
    | (none, s) => ([], some m, s)

/-- The callers one after the other. -/
def callers (m : Nat) (s : σ) : List (Except Error String) × σ :=
  Tasks.inTurn answer (List.replicate m cache.token.run) s

theorem length_serve : ∀ (m w : Nat) (s : σ), (cache.serve answer m s).2.1 = some w →
    (cache.serve answer m s).1.length + 1 + w = m
  | 0, _, _, h => by cases h
  | m + 1, w, s, h => by
    unfold serve at h ⊢
    rcases hcheck : cache.check answer s with ⟨_ | token, s'⟩
    · rw [hcheck] at h
      cases h
      show 0 + 1 + m = m + 1
      omega
    · rw [hcheck] at h
      have ih := length_serve m w s' h
      show ((cache.serve answer m s').1.length + 1) + 1 + w = m + 1
      omega

/-- Polling callers in line behind one who has the cache only makes the line longer. -/
theorem round_behind : ∀ (m i j k : Nat) (s : σ), i < j → j ≤ i + k →
    Tasks.round answer j (List.replicate m cache.fresh) ⟨Line.queue cache i k, s⟩ =
      (List.replicate m cache.fresh, ⟨Line.queue cache i (max k (j + m - i)), s⟩)
  | 0, i, j, k, s, _, hj => by
    rw [Nat.max_eq_left (by omega)]
    rfl
  | m + 1, i, j, k, s, hi, hj => by
    obtain ⟨k', hk⟩ : ∃ k', max k (j + 1 - i) = k' + 1 := ⟨max k (j + 1 - i) - 1, by omega⟩
    have hjoin : (Line.queue cache i k).join cache j = Line.queue cache i (k' + 1) := by
      rw [Line.join_queue cache (by omega) hj, hk]
    have hother : ((Line.queue cache i k).join cache j).holder? cache ≠ some j := by
      rw [hjoin, Line.holder_queue]
      simp only [ne_eq, Option.some.injEq]
      omega
    rw [List.replicate_succ, Tasks.round_cons, poll_fresh_of_not_holder answer cache j _ s hother,
      hjoin, round_behind m i (j + 1) (k' + 1) s (by omega) (by omega)]
    rw [show max (k' + 1) (j + 1 + m - i) = max k (j + (m + 1) - i) by omega]

/-- **A round over callers whose turn has come serves them up to the first who asks
the credential; the rest wait in line behind that one.** -/
theorem round_callers : ∀ (m i k : Nat) (s : σ), k ≤ m →
    Tasks.round answer i (List.replicate m cache.fresh) ⟨Line.queue cache i k, s⟩ =
      match cache.serve answer m s with
      | (outcomes, none, s) => (outcomes.map served, ⟨[], s⟩)
      | (outcomes, some w, s) =>
        (outcomes.map served ++ cache.asking :: List.replicate w cache.fresh,
          ⟨Line.queue cache (i + outcomes.length) (w + 1), s⟩)
  | 0, i, k, s, hk => by
    rw [Nat.le_zero.1 hk]
    rfl
  | m + 1, i, k, s, hk => by
    obtain ⟨k', hk'⟩ : ∃ k', max k (i + 1 - i) = k' + 1 := ⟨max k (i + 1 - i) - 1, by omega⟩
    have hjoin : (Line.queue cache i k).join cache i = Line.queue cache i (k' + 1) := by
      rw [Line.join_queue cache (Nat.le_refl i) (by omega), hk']
    have hturn : ((Line.queue cache i k).join cache i).holder? cache = some i := by
      rw [hjoin, Line.holder_queue]
    rw [List.replicate_succ, Tasks.round_cons, poll_fresh_of_holder answer cache i _ s hturn, hjoin,
      serve]
    rcases cache.check answer s with ⟨_ | token, s'⟩
    · dsimp only
      rw [round_behind answer cache m i (i + 1) (k' + 1) s' (by omega) (by omega)]
      rw [show max (k' + 1) (i + 1 + m - i) = m + 1 by omega]
      rfl
    · dsimp only
      rw [Line.leave_queue, round_callers m (i + 1) k' s' (by omega)]
      rcases cache.serve answer m s' with ⟨outcomes, _ | w, s''⟩
      · rfl
      · dsimp only
        rw [List.length_cons, show i + 1 + outcomes.length = i + (outcomes.length + 1) by omega]
        rfl

/-- Callers who are done stay done. -/
theorem round_served : ∀ (outcomes : List (Except Error String)) (i : Nat) (s : Shared σ),
    Tasks.round answer i (outcomes.map served) s = (outcomes.map served, s)
  | [], _, _ => rfl
  | outcome :: outcomes, i, s => by
    have hpoll : (served outcome).poll answer i s = (served outcome, s) := rfl
    rw [List.map_cons, Tasks.round_cons, hpoll, round_served outcomes (i + 1) s]

theorem rounds_served (outcomes : List (Except Error String)) (s : Shared σ) :
    ∀ k, Tasks.rounds answer k (outcomes.map served) s = (outcomes.map served, s)
  | 0 => rfl
  | k + 1 => by
    rw [Tasks.rounds, round_served]
    exact rounds_served outcomes s k

section Sequence

variable (hlock : ∀ s, (answer (.lock cache) s).2 = s)
  (hunlock : ∀ s, (answer (.unlock cache) s).2 = s)
include hlock hunlock

theorem callers_succ (m : Nat) (s : σ) : cache.callers answer (m + 1) s =
    match cache.check answer s with
    | (some token, s) => (.ok token :: (cache.callers answer m s).1, (cache.callers answer m s).2)
    | (none, s) => ((cache.renewed answer s).1 :: (cache.callers answer m (cache.renewed answer s).2).1,
        (cache.callers answer m (cache.renewed answer s).2).2) := by
  unfold callers
  rw [List.replicate_succ, Tasks.inTurn, runWith_token answer cache hlock hunlock]
  rcases cache.check answer s with ⟨_ | token, s'⟩
  · rfl
  · rfl

/-- One after the other the callers are served up to the first who asks the
credential; then the credential answers, and the rest follow. -/
theorem callers_eq_serve : ∀ (m : Nat) (s : σ), cache.callers answer m s =
    match cache.serve answer m s with
    | (outcomes, none, s) => (outcomes, s)
    | (outcomes, some w, s) =>
      (outcomes ++ (cache.renewed answer s).1 :: (cache.callers answer w (cache.renewed answer s).2).1,
        (cache.callers answer w (cache.renewed answer s).2).2)
  | 0, _ => rfl
  | m + 1, s => by
    rw [callers_succ answer cache hlock hunlock, serve]
    rcases cache.check answer s with ⟨_ | token, s'⟩
    · rfl
    · dsimp only
      rw [callers_eq_serve m s']
      rcases cache.serve answer m s' with ⟨outcomes, _ | w, s''⟩
      · rfl
      · rfl

/-- **Once a caller has asked the credential, as many rounds as there are callers
left are enough for all of them, and they get what they would get in turn.** -/
theorem rounds_waiting : ∀ (k w : Nat) (outcomes : List (Except Error String)) (s : σ), w < k →
    Tasks.rounds answer k (outcomes.map served ++ cache.asking :: List.replicate w cache.fresh)
        ⟨Line.queue cache outcomes.length (w + 1), s⟩ =
      ((outcomes ++ (cache.renewed answer s).1 ::
          (cache.callers answer w (cache.renewed answer s).2).1).map served,
        ⟨[], (cache.callers answer w (cache.renewed answer s).2).2⟩)
  | 0, _, _, _, h => by omega
  | k + 1, w, outcomes, s, h => by
    rw [Tasks.rounds, Tasks.round_append, round_served]
    dsimp only
    rw [Tasks.round_cons, poll_asking, List.length_map, Nat.zero_add, Line.leave_queue,
      round_callers answer cache w _ w _ (Nat.le_refl w),
      callers_eq_serve answer cache hlock hunlock]
    have hlength := length_serve answer cache w
    rcases hserve : cache.serve answer w (cache.renewed answer s).2 with ⟨later, _ | w', s'⟩
    · have hdone : outcomes.map served ++ served (cache.renewed answer s).1 :: later.map served =
          (outcomes ++ (cache.renewed answer s).1 :: later).map served := by
        rw [List.map_append, List.map_cons]
      dsimp only
      rw [hdone, rounds_served]
    · have hless := hlength w' _ (congrArg (·.2.1) hserve)
      have hmore : outcomes.map served ++ served (cache.renewed answer s).1 ::
          (later.map served ++ cache.asking :: List.replicate w' cache.fresh) =
            (outcomes ++ (cache.renewed answer s).1 :: later).map served ++
              cache.asking :: List.replicate w' cache.fresh := by
        rw [List.map_append, List.map_cons, List.append_assoc, List.cons_append]
      have hplace : outcomes.length + 1 + later.length =
          (outcomes ++ (cache.renewed answer s).1 :: later).length := by
        rw [List.length_append, List.length_cons]
        omega
      dsimp only
      rw [hmore, hplace, rounds_waiting k w' _ s' (by omega), List.append_assoc, List.cons_append]

/-- One round more than there are callers serves them all. -/
theorem rounds_callers (n : Nat) (s : σ) :
    Tasks.rounds answer (n + 1) (List.replicate n cache.fresh) ⟨[], s⟩ =
      ((cache.callers answer n s).1.map served, ⟨[], (cache.callers answer n s).2⟩) := by
  have hlength := length_serve answer cache n
  have hround := round_callers answer cache n 0 0 s (Nat.zero_le n)
  rw [show Line.queue cache 0 0 = [] from rfl] at hround
  rw [Tasks.rounds, hround, callers_eq_serve answer cache hlock hunlock]
  rcases hserve : cache.serve answer n s with ⟨outcomes, _ | w, s'⟩
  · exact rounds_served answer outcomes _ n
  · have hless := hlength w s (congrArg (·.2.1) hserve)
    dsimp only
    rw [Nat.zero_add, rounds_waiting answer cache hlock hunlock n w outcomes s' (by omega)]

/-- **Callers next to each other get what they get one after the other, and leave
the surroundings as those do.** -/
theorem runTogether_eq_inTurn (n : Nat) (s : σ) :
    Tasks.runTogether answer (List.replicate n cache.token.run) s =
      ((Tasks.inTurn answer (List.replicate n cache.token.run) s).1.map some,
        (Tasks.inTurn answer (List.replicate n cache.token.run) s).2) := by
  have hrounds := rounds_callers answer cache hlock hunlock n s
  unfold Tasks.runTogether
  rw [List.length_replicate, List.map_replicate]
  show ((Tasks.rounds answer (n + 1) (List.replicate n cache.fresh) ⟨[], s⟩).1.map Task.result?,
    (Tasks.rounds answer (n + 1) (List.replicate n cache.fresh) ⟨[], s⟩).2.surroundings) = _
  rw [hrounds, List.map_map]
  rfl

end Sequence

/-! ### One request at a time -/

/-- A caller is waiting for the cache, has it and has asked the credential, or is done. -/
inductive Phase (line : Line) (i : Nat) : Task (Except Error String) → Prop
  | fresh : Phase line i cache.fresh
  | asking (h : line.holder? cache = some i) : Phase line i cache.asking
  | served (outcome : Except Error String) : Phase line i (served outcome)

/-- Every caller is in one of the phases: only the first in line has asked. -/
def Exclusive (state : List (Task (Except Error String)) × Shared σ) : Prop :=
  ∀ i t, state.1[i]? = some t → cache.Phase state.2.line i t

theorem holder_join {line : Line} {i j : Nat} (h : line.holder? cache = some i) :
    (line.join cache j).holder? cache = some i := by
  unfold Line.join
  split
  · exact h
  · obtain ⟨entry, hfind, rfl⟩ := Option.map_eq_some_iff.1 h
    rw [Line.holder?, List.find?_append, hfind]
    rfl

/-- A poll takes a caller to a phase, and takes the cache from nobody else. -/
theorem Phase.poll {line : Line} {i : Nat} {t : Task (Except Error String)}
    (h : cache.Phase line i t) (s : σ) :
    cache.Phase (t.poll answer i ⟨line, s⟩).2.line i (t.poll answer i ⟨line, s⟩).1 ∧
      ∀ j, j ≠ i → line.holder? cache = some j →
        (t.poll answer i ⟨line, s⟩).2.line.holder? cache = some j := by
  cases h with
  | fresh =>
    by_cases hturn : (line.join cache i).holder? cache = some i
    · have hnobody : ∀ j, j ≠ i → line.holder? cache ≠ some j := by
        intro j hj hholds
        rw [holder_join cache hholds] at hturn
        exact hj (Option.some.inj hturn)
      rw [poll_fresh_of_holder answer cache i line s hturn]
      rcases cache.check answer s with ⟨_ | token, s'⟩
      · exact ⟨.asking hturn, fun j hj hholds => absurd hholds (hnobody j hj)⟩
      · exact ⟨.served _, fun j hj hholds => absurd hholds (hnobody j hj)⟩
    · rw [poll_fresh_of_not_holder answer cache i line s hturn]
      exact ⟨.fresh, fun j _ hholds => holder_join cache hholds⟩
  | asking hturn =>
    rw [poll_asking]
    refine ⟨.served _, fun j hj hholds => ?_⟩
    rw [hturn] at hholds
    exact absurd (Option.some.inj hholds).symm hj
  | served outcome => exact ⟨.served outcome, fun _ _ hholds => hholds⟩

theorem Phase.of_holder {line line' : Line} {i : Nat} {t : Task (Except Error String)}
    (h : cache.Phase line i t)
    (hline : line.holder? cache = some i → line'.holder? cache = some i) :
    cache.Phase line' i t := by
  cases h with
  | fresh => exact .fresh
  | asking h => exact .asking (hline h)
  | served outcome => exact .served outcome

theorem exclusive_pollAt {state : List (Task (Except Error String)) × Shared σ}
    (h : cache.Exclusive state) (i : Nat) : cache.Exclusive (Tasks.pollAt answer state i) := by
  obtain ⟨ts, line, s⟩ := state
  unfold Tasks.pollAt
  cases hi : ts[i]? with
  | none =>
    dsimp only
    exact h
  | some t =>
    obtain ⟨hphase, hothers⟩ := Phase.poll answer cache (h i t hi) s
    dsimp only
    intro j u hj
    dsimp only at hj ⊢
    by_cases hij : i = j
    · subst hij
      have hlt : i < ts.length := (List.getElem?_eq_some_iff.1 hi).1
      rw [List.getElem?_set_self hlt] at hj
      cases hj
      exact hphase
    · rw [List.getElem?_set_ne hij] at hj
      exact Phase.of_holder cache (h j u hj) (hothers j (Ne.symm hij))

/-- **Under every schedule at most one caller is waiting for the credential.** -/
theorem inFlight_le_one : ∀ (schedule : List Nat)
    {state : List (Task (Except Error String)) × Shared σ}, cache.Exclusive state →
      Tasks.inFlight (Tasks.follow answer schedule state).1 ≤ 1
  | [], state, h => by
    have hholds : ∀ i t, state.1[i]? = some t → Tasks.waitsForToken t = true →
        state.2.line.holder? cache = some i := by
      intro i t ht hwait
      cases h i t ht with
      | fresh => cases hwait
      | asking h => exact h
      | served outcome => cases hwait
    refine Tasks.inFlight_le_one_of_unique fun i j t u ht hu hwt hwu => ?_
    have hi := hholds i t ht hwt
    rw [hholds j u hu hwu] at hi
    exact (Option.some.inj hi).symm
  | i :: schedule, _, h => inFlight_le_one schedule (exclusive_pollAt answer cache h i)

/-- **Concurrent callers of a cache linearize.** Whatever the cache keeps, whatever
the credential has in store and whatever the time is, callers that are polled in turn
get the outcomes, make the requests and leave the surroundings of callers who come one
after the other; and at no time of this or any other schedule has the credential been
asked twice. Polling in turn is the schedule that goes through the callers again and again. -/
theorem callers_linearize (now : Instant) (n : Nat) (stage : Stage) :
    Tasks.runTogether (Stage.answerAt now) (List.replicate n cache.token.run) stage =
        ((Tasks.inTurn (Stage.answerAt now) (List.replicate n cache.token.run) stage).1.map some,
          (Tasks.inTurn (Stage.answerAt now) (List.replicate n cache.token.run) stage).2) ∧
      (∀ schedule : List Nat, Tasks.inFlight (Tasks.follow (Stage.answerAt now) schedule
        ((List.replicate n cache.token.run).map (⟨·, false⟩), ⟨[], stage⟩)).1 ≤ 1) ∧
      ∀ k, Tasks.rounds (Stage.answerAt now) k
          ((List.replicate n cache.token.run).map (⟨·, false⟩)) ⟨[], stage⟩ =
        Tasks.follow (Stage.answerAt now) (List.replicate k (List.range n)).flatten
          ((List.replicate n cache.token.run).map (⟨·, false⟩), ⟨[], stage⟩) := by
  refine ⟨runTogether_eq_inTurn (Stage.answerAt now) cache (fun _ => rfl) (fun _ => rfl) n stage,
    fun schedule => inFlight_le_one (Stage.answerAt now) cache schedule fun i t ht => ?_,
    fun k => ?_⟩
  · rw [List.map_replicate] at ht
    rw [(List.mem_replicate.1 (List.mem_of_getElem? ht)).2]
    exact .fresh
  · rw [Tasks.rounds_eq_follow, List.length_map, List.length_replicate, List.range_eq_range']

end TokenCache
end MessageBus
