/-
# Accounts of a token cache

A cache keeps the last token that its credential gave. A caller who finds it
still valid gets it; any other asks the credential, once, and gets the answer:
a token, which is kept from then on, or a failure, which changes nothing. So
callers in any number, one after the other or next to each other, are a chain
of calls whose accounts add up, whatever the credential has in store and
whatever the clock shows.

The surroundings here keep those accounts: how often the clock has been read,
and what the credential has answered.

Key definitions: `Observed.answer`, `Observed.latest`, `TokenCache.Accounted`,
`TokenCache.Accounts`, `TokenCache.FirstValid`.
Key theorems: `TokenCache.called_token`, `TokenCache.accounts_inBatches`,
`TokenCache.callers_firstValid`, `TokenCache.accounts_run`.
-/
import MessageBus.Proofs.Credential.Callers

namespace MessageBus

/-- What the credential answers when it is asked once more than `n` times from here on. -/
def Script.answerAt (script : Script) (n : Nat) : Except Error AccessToken :=
  script.tokens[n]?.getD (.error (.credential "no more tokens"))

theorem Script.token_fst (script : Script) : script.token.1 = script.answerAt 0 := by
  unfold Script.token Script.answerAt
  cases script.tokens with
  | nil => rfl
  | cons token rest => rfl

theorem Script.token_snd (script : Script) : script.token.2.tokens = script.tokens.drop 1 := by
  unfold Script.token
  cases h : script.tokens with
  | nil => exact h
  | cons token rest => rfl

/-- Further answers come from what is left of the script. -/
theorem Script.answerAt_drop {script script' : Script} {m : Nat}
    (h : script'.tokens = script.tokens.drop m) (n : Nat) :
    script'.answerAt n = script.answerAt (m + n) := by
  rw [answerAt, h, List.getElem?_drop, answerAt]

theorem Script.answerAt_succ {script script' : Script} (h : script'.tokens = script.tokens.drop 1) :
    script'.answerAt = script.answerAt ∘ Nat.succ :=
  funext fun n => (answerAt_drop h n).trans (congrArg script.answerAt (Nat.add_comm 1 n))

/-! ### Surroundings that keep accounts -/

/-- Scripted surroundings with a clock that moves, and their accounts. -/
structure Observed where
  stage : Stage
  looks : Nat := 0
  /-- What the credential has answered, the first answer first. -/
  given : List (Except Error AccessToken) := []

namespace Observed

/-- The answer to a request. The clock shows one reading after the other. -/
def answer (readings : Nat → Instant) : (r : Request) → Observed → r.Reply × Observed
  | .now, s => (readings s.looks, { s with looks := s.looks + 1 })
  | .newToken cache scopes, s =>
    let answered : Except Error AccessToken × Stage := s.stage.answer (.newToken cache scopes)
    (answered.1, { s with stage := answered.2, given := s.given ++ [answered.1] })
  | r, s =>
    let (reply, stage) := s.stage.answer r
    (reply, { s with stage })

def kept (s : Observed) (cache : TokenCache) : Option AccessToken :=
  (s.stage.keptTokens.find? (·.1 = cache)).map Prod.snd

/-- The last token among answers, or the one there was before them. -/
def latest (first : Option AccessToken) (given : List (Except Error AccessToken)) :
    Option AccessToken :=
  (given.filterMap Except.toOption).getLast?.or first

theorem latest_concat (first : Option AccessToken) (given : List (Except Error AccessToken))
    (reply : Except Error AccessToken) :
    latest first (given ++ [reply]) = reply.toOption.or (latest first given) := by
  unfold latest
  rw [List.filterMap_append]
  cases reply with
  | error e => simp [Except.toOption]
  | ok token => simp [Except.toOption]

end Observed

namespace TokenCache

open Observed

variable (cache : TokenCache) (readings : Nat → Instant)

/-! ### One call -/

/-- What a request to the credential changes: it is answered and recorded, and a token is
kept. -/
structure Renewed (s : Observed) (reply : Except Error AccessToken) (s' : Observed) : Prop where
  given : s'.given = s.given ++ [reply]
  looks : s'.looks = s.looks
  demands : s'.stage.demands = s.stage.demands ++ [.token [audience]]
  tokens : s'.stage.script.tokens = s.stage.script.tokens.drop 1
  kept : s'.kept cache = reply.toOption.or (s.kept cache)

theorem renewed_renew (s : Observed) :
    (cache.renewed (Observed.answer readings) s).1 =
        (s.stage.script.answerAt 0).map AccessToken.token ∧
      cache.Renewed s (s.stage.script.answerAt 0)
        (cache.renewed (Observed.answer readings) s).2 := by
  have hreply : ((Observed.answer readings (.newToken cache [audience]) s).1 :
      Except Error AccessToken) = s.stage.script.answerAt 0 := s.stage.script.token_fst
  have hgiven : (Observed.answer readings (.newToken cache [audience]) s).2.given =
      s.given ++ [s.stage.script.answerAt 0] := congrArg (s.given ++ [·]) s.stage.script.token_fst
  have htokens : (Observed.answer readings (.newToken cache [audience]) s).2.stage.script.tokens =
      s.stage.script.tokens.drop 1 := s.stage.script.token_snd
  unfold renewed
  rw [renew_run]
  show ((cache.settle (Observed.answer readings (.newToken cache [audience]) s).1).runWith
      (Observed.answer readings) (Observed.answer readings (.newToken cache [audience]) s).2).1 = _ ∧
    cache.Renewed s _ ((cache.settle (Observed.answer readings (.newToken cache [audience]) s).1).runWith
      (Observed.answer readings) (Observed.answer readings (.newToken cache [audience]) s).2).2
  rw [hreply]
  cases hentry : s.stage.script.answerAt 0 with
  | ok fresh =>
    rw [hentry] at hgiven
    refine ⟨rfl, ⟨hgiven, rfl, rfl, htokens, ?_⟩⟩
    show (List.find? (·.1 = cache) ((cache, fresh) :: s.stage.keptTokens)).map Prod.snd = some fresh
    rw [List.find?_cons_of_pos (by simp), Option.map_some]
  | error e =>
    rw [hentry] at hgiven
    exact ⟨rfl, ⟨hgiven, rfl, rfl, htokens, rfl⟩⟩

/-- How often the clock is read for a token that a cache may keep. -/
def looksAt (kept : Option AccessToken) : Nat := if kept.isSome then 1 else 0

theorem looksAt_le_one (kept : Option AccessToken) : looksAt kept ≤ 1 := by
  unfold looksAt
  split
  · exact Nat.le_refl 1
  · exact Nat.zero_le 1

/-- What a call comes to: the kept token is still valid, or the credential is asked. -/
inductive Called (s : Observed) : Except Error String → Observed → Prop
  | served (token : AccessToken) (hkept : s.kept cache = some token)
      (hvalid : token.isExpired (readings s.looks) = false) :
      Called s (.ok token.token) { s with looks := s.looks + 1 }
  | asked (s' : Observed)
      (hstale : ∀ token, s.kept cache = some token → token.isExpired (readings s.looks) = true)
      (h : cache.Renewed { s with looks := s.looks + looksAt (s.kept cache) }
        (s.stage.script.answerAt 0) s') :
      Called s ((s.stage.script.answerAt 0).map AccessToken.token) s'

theorem check_eq (s : Observed) : cache.check (Observed.answer readings) s =
    match s.kept cache with
    | none => (none, s)
    | some token =>
      (if token.isExpired (readings s.looks) then none else some token.token,
        { s with looks := s.looks + 1 }) := by
  have hkept : (Observed.answer readings (.cachedToken cache) s).1 = s.kept cache := rfl
  unfold check
  rw [hkept]
  cases s.kept cache with
  | none => rfl
  | some token => rfl

/-- **A call is one or the other.** -/
theorem called_token (s : Observed) : cache.Called readings s
    (cache.token.run.runWith (Observed.answer readings) s).1
    (cache.token.run.runWith (Observed.answer readings) s).2 := by
  rw [runWith_token (Observed.answer readings) cache (fun _ => rfl) (fun _ => rfl), check_eq]
  cases hkept : s.kept cache with
  | none =>
    obtain ⟨houtcome, hrenewed⟩ := renewed_renew cache readings s
    dsimp only
    rw [houtcome]
    refine .asked _ (fun token htoken => ?_) (by rw [hkept]; exact hrenewed)
    rw [hkept] at htoken
    cases htoken
  | some token =>
    by_cases hexpired : token.isExpired (readings s.looks) = true
    · obtain ⟨houtcome, hrenewed⟩ :=
        renewed_renew cache readings { s with looks := s.looks + 1 }
      simp only [hexpired, if_true]
      rw [houtcome]
      refine .asked _ (fun other hother => ?_) (by rw [hkept]; exact hrenewed)
      rw [hkept] at hother
      obtain rfl := Option.some.inj hother
      exact hexpired
    · have hvalid : token.isExpired (readings s.looks) = false := eq_false_of_ne_true hexpired
      simp only [hvalid, Bool.false_eq_true, if_false]
      exact .served token hkept hvalid

/-! ### Accounts -/

/-- The account of a call, whose own requests have been answered by `own`. -/
structure Accounted (first : Option AccessToken) (s : Observed)
    (own : List (Except Error AccessToken)) (outcome : Except Error String) (s' : Observed) :
    Prop where
  atMostOnce : own.length ≤ 1
  /-- The credential is not asked exactly when its last token is valid as the clock is read. -/
  unasked : own = [] ↔ ∃ token, latest first s.given = some token ∧
    token.isExpired (readings s.looks) = false
  looks : s'.looks = s.looks + looksAt (s.kept cache)
  demands : s'.stage.demands = s.stage.demands ++ own.map fun _ => .token [audience]
  given : s'.given = s.given ++ own
  /-- Answers are taken from the front of the script. -/
  inOrder : own = (List.range own.length).map s.stage.script.answerAt
  tokens : s'.stage.script.tokens = s.stage.script.tokens.drop own.length
  kept : s'.kept cache = latest first s'.given
  ok : ∀ token, outcome = .ok token →
    (latest first s'.given).map AccessToken.token = some token
  error : ∀ e, outcome = .error e → own = [.error e] ∧ s'.kept cache = s.kept cache

/-- A call whose token is still valid changes nothing but the clock. -/
theorem accounted_served {first : Option AccessToken} {s : Observed}
    (hlatest : s.kept cache = latest first s.given) {token : AccessToken}
    (hkept : s.kept cache = some token) (hvalid : token.isExpired (readings s.looks) = false) :
    Accounted cache readings first s [] (.ok token.token) { s with looks := s.looks + 1 } := by
  have hlast : latest first s.given = some token := hlatest ▸ hkept
  constructor
  case atMostOnce => exact Nat.zero_le 1
  case unasked => exact iff_of_true rfl ⟨token, hlast, hvalid⟩
  case looks => simp [looksAt, hkept]
  case demands => simp
  case given => simp
  case inOrder => rfl
  case tokens => rfl
  case kept => exact hlatest
  case ok =>
    intro text htext
    rw [← Except.ok.inj htext]
    exact congrArg (Option.map AccessToken.token) hlast
  case error =>
    intro e he
    cases he

/-- A call whose token is not is accounted for by the answer of the credential. -/
theorem accounted_asked {first : Option AccessToken} {s s' : Observed}
    (hlatest : s.kept cache = latest first s.given)
    (hstale : ∀ token, s.kept cache = some token → token.isExpired (readings s.looks) = true)
    (h : cache.Renewed { s with looks := s.looks + looksAt (s.kept cache) }
      (s.stage.script.answerAt 0) s') :
    Accounted cache readings first s [s.stage.script.answerAt 0]
      ((s.stage.script.answerAt 0).map AccessToken.token) s' := by
  have hgiven : s'.given = s.given ++ [s.stage.script.answerAt 0] := h.given
  have hkept : s'.kept cache = (s.stage.script.answerAt 0).toOption.or (s.kept cache) := h.kept
  have hnow : latest first s'.given =
      (s.stage.script.answerAt 0).toOption.or (latest first s.given) := by
    rw [hgiven, latest_concat]
  constructor
  case atMostOnce => exact Nat.le_refl 1
  case unasked =>
    refine iff_of_false (List.cons_ne_nil _ _) ?_
    rintro ⟨token, hlast, hvalid⟩
    have hexpired := hstale token (hlatest.trans hlast)
    rw [hvalid] at hexpired
    cases hexpired
  case looks => exact h.looks
  case demands => exact h.demands
  case given => exact hgiven
  case inOrder => rfl
  case tokens => exact h.tokens
  case kept => rw [hkept, hnow, hlatest]
  case ok =>
    intro text htext
    cases hreply : s.stage.script.answerAt 0 with
    | error e =>
      rw [hreply] at htext
      cases htext
    | ok fresh =>
      rw [hreply] at htext hnow
      obtain rfl := Except.ok.inj htext
      exact congrArg (Option.map AccessToken.token) hnow
  case error =>
    intro e he
    cases hreply : s.stage.script.answerAt 0 with
    | ok fresh =>
      rw [hreply] at he
      cases he
    | error e' =>
      rw [hreply] at he hkept
      obtain rfl := Except.error.inj he
      exact ⟨rfl, hkept⟩

/-- **Every call is accounted for**, when the cache keeps the last token that was given. -/
theorem Called.accounted {first : Option AccessToken} {s s' : Observed}
    {outcome : Except Error String} (h : cache.Called readings s outcome s')
    (hlatest : s.kept cache = latest first s.given) :
    ∃ own, Accounted cache readings first s own outcome s' := by
  cases h with
  | served token hkept hvalid => exact ⟨[], accounted_served cache readings hlatest hkept hvalid⟩
  | asked _ hstale h => exact ⟨_, accounted_asked cache readings hlatest hstale h⟩

/-- Calls one after the other, each accounted for. -/
inductive Accounts (first : Option AccessToken) :
    Observed → List (Except Error String) → Observed → Prop
  | nil (s : Observed) : Accounts first s [] s
  | cons {s s' s'' : Observed} {own : List (Except Error AccessToken)}
      {outcome : Except Error String} {later : List (Except Error String)}
      (h : Accounted cache readings first s own outcome s') (hlater : Accounts first s' later s'') :
      Accounts first s (outcome :: later) s''

variable {cache readings}

namespace Accounts

variable {first : Option AccessToken} {s s' s'' : Observed}
  {outcomes outcomes' : List (Except Error String)}

theorem append (h : Accounts cache readings first s outcomes s')
    (h' : Accounts cache readings first s' outcomes' s'') :
    Accounts cache readings first s (outcomes ++ outcomes') s'' := by
  induction h with
  | nil s => exact h'
  | cons hcall _ ih => exact .cons hcall (ih h')

/-- The cache keeps the last token that was given, all the way. -/
theorem kept (h : Accounts cache readings first s outcomes s')
    (hlatest : s.kept cache = latest first s.given) : s'.kept cache = latest first s'.given := by
  induction h with
  | nil s => exact hlatest
  | cons hcall _ ih => exact ih hcall.kept

/-- **The answers are the entries of the script in their order, each of them once.** -/
theorem inOrder (h : Accounts cache readings first s outcomes s') :
    ∃ m, s'.given = s.given ++ (List.range m).map s.stage.script.answerAt ∧
      s'.stage.script.tokens = s.stage.script.tokens.drop m := by
  induction h with
  | nil s => exact ⟨0, by simp⟩
  | @cons s s₁ s₂ own outcome later hcall _ ih =>
    obtain ⟨m, hgiven, htokens⟩ := ih
    have hshift : (List.range m).map s₁.stage.script.answerAt =
        ((List.range m).map (own.length + ·)).map s.stage.script.answerAt := by
      rw [List.map_map]
      exact List.map_congr_left fun n _ => Script.answerAt_drop hcall.tokens n
    refine ⟨own.length + m, ?_, ?_⟩
    · calc s₂.given = s.given ++ (own ++ (List.range m).map s₁.stage.script.answerAt) := by
            rw [hgiven, hcall.given, List.append_assoc]
        _ = s.given ++ ((List.range own.length).map s.stage.script.answerAt ++
              ((List.range m).map (own.length + ·)).map s.stage.script.answerAt) := by
            rw [hshift, ← hcall.inOrder]
        _ = s.given ++ (List.range (own.length + m)).map s.stage.script.answerAt := by
            rw [← List.map_append, ← List.range_add]
    · rw [htokens, hcall.tokens, List.drop_drop]

end Accounts

/-! ### Runs -/

variable (cache readings)

/-- The first of the callers, and then the others. -/
theorem callers_cons (m : Nat) (s : Observed) : cache.callers (Observed.answer readings) (m + 1) s =
    ((cache.token.run.runWith (Observed.answer readings) s).1 ::
        (cache.callers (Observed.answer readings) m
          (cache.token.run.runWith (Observed.answer readings) s).2).1,
      (cache.callers (Observed.answer readings) m
        (cache.token.run.runWith (Observed.answer readings) s).2).2) := rfl

theorem length_callers (m : Nat) (s : Observed) :
    (cache.callers (Observed.answer readings) m s).1.length = m := by
  induction m generalizing s with
  | zero => rfl
  | succ m ih => exact congrArg (· + 1) (ih _)

/-- Callers one after the other are accounted for. -/
theorem accounts_callers {first : Option AccessToken} : ∀ (m : Nat) {s : Observed},
    s.kept cache = latest first s.given →
      Accounts cache readings first s (cache.callers (Observed.answer readings) m s).1
        (cache.callers (Observed.answer readings) m s).2
  | 0, s, _ => .nil s
  | m + 1, s, hlatest => by
    obtain ⟨own, hcall⟩ := (called_token cache readings s).accounted cache readings hlatest
    exact .cons hcall (accounts_callers m hcall.kept)

/-- Callers in batches: those of a batch next to each other, one batch after the other. -/
def inBatches : List Nat → Observed → List (List (Option (Except Error String))) × Observed
  | [], s => ([], s)
  | size :: sizes, s =>
    let (outcomes, s) :=
      Tasks.runTogether (Observed.answer readings) (List.replicate size cache.token.run) s
    let (later, s) := inBatches sizes s
    (outcomes :: later, s)

/-- Callers next to each other come to what they come to one after the other. -/
theorem runTogether_eq_callers (size : Nat) (s : Observed) :
    Tasks.runTogether (Observed.answer readings) (List.replicate size cache.token.run) s =
      ((cache.callers (Observed.answer readings) size s).1.map some,
        (cache.callers (Observed.answer readings) size s).2) :=
  runTogether_eq_inTurn (Observed.answer readings) cache (fun _ => rfl) (fun _ => rfl) size s

theorem inBatches_cons (size : Nat) (sizes : List Nat) (s : Observed) :
    inBatches cache readings (size :: sizes) s =
      ((cache.callers (Observed.answer readings) size s).1.map some ::
          (inBatches cache readings sizes (cache.callers (Observed.answer readings) size s).2).1,
        (inBatches cache readings sizes (cache.callers (Observed.answer readings) size s).2).2) := by
  rw [inBatches, runTogether_eq_callers]

/-- **Batches of callers are accounted for**, caller by caller. -/
theorem accounts_inBatches {first : Option AccessToken} : ∀ (sizes : List Nat) {s : Observed},
    s.kept cache = latest first s.given → ∃ outcomes : List (List (Except Error String)),
      (inBatches cache readings sizes s).1 = outcomes.map (·.map some) ∧
        outcomes.map List.length = sizes ∧
          Accounts cache readings first s outcomes.flatten (inBatches cache readings sizes s).2
  | [], s, _ => ⟨[], rfl, rfl, .nil s⟩
  | size :: sizes, s, hlatest => by
    have hbatch := accounts_callers cache readings size hlatest
    obtain ⟨later, houtcomes, hsizes, haccounts⟩ :=
      accounts_inBatches sizes (hbatch.kept hlatest)
    rw [inBatches_cons]
    refine ⟨(cache.callers (Observed.answer readings) size s).1 :: later, ?_, ?_, ?_⟩
    · rw [List.map_cons, houtcomes]
    · rw [List.map_cons, hsizes, length_callers]
    · rw [List.flatten_cons]
      exact hbatch.append haccounts

/-! ### The first valid token -/

/-- No token is valid before the credential has answered with entry `k`, a valid token, and
no token expires or becomes valid while `n` callers look at the clock. -/
structure FirstValid (n : Nat) (s : Observed) (k : Nat) (fresh : AccessToken) : Prop where
  steady : ∀ token,
    (s.kept cache = some token ∨ ∃ j ≤ k, s.stage.script.answerAt j = .ok token) →
      ∀ i, s.looks ≤ i → i < s.looks + n →
        token.isExpired (readings i) = token.isExpired (readings s.looks)
  stale : ∀ token, s.kept cache = some token → token.isExpired (readings s.looks) = true
  early : ∀ j < k, ∀ token, s.stage.script.answerAt j = .ok token →
    token.isExpired (readings s.looks) = true
  entry : s.stage.script.answerAt k = .ok fresh
  valid : fresh.isExpired (readings s.looks) = false

variable {cache readings}

/-- With a stale token the credential is asked. -/
theorem Called.of_stale {s s' : Observed} {outcome : Except Error String}
    (h : cache.Called readings s outcome s')
    (hstale : ∀ token, s.kept cache = some token → token.isExpired (readings s.looks) = true) :
    outcome = (s.stage.script.answerAt 0).map AccessToken.token ∧
      cache.Renewed { s with looks := s.looks + looksAt (s.kept cache) }
        (s.stage.script.answerAt 0) s' := by
  cases h with
  | served token hkept hvalid =>
    rw [hstale token hkept] at hvalid
    cases hvalid
  | asked _ _ h => exact ⟨rfl, h⟩

/-- With a valid token it is not. -/
theorem Called.of_valid {s s' : Observed} {outcome : Except Error String}
    (h : cache.Called readings s outcome s') {token : AccessToken}
    (hkept : s.kept cache = some token) (hvalid : token.isExpired (readings s.looks) = false) :
    outcome = .ok token.token ∧ s' = { s with looks := s.looks + 1 } := by
  cases h with
  | served other hother _ =>
    rw [hkept] at hother
    obtain rfl := Option.some.inj hother
    exact ⟨rfl, rfl⟩
  | asked _ hstale _ =>
    rw [hstale token hkept] at hvalid
    cases hvalid

/-- All callers get a token that stays valid while they look at the clock. -/
theorem callers_valid {token : AccessToken} : ∀ (m : Nat) {s : Observed},
    s.kept cache = some token →
      (∀ i, s.looks ≤ i → i < s.looks + m → token.isExpired (readings i) = false) →
        cache.callers (Observed.answer readings) m s =
          (List.replicate m (.ok token.token), { s with looks := s.looks + m })
  | 0, _, _, _ => rfl
  | m + 1, s, hkept, hvalid => by
    have hnow : token.isExpired (readings s.looks) = false :=
      hvalid s.looks (Nat.le_refl _) (by omega)
    obtain ⟨houtcome, hafter⟩ := (called_token cache readings s).of_valid hkept hnow
    have hlater : cache.callers (Observed.answer readings) m { s with looks := s.looks + 1 } =
        (List.replicate m (.ok token.token), { s with looks := s.looks + 1 + m }) :=
      callers_valid m hkept fun i hi hlt => by
        dsimp only at hi hlt
        exact hvalid i (by omega) (by omega)
    rw [callers_cons, houtcome, hafter, hlater, List.replicate_succ, Nat.add_assoc,
      Nat.add_comm 1 m]

/-- After an answer that is no valid token, the first valid one is an entry nearer. -/
theorem FirstValid.renewed {n k : Nat} {s s' : Observed} {fresh : AccessToken}
    (h : FirstValid cache readings (n + 1) s (k + 1) fresh) (hn : 0 < n)
    (hrenewed : cache.Renewed { s with looks := s.looks + looksAt (s.kept cache) }
      (s.stage.script.answerAt 0) s') : FirstValid cache readings n s' k fresh := by
  have hlooks : s.looks ≤ s'.looks ∧ s'.looks ≤ s.looks + 1 := by
    have hat : looksAt (s.kept cache) ≤ 1 := looksAt_le_one _
    rw [hrenewed.looks]
    exact ⟨Nat.le_add_right _ _, Nat.add_le_add_left hat _⟩
  have hentry : ∀ j, s'.stage.script.answerAt j = s.stage.script.answerAt (j + 1) :=
    congrFun (Script.answerAt_succ hrenewed.tokens)
  -- the token that is kept now was kept before, or was the answer
  have hkept : ∀ token, s'.kept cache = some token →
      s.kept cache = some token ∨ s.stage.script.answerAt 0 = .ok token := by
    intro token htoken
    rw [hrenewed.kept] at htoken
    cases hreply : s.stage.script.answerAt 0 with
    | ok answered =>
      rw [hreply] at htoken
      exact .inr (congrArg Except.ok (Option.some.inj htoken))
    | error e =>
      rw [hreply] at htoken
      exact .inl htoken
  have hold : ∀ token,
      (s'.kept cache = some token ∨ ∃ j ≤ k, s'.stage.script.answerAt j = .ok token) →
        s.kept cache = some token ∨ ∃ j ≤ k + 1, s.stage.script.answerAt j = .ok token := by
    rintro token (htoken | ⟨j, hj, hjtoken⟩)
    · exact (hkept token htoken).imp_right fun h0 => ⟨0, Nat.zero_le _, h0⟩
    · exact .inr ⟨j + 1, Nat.succ_le_succ hj, hentry j ▸ hjtoken⟩
  have hsame : ∀ token,
      (s'.kept cache = some token ∨ ∃ j ≤ k, s'.stage.script.answerAt j = .ok token) →
        token.isExpired (readings s'.looks) = token.isExpired (readings s.looks) :=
    fun token htoken => h.steady token (hold token htoken) s'.looks hlooks.1 (by omega)
  have hexpired : ∀ token, s'.kept cache = some token →
      token.isExpired (readings s.looks) = true := fun token htoken =>
    (hkept token htoken).elim (h.stale token) (h.early 0 (Nat.succ_pos k) token)
  have hfresh : s'.stage.script.answerAt k = .ok fresh := (hentry k).trans h.entry
  constructor
  case steady =>
    intro token htoken i hi hlt
    rw [hsame token htoken]
    exact h.steady token (hold token htoken) i (by omega) (by omega)
  case stale =>
    intro token htoken
    rw [hsame token (.inl htoken)]
    exact hexpired token htoken
  case early =>
    intro j hj token htoken
    rw [hsame token (.inr ⟨j, Nat.le_of_lt hj, htoken⟩)]
    exact h.early (j + 1) (Nat.succ_lt_succ hj) token (hentry j ▸ htoken)
  case entry => exact hfresh
  case valid =>
    rw [hsame fresh (.inr ⟨k, Nat.le_refl k, hfresh⟩)]
    exact h.valid

/-- What callers get up to the first valid token, which is entry `k`, and from then on. -/
def upToValid (script : Script) (n k : Nat) (fresh : AccessToken) : List (Except Error String) :=
  (List.range k).map (fun j => (script.answerAt j).map AccessToken.token) ++
    List.replicate (n - k) (.ok fresh.token)

theorem upToValid_succ {script script' : Script} (h : script'.tokens = script.tokens.drop 1)
    (n k : Nat) (fresh : AccessToken) : upToValid script (n + 1) (k + 1) fresh =
      (script.answerAt 0).map AccessToken.token :: upToValid script' n k fresh := by
  unfold upToValid
  rw [Script.answerAt_succ h, List.range_succ_eq_map, List.map_cons, List.map_map, Nat.add_sub_add_right]
  rfl

/-- **The first valid token ends the requests.** Callers before get the answers to their own,
the others the token. -/
theorem callers_firstValid {fresh : AccessToken} : ∀ (k n : Nat) {s : Observed}, k < n →
    FirstValid cache readings n s k fresh →
      (cache.callers (Observed.answer readings) n s).1 = upToValid s.stage.script n k fresh ∧
      (cache.callers (Observed.answer readings) n s).2.given =
        s.given ++ (List.range (k + 1)).map s.stage.script.answerAt ∧
      (cache.callers (Observed.answer readings) n s).2.stage.demands =
        s.stage.demands ++ List.replicate (k + 1) (.token [audience])
  | k, 0, _, hk, _ => absurd hk (Nat.not_lt_zero k)
  | 0, n + 1, s, _, h => by
    obtain ⟨houtcome, hrenewed⟩ := (called_token cache readings s).of_stale h.stale
    rw [callers_cons, houtcome]
    generalize (cache.token.run.runWith (Observed.answer readings) s).2 = s' at hrenewed ⊢
    have hgiven : s'.given = s.given ++ [s.stage.script.answerAt 0] := hrenewed.given
    have hdemands : s'.stage.demands = s.stage.demands ++ [.token [audience]] := hrenewed.demands
    have hkept : s'.kept cache = some fresh := by
      rw [hrenewed.kept, h.entry]
      rfl
    have hlater : ∀ i, s'.looks ≤ i → i < s'.looks + n → fresh.isExpired (readings i) = false := by
      intro i hi hlt
      have hlooks : s'.looks = s.looks + looksAt (s.kept cache) := hrenewed.looks
      have hat : looksAt (s.kept cache) ≤ 1 := looksAt_le_one _
      rw [h.steady fresh (.inr ⟨0, Nat.le_refl 0, h.entry⟩) i (by omega) (by omega)]
      exact h.valid
    rw [callers_valid n hkept hlater]
    refine ⟨?_, hgiven, hdemands⟩
    rw [h.entry]
    rfl
  | k + 1, n + 1, s, hk, h => by
    obtain ⟨houtcome, hrenewed⟩ := (called_token cache readings s).of_stale h.stale
    rw [callers_cons, houtcome]
    generalize (cache.token.run.runWith (Observed.answer readings) s).2 = s' at hrenewed ⊢
    have hgiven : s'.given = s.given ++ [s.stage.script.answerAt 0] := hrenewed.given
    have hdemands : s'.stage.demands = s.stage.demands ++ [.token [audience]] := hrenewed.demands
    have htokens : s'.stage.script.tokens = s.stage.script.tokens.drop 1 := hrenewed.tokens
    obtain ⟨houtcomes, hgiven', hdemands'⟩ := callers_firstValid k n (Nat.lt_of_succ_lt_succ hk)
      (h.renewed (by omega) hrenewed)
    refine ⟨?_, ?_, ?_⟩
    · rw [houtcomes, upToValid_succ htokens]
    · have hrange : List.range (k + 1 + 1) = 0 :: (List.range (k + 1)).map Nat.succ :=
        List.range_succ_eq_map
      rw [hgiven', hgiven, Script.answerAt_succ htokens, hrange, List.map_cons, List.map_map,
        List.append_assoc, List.singleton_append]
    · rw [hdemands', hdemands, List.append_assoc]
      rfl

/-- **The accounts of a cache add up.** Take callers in batches of any sizes, whatever the cache
keeps, whatever the credential has in store and whatever the clock shows. They get what a chain
of calls gets, each of them accounted for, and the credential gives the entries of its script in
their order, each of them once. And when a batch starts without a valid token, and entry `k` is
the first valid one, then `k + 1` requests are made, the first `k` callers get the answers to
their own, and all others get that token. -/
theorem accounts_run (cache : TokenCache) (readings : Nat → Instant) :
    (∀ (stage : Stage) (sizes : List Nat), ∃ outcomes : List (List (Except Error String)),
      let run := inBatches cache readings sizes { stage }
      run.1 = outcomes.map (·.map some) ∧ outcomes.map List.length = sizes ∧
        Accounts cache readings (kept { stage } cache) { stage } outcomes.flatten run.2 ∧
          ∃ m, run.2.given = (List.range m).map stage.script.answerAt ∧
            run.2.stage.script.tokens = stage.script.tokens.drop m) ∧
      ∀ (s : Observed) (n k : Nat) (fresh : AccessToken), k < n →
        FirstValid cache readings n s k fresh →
          let run := Tasks.runTogether (Observed.answer readings)
            (List.replicate n cache.token.run) s
          run.1 = (upToValid s.stage.script n k fresh).map some ∧
            run.2.given = s.given ++ (List.range (k + 1)).map s.stage.script.answerAt ∧
              run.2.stage.demands = s.stage.demands ++ List.replicate (k + 1) (.token [audience]) := by
  refine ⟨fun stage sizes => ?_, fun s n k fresh hk hfirst => ?_⟩
  · have hlatest : kept { stage } cache = latest (kept { stage } cache) [] := rfl
    obtain ⟨outcomes, hrun, hsizes, haccounts⟩ := accounts_inBatches cache readings sizes hlatest
    obtain ⟨m, hgiven, htokens⟩ := haccounts.inOrder
    exact ⟨outcomes, hrun, hsizes, haccounts, m, by rw [hgiven, List.nil_append], htokens⟩
  · obtain ⟨houtcomes, hgiven, hdemands⟩ := callers_firstValid k n hk hfirst
    rw [runTogether_eq_callers]
    exact ⟨congrArg (List.map some) houtcomes, hgiven, hdemands⟩

/-- A credential that fails first, then gives a token that has expired, and then valid ones. -/
def wavering : Observed :=
  { stage := { script := { tokens := [.error (.credential "denied"), .ok ⟨"stale", 0⟩,
      .ok ⟨"fresh", 100⟩, .ok ⟨"spare", 100⟩] } } }

/-- A clock that is read once a second. -/
def ticking (look : Nat) : Instant := 40 + look

/-- Of four callers at once the first two get the failure and the expired token, the third asks
for a valid one, and the fourth finds it. -/
theorem accounts_run_wavering : ∃ cache : TokenCache,
    FirstValid cache ticking 4 wavering 2 ⟨"fresh", 100⟩ ∧
      (Tasks.runTogether (Observed.answer ticking) (List.replicate 4 cache.token.run) wavering).1 =
        [some (.error (.credential "denied")), some (.ok "stale"), some (.ok "fresh"),
          some (.ok "fresh")] := by
  have hfirst : FirstValid ⟨0⟩ ticking 4 wavering 2 ⟨"fresh", 100⟩ := by
    constructor
    case steady =>
      rintro token (htoken | ⟨j, hj, htoken⟩) i - hi
      · cases htoken
      · have hi' : i = 0 ∨ i = 1 ∨ i = 2 ∨ i = 3 := by
          change i < 0 + 4 at hi
          omega
        have hj' : j = 0 ∨ j = 1 ∨ j = 2 := by omega
        rcases hj' with rfl | rfl | rfl
        · cases htoken
        · obtain rfl := Except.ok.inj htoken
          rcases hi' with rfl | rfl | rfl | rfl <;> decide
        · obtain rfl := Except.ok.inj htoken
          rcases hi' with rfl | rfl | rfl | rfl <;> decide
    case stale =>
      rintro token htoken
      cases htoken
    case early =>
      intro j hj token htoken
      have hj' : j = 0 ∨ j = 1 := by omega
      rcases hj' with rfl | rfl
      · cases htoken
      · obtain rfl := Except.ok.inj htoken
        decide
    case entry => rfl
    case valid => decide
  exact ⟨⟨0⟩, hfirst, ((accounts_run ⟨0⟩ ticking).2 wavering 4 2 _ (by decide) hfirst).1⟩

end TokenCache
end MessageBus
