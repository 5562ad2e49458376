/-
# How operations fail

Only a call and a request for a token can fail, and each failure is reported. An
operation heeds its failures if it succeeds exactly when there are none, fails with
the first one otherwise, asks for nothing again that it was refused, and reports each
failure once, in order. One operation after the other heeds failures if both do
(`Operation.HeedsFailures.bind`), so what is left to look at are the operations that go
on after a failure.

Key definitions: `Failure`, `failures`, `events`, `Heeds`, `Operation.HeedsFailures`.
Key theorems: `Heeds.append`, `Heeds.append_error`, `Operation.heedsFailures_perform`,
`Operation.HeedsFailures.bind`, `TokenCache.heedsFailures_token`.
-/
import MessageBus.Proofs.Client.Calls

namespace MessageBus

/-! ### Failures on record -/

/-- A failure: the error that it is to an operation, and the report of it. -/
structure Failure where
  error : Error
  event : Event

def Call.failureOf (c : Call) (text : String) : Failure :=
  ⟨.client text, { message := c.failure, error := some text }⟩

/-- The failure to get a token. -/
def TokenCache.failureOf (e : Error) : Failure :=
  ⟨e, { message := "failure to acquire token", error := some e.message }⟩

/-- The failure that the answer to a request is, if it is one. -/
def Request.failure? : (r : Request) → r.Reply → Option Failure
  | .call c, .error text => some (c.failureOf text)
  | .newToken .., .error e => some (TokenCache.failureOf e)
  | _, _ => none

def Exchange.failure? (e : Exchange) : Option Failure := e.request.failure? e.reply

def Exchange.event? (e : Exchange) : Option Event :=
  match e.request with
  | .report event => some event
  | _ => none

/-- The failures on record, the first one first. -/
def failures (log : List Exchange) : List Failure := log.filterMap Exchange.failure?

/-- The entries of the error log on record, the first one first. -/
def events (log : List Exchange) : List Event := log.filterMap Exchange.event?

/-- A request that cannot fail and reports nothing. -/
def Request.IsQuiet : Request → Prop
  | .call _ | .newToken .. | .report _ => False
  | _ => True

section Records

variable {log log' : List Exchange}

@[simp] theorem failures_append : failures (log ++ log') = failures log ++ failures log' :=
  List.filterMap_append

@[simp] theorem events_append : events (log ++ log') = events log ++ events log' :=
  List.filterMap_append

theorem Request.IsQuiet.failure? {r : Request} (h : r.IsQuiet) (reply : r.Reply) :
    r.failure? reply = none := by
  cases r with
  | call _ => exact h.elim
  | newToken _ _ => exact h.elim
  | _ => rfl

theorem Request.IsQuiet.event? {r : Request} (h : r.IsQuiet) (reply : r.Reply) :
    Exchange.event? ⟨r, reply⟩ = none := by
  cases r with
  | report _ => exact h.elim
  | _ => rfl

/-- What fails is not quiet. -/
theorem Exchange.not_isQuiet {e : Exchange} (h : e.failure?.isSome) : ¬ e.request.IsQuiet := by
  intro hquiet
  have hnone : e.failure? = none := hquiet.failure? e.reply
  rw [hnone] at h
  exact Bool.noConfusion h

theorem failure?_of_failures_eq_nil {e : Exchange} (h : failures log = []) (he : e ∈ log) :
    e.failure? = none :=
  List.filterMap_eq_nil_iff.1 h e he

theorem failures_performed_error (c : Call) (text : String) :
    failures (performed c (.error text)) = [c.failureOf text] := rfl

end Records

/-! ### Heeding failures -/

/-- The outcome of an operation and its reports go by the failures on record: it succeeds
if there are none and fails with the first one otherwise, nothing that has failed is asked
for again, and every failure is reported once. -/
structure Heeds {α : Type} (log : List Exchange) (outcome : Except Error α) : Prop where
  ok_iff : (∃ value, outcome = .ok value) ↔ failures log = []
  first : ∀ e, outcome = .error e → (failures log).head?.map Failure.error = some e
  once : log.Pairwise fun earlier later => earlier.failure?.isSome → later.request ≠ earlier.request
  reports : events log = (failures log).map Failure.event

namespace Heeds

variable {α β : Type} {log log' : List Exchange} {e : Error} {a : α} {outcome : Except Error α}

theorem of_ok (hfailures : failures log = []) (hevents : events log = []) :
    Heeds log (.ok a : Except Error α) := by
  refine ⟨⟨fun _ => hfailures, fun _ => ⟨a, rfl⟩⟩, fun e he => ?_, ?_, ?_⟩
  · cases he
  · refine List.pairwise_of_forall_mem_list fun earlier hmem later _ hsome => ?_
    rw [failure?_of_failures_eq_nil hfailures hmem] at hsome
    exact Bool.noConfusion hsome
  · rw [hevents, hfailures]
    rfl

theorem of_error {failure : Failure} {later : List Failure}
    (hfailures : failures log = failure :: later)
    (honce : log.Pairwise fun earlier later =>
      earlier.failure?.isSome → later.request ≠ earlier.request)
    (hreports : events log = (failures log).map Failure.event) :
    Heeds log (.error failure.error : Except Error α) := by
  refine ⟨⟨?_, fun hnil => ?_⟩, fun e he => ?_, honce, hreports⟩
  · rintro ⟨value, hvalue⟩
    cases hvalue
  · rw [hfailures] at hnil
    cases hnil
  · obtain rfl : failure.error = e := Except.error.inj he
    rw [hfailures]
    rfl

/-- A failure is the same for an operation with results of another type. -/
theorem retype (h : Heeds log (.error e : Except Error α)) :
    Heeds log (.error e : Except Error β) := by
  obtain ⟨failure, hhead, herror⟩ := Option.map_eq_some_iff.1 (h.first e rfl)
  obtain ⟨later, hlater⟩ := List.head?_eq_some_iff.1 hhead
  subst herror
  exact of_error hlater h.once h.reports

theorem failures_eq_nil (h : Heeds log (.ok a : Except Error α)) : failures log = [] :=
  h.ok_iff.1 ⟨a, rfl⟩

/-- After a success the outcome is up to what follows. -/
theorem append (h : Heeds log (.ok a : Except Error α)) {outcome : Except Error β}
    (h' : Heeds log' outcome) : Heeds (log ++ log') outcome := by
  have hnil : failures log = [] := h.failures_eq_nil
  have hall : failures (log ++ log') = failures log' := by
    rw [failures_append, hnil, List.nil_append]
  refine ⟨?_, fun e he => ?_, ?_, ?_⟩
  · rw [hall]
    exact h'.ok_iff
  · rw [hall]
    exact h'.first e he
  · refine List.pairwise_append.2 ⟨h.once, h'.once, fun earlier hmem later _ hsome => ?_⟩
    rw [failure?_of_failures_eq_nil hnil hmem] at hsome
    exact Bool.noConfusion hsome
  · rw [events_append, h.reports, hall, h'.reports, hnil]
    rfl

/-- After a failure the outcome stays, whatever comes of what follows, as long as nothing is
asked for again. -/
theorem append_error (h : Heeds log (.error e : Except Error α)) {outcome : Except Error β}
    (h' : Heeds log' outcome)
    (hnew : ∀ earlier ∈ log, earlier.failure?.isSome →
      ∀ later ∈ log', later.request ≠ earlier.request) :
    Heeds (log ++ log') (.error e : Except Error α) := by
  obtain ⟨failure, hhead, herror⟩ := Option.map_eq_some_iff.1 (h.first e rfl)
  obtain ⟨rest, hrest⟩ := List.head?_eq_some_iff.1 hhead
  subst herror
  -- what fails later is added behind the first failure
  have hall : failures (log ++ log') = failure :: (rest ++ failures log') := by
    rw [failures_append, hrest, List.cons_append]
  refine of_error hall ?_ ?_
  · refine List.pairwise_append.2 ⟨h.once, h'.once, fun earlier hmem later hlater hsome => ?_⟩
    exact hnew earlier hmem hsome later hlater
  · rw [events_append, failures_append, List.map_append, h.reports, h'.reports]

theorem of_quiet {r : Request} (hr : r.IsQuiet) (reply : r.Reply) :
    Heeds [⟨r, reply⟩] (.ok a : Except Error α) := by
  refine of_ok ?_ ?_
  · exact List.filterMap_cons_none (hr.failure? reply)
  · exact List.filterMap_cons_none (hr.event? reply)

theorem cons_quiet (h : Heeds log outcome) {r : Request} (hr : r.IsQuiet) (reply : r.Reply) :
    Heeds (⟨r, reply⟩ :: log) outcome := by
  have hquiet : Heeds [⟨r, reply⟩] (.ok () : Except Error Unit) := of_quiet hr reply
  exact hquiet.append h

theorem concat_quiet (h : Heeds log outcome) {r : Request} (hr : r.IsQuiet) (reply : r.Reply) :
    Heeds (log ++ [⟨r, reply⟩]) outcome := by
  cases outcome with
  | ok a => exact h.append (of_quiet hr reply)
  | error e =>
    refine h.append_error (of_quiet (a := ()) hr reply) fun earlier _ hsome later hlater heq => ?_
    obtain rfl := List.mem_singleton.1 hlater
    have hquiet : earlier.request.IsQuiet := heq ▸ hr
    exact Exchange.not_isQuiet hsome hquiet

theorem performed (c : Call) (reply : Except String c.Result) :
    Heeds (performed c reply) (reply.mapError Error.client) := by
  cases reply with
  | ok result => exact of_ok rfl rfl
  | error text =>
    refine of_error (failures_performed_error c text) ?_ rfl
    refine List.pairwise_pair.2 fun _ heq => ?_
    exact Request.noConfusion heq

end Heeds

section Performed

variable {c c' : Call} {log : List Exchange} {e : Exchange}

/-- What is asked for when a call is performed: the call, or that its failure is reported. -/
theorem request_of_mem_performed {reply : Except String c.Result} (h : e ∈ performed c reply) :
    e.request = .call c ∨ ∃ event, e.request = .report event := by
  rcases List.mem_cons.1 h with rfl | h
  · exact .inl rfl
  · cases reply with
    | ok _ => cases h
    | error text =>
      obtain rfl := List.mem_singleton.1 h
      exact .inr ⟨_, rfl⟩

/-- Performing a call does not make another one. -/
theorem request_ne_of_mem_performed (hne : c' ≠ c) {reply : Except String c'.Result}
    (h : e ∈ performed c' reply) : e.request ≠ .call c := by
  intro heq
  rcases request_of_mem_performed h with hcall | ⟨event, hreport⟩
  · exact hne (Request.call.inj (hcall.symm.trans heq))
  · exact Request.noConfusion (hreport.symm.trans heq)

/-- After a call that has failed the outcome stays, as long as the call is not made again. -/
theorem Heeds.performed_error_append {α β : Type} (text : String) {outcome : Except Error α}
    (h : Heeds log outcome) (hnew : ∀ e ∈ log, e.request ≠ .call c) :
    Heeds (MessageBus.performed c (.error text) ++ log)
      (.error (.client text) : Except Error β) := by
  have hfailed : Heeds (MessageBus.performed c (.error text))
      (.error (.client text) : Except Error c.Result) := Heeds.performed c (.error text)
  refine hfailed.retype.append_error h fun earlier hearlier hsome later hlater heq => ?_
  rcases request_of_mem_performed hearlier with hcall | ⟨event, hreport⟩
  · exact hnew later hlater (heq.trans hcall)
  · obtain ⟨request, reply⟩ := earlier
    obtain rfl : request = .report event := hreport
    exact Bool.noConfusion hsome

end Performed

/-! ### Operations -/

namespace Operation

variable {α β : Type}

/-- However it is answered, the operation heeds its failures. -/
def HeedsFailures (operation : Operation α) : Prop := operation.run.Ensures Heeds

theorem heedsFailures_pure (a : α) : HeedsFailures (pure a) := Heeds.of_ok rfl rfl

theorem heedsFailures_ask {r : Request} (hr : r.IsQuiet) : HeedsFailures (ask r) := by
  intro reply
  exact Heeds.of_quiet hr reply

theorem heedsFailures_perform (c : Call) : HeedsFailures (perform c) := by
  refine (perform_performed c).mono ?_
  rintro log outcome ⟨reply, rfl, rfl⟩
  exact Heeds.performed c reply

/-- **One operation after the other heeds its failures if both do.** -/
theorem HeedsFailures.bind {operation : Operation α} {f : α → Operation β}
    (h : HeedsFailures operation) (hf : ∀ a, HeedsFailures (f a)) :
    HeedsFailures (operation >>= f) := by
  refine ensures_bind h (fun log a hlog => ?_) fun log e hlog => hlog.retype
  have hrest : (f a).run.Ensures Heeds := hf a
  exact hrest.mono fun log' outcome' hlog' => hlog.append hlog'

theorem heedsFailures_result (c : Call) (f : c.Result → α) :
    HeedsFailures (perform c >>= fun result => pure (f result)) :=
  (heedsFailures_perform c).bind fun result => heedsFailures_pure (f result)

end Operation

/-! ### Getting a token -/

namespace TokenCache

open Operation

variable (cache : TokenCache)

theorem heedsFailures_renew : HeedsFailures cache.renew := by
  show cache.renew.run.Ensures Heeds
  rw [renew_run]
  intro reply
  cases reply with
  | ok fresh =>
    intro _
    exact Heeds.of_ok rfl rfl
  | error e =>
    intro _
    have hfailures : failures [⟨.newToken cache [audience], .error e⟩,
        ⟨.report (failureOf e).event, ()⟩] = [failureOf e] := rfl
    refine Heeds.of_error hfailures ?_ rfl
    refine List.pairwise_pair.2 fun _ heq => ?_
    exact Request.noConfusion heq

theorem heedsFailures_current : HeedsFailures cache.current := by
  refine (heedsFailures_ask (r := .cachedToken cache) trivial).bind fun kept => ?_
  cases (kept : Option AccessToken) with
  | none => exact cache.heedsFailures_renew
  | some kept =>
    refine (heedsFailures_ask (r := .now) trivial).bind fun now => ?_
    split
    · exact cache.heedsFailures_renew
    · exact heedsFailures_pure kept.token

/-- A failure to get a token is not changed by freeing the cache. -/
theorem heedsFailures_token : HeedsFailures cache.token := by
  show cache.token.run.Ensures Heeds
  rw [token_run]
  intro locked
  have hcurrent : cache.current.run.Ensures Heeds := cache.heedsFailures_current
  refine hcurrent.bind fun log outcome hlog unlocked => ?_
  have hfreed : Heeds (log ++ [⟨.unlock cache, unlocked⟩]) outcome :=
    hlog.concat_quiet (r := .unlock cache) trivial unlocked
  exact hfreed.cons_quiet (r := .lock cache) trivial locked

end TokenCache
end MessageBus
