/-
# Calls on record

Of all that an operation asks for, only the calls reach the client library. An operation
comes to the calls on its record, each with its answer; the reports of failures, the clock
and the cells of caches and families are not among them. Getting a token takes no call.

Key definitions: `AnsweredCall`, `calls`, `connects`, `Program.MakesNoCall`.
Key theorems: `perform_performed`, `perform_ensures`, `TokenCache.token_makesNoCall`.
-/
import MessageBus.Proofs.Client.Exchange
import MessageBus.Proofs.Context.Steps
import MessageBus.Proofs.Credential

namespace MessageBus

/-! ### Calls on record -/

/-- A call and the answer to it. -/
structure AnsweredCall where
  call : Call
  reply : Except String call.Result

def Exchange.answeredCall? : Exchange → Option AnsweredCall
  | ⟨.call c, reply⟩ => some ⟨c, reply⟩
  | _ => none

/-- The calls on record, the first one first. -/
def calls (log : List Exchange) : List AnsweredCall := log.filterMap Exchange.answeredCall?

@[simp] theorem calls_append (log log' : List Exchange) :
    calls (log ++ log') = calls log ++ calls log' :=
  List.filterMap_append

theorem calls_cons_of_ne {r : Request} (hr : ∀ c, r ≠ .call c) (reply : r.Reply)
    (log : List Exchange) : calls (⟨r, reply⟩ :: log) = calls log := by
  cases r with
  | call c => exact absurd rfl (hr c)
  | _ => rfl

/-- The report of a failure is no call. -/
theorem calls_performed (c : Call) (reply : Except String c.Result) :
    calls (performed c reply) = [⟨c, reply⟩] := by
  cases reply <;> rfl

/-- A call is performed, and nothing else is asked for but the report of its failure. -/
theorem perform_performed (c : Call) : (perform c).run.Ensures fun log outcome =>
    ∃ reply, log = performed c reply ∧ outcome = reply.mapError Error.client := by
  rw [perform_run]
  intro reply
  cases reply with
  | ok result => exact ⟨.ok result, rfl, rfl⟩
  | error text =>
    intro _
    exact ⟨.error text, rfl, rfl⟩

/-- A call is performed once, and fails as the answer does. -/
theorem perform_ensures (c : Call) : (perform c).run.Ensures fun log outcome =>
    ∃ reply, calls log = [⟨c, reply⟩] ∧ outcome = reply.mapError Error.client := by
  refine (perform_performed c).mono ?_
  rintro log outcome ⟨reply, rfl, rfl⟩
  exact ⟨reply, calls_performed c reply, rfl⟩

/-- The request for a connection that a call is, if it is one. -/
def AnsweredCall.connect? (a : AnsweredCall) : Option ConnectRequest :=
  match a.call with
  | .connect request => some request
  | _ => none

/-- The requests for connections among calls, the first one first. -/
def connects (made : List AnsweredCall) : List ConnectRequest :=
  made.filterMap AnsweredCall.connect?

/-! ### Programs without calls -/

/-- However it is answered, the program makes no call. -/
def Program.MakesNoCall {α : Type} (p : Program α) : Prop := p.Ensures fun log _ => calls log = []

namespace Program.MakesNoCall

variable {α β : Type}

theorem done (a : α) : (Program.done a).MakesNoCall := rfl

theorem ask {r : Request} {next : r.Reply → Program α} (hr : ∀ c, r ≠ .call c)
    (hnext : ∀ reply, (next reply).MakesNoCall) : (Program.ask r next).MakesNoCall := by
  intro reply
  have hrest : (next reply).Ensures fun log _ => calls log = [] := hnext reply
  exact hrest.mono fun log _ hlog => (calls_cons_of_ne hr reply log).trans hlog

theorem bind {p : Program α} {f : α → Program β} (h : p.MakesNoCall)
    (hf : ∀ a, (f a).MakesNoCall) : (p.bind f).MakesNoCall := by
  refine Program.Ensures.bind h fun log a hlog => ?_
  have hrest : (f a).Ensures fun log _ => calls log = [] := hf a
  refine hrest.mono fun log' _ hlog' => ?_
  rw [calls_append, hlog, hlog']
  rfl

end Program.MakesNoCall

namespace TokenCache

variable (cache : TokenCache)

theorem renew_makesNoCall : cache.renew.run.MakesNoCall := by
  rw [renew_run]
  refine .ask (fun _ => Request.noConfusion) fun reply => ?_
  cases (reply : Except Error AccessToken) with
  | ok fresh => exact .ask (fun _ => Request.noConfusion) fun _ => .done _
  | error e => exact .ask (fun _ => Request.noConfusion) fun _ => .done _

theorem current_makesNoCall : cache.current.run.MakesNoCall := by
  rw [current_run]
  refine .ask (fun _ => Request.noConfusion) fun kept => ?_
  cases (kept : Option AccessToken) with
  | none => exact cache.renew_makesNoCall
  | some kept =>
    refine .ask (fun _ => Request.noConfusion) fun now => ?_
    split
    · exact cache.renew_makesNoCall
    · exact .done _

/-- A token is got without a call. -/
theorem token_makesNoCall : cache.token.run.MakesNoCall := by
  rw [token_run]
  refine .ask (fun _ => Request.noConfusion) fun _ => ?_
  refine cache.current_makesNoCall.bind fun outcome => ?_
  exact .ask (fun _ => Request.noConfusion) fun _ => .done _

end TokenCache
end MessageBus
