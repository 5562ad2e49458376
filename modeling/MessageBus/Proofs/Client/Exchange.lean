/-
# Exchanges

What a program asks and what it is answered are the exchanges of its run. Given
surroundings answer in one way; what a program ensures holds however it is
answered, so it holds of every run in any surroundings.

Key definitions: `Exchange`, `answers`, `performed`, `Program.exchanges`, `Program.Ensures`.
Key theorems: `Program.Ensures.bind`, `Program.Ensures.run`, `Operation.exchanges_bind`,
`Operation.ensures_bind`.
-/
import MessageBus.Client.Program

namespace MessageBus

/-- A request and the answer to it. -/
structure Exchange where
  request : Request
  reply : request.Reply

/-- A call and the answer to it. -/
def Exchange.ofCall (c : Call) (reply : Except String c.Result) : Exchange := ⟨.call c, reply⟩

/-- The answer to a call, if this is an answer to it. -/
def Exchange.reply? (c : Call) (e : Exchange) : Option (Except String c.Result) :=
  if h : e.request = .call c then some (cast (congrArg Request.Reply h) e.reply) else none

/-- The answers to a call that are on record, the first one first. -/
def answers (c : Call) (log : List Exchange) : List (Except String c.Result) :=
  log.filterMap (Exchange.reply? c)

/-- The report of a call that has failed. -/
def reported {α : Type} (c : Call) : Except String α → List Exchange
  | .ok _ => []
  | .error text => [⟨.report { message := c.failure, error := some text }, ()⟩]

/-- What a call comes to: the call, and the report of its failure. -/
def performed (c : Call) (reply : Except String c.Result) : List Exchange :=
  .ofCall c reply :: reported c reply

section Answers

variable {c c' : Call}

@[simp] theorem answers_nil (c : Call) : answers c [] = [] := rfl

@[simp] theorem answers_append (c : Call) (log log' : List Exchange) :
    answers c (log ++ log') = answers c log ++ answers c log' :=
  List.filterMap_append

theorem answers_cons_of_ne {e : Exchange} {log : List Exchange} (h : e.request ≠ .call c) :
    answers c (e :: log) = answers c log :=
  List.filterMap_cons_none (dif_neg h)

theorem answers_cons_ofCall (reply : Except String c.Result) (log : List Exchange) :
    answers c (.ofCall c reply :: log) = reply :: answers c log :=
  List.filterMap_cons_some (dif_pos rfl)

@[simp] theorem answers_reported {α : Type} (reply : Except String α) :
    answers c (reported c' reply) = [] := by
  cases reply with
  | ok _ => rfl
  | error text => exact answers_cons_of_ne Request.noConfusion

/-- A call is answered once. -/
theorem answers_performed (reply : Except String c.Result) :
    answers c (performed c reply) = [reply] :=
  (answers_cons_ofCall reply _).trans (congrArg (reply :: ·) (answers_reported reply))

theorem answers_performed_of_ne (h : c' ≠ c) (reply : Except String c'.Result) :
    answers c (performed c' reply) = [] :=
  (answers_cons_of_ne fun heq => h (Request.call.inj heq)).trans (answers_reported reply)

end Answers

/-! ### Runs -/

namespace Program

variable {α β σ : Type}

/-- The exchanges of a run against surroundings. -/
def exchanges (answer : (r : Request) → σ → r.Reply × σ) : Program α → σ → List Exchange
  | .done _, _ => []
  | .ask r next, s =>
    ⟨r, (answer r s).1⟩ :: (next (answer r s).1).exchanges answer (answer r s).2

/-- One program after the other exchanges what the first does, and then what the second
does from where the first ended. -/
theorem exchanges_bind (answer : (r : Request) → σ → r.Reply × σ) (p : Program α)
    (f : α → Program β) (s : σ) :
    (p.bind f).exchanges answer s = p.exchanges answer s ++
      (f (p.runWith answer s).1).exchanges answer (p.runWith answer s).2 := by
  induction p generalizing s with
  | done a => rfl
  | ask r next ih => simp [exchanges, runWith, ih]

/-- However the program is answered, its exchanges and its value are as `P` says. -/
def Ensures : Program α → (List Exchange → α → Prop) → Prop
  | .done a, P => P [] a
  | .ask r next, P => ∀ reply, (next reply).Ensures fun log a => P (⟨r, reply⟩ :: log) a

namespace Ensures

variable {p : Program α} {P P' : List Exchange → α → Prop}

theorem mono (h : p.Ensures P) (himp : ∀ log a, P log a → P' log a) : p.Ensures P' := by
  induction p generalizing P P' with
  | done a => exact himp [] a h
  | ask r next ih =>
    intro reply
    exact ih reply (h reply) fun log a => himp (⟨r, reply⟩ :: log) a

/-- What one program after the other ensures, by what the first ensures. -/
theorem bind {f : α → Program β} {Q : List Exchange → β → Prop} (h : p.Ensures P)
    (hf : ∀ log a, P log a → (f a).Ensures fun log' b => Q (log ++ log') b) :
    (p.bind f).Ensures Q := by
  induction p generalizing P Q with
  | done a => exact hf [] a h
  | ask r next ih =>
    intro reply
    exact ih reply (h reply) fun log a => hf (⟨r, reply⟩ :: log) a

/-- **What a program ensures holds of its run in any surroundings.** -/
theorem run (h : p.Ensures P) (answer : (r : Request) → σ → r.Reply × σ) (s : σ) :
    P (p.exchanges answer s) (p.runWith answer s).1 := by
  induction p generalizing P s with
  | done a => exact h
  | ask r next ih => exact ih (answer r s).1 (h (answer r s).1) (answer r s).2

end Ensures
end Program

namespace Operation

variable {α β σ : Type}

/-- An operation that fails leaves nothing to exchange for the one after it. -/
theorem exchanges_bind (answer : (r : Request) → σ → r.Reply × σ) (operation : Operation α)
    (f : α → Operation β) (s : σ) :
    (operation >>= f).run.exchanges answer s = operation.run.exchanges answer s ++
      match (operation.run.runWith answer s).1 with
      | .ok a => (f a).run.exchanges answer (operation.run.runWith answer s).2
      | .error _ => [] := by
  refine (Program.exchanges_bind answer operation.run _ s).trans ?_
  cases (operation.run.runWith answer s).1 with
  | ok a => rfl
  | error e => rfl

theorem runWith_bind (answer : (r : Request) → σ → r.Reply × σ) (operation : Operation α)
    (f : α → Operation β) (s : σ) :
    (operation >>= f).run.runWith answer s =
      match (operation.run.runWith answer s).1 with
      | .ok a => (f a).run.runWith answer (operation.run.runWith answer s).2
      | .error e => (.error e, (operation.run.runWith answer s).2) := by
  refine (Program.runWith_bind answer operation.run _ s).trans ?_
  cases (operation.run.runWith answer s).1 with
  | ok a => rfl
  | error e => rfl

/-- What one operation after the other ensures: the second comes only after a success. -/
theorem ensures_bind {operation : Operation α} {f : α → Operation β}
    {P : List Exchange → Except Error α → Prop} {Q : List Exchange → Except Error β → Prop}
    (h : operation.run.Ensures P)
    (hok : ∀ log a, P log (.ok a) → (f a).run.Ensures fun log' outcome => Q (log ++ log') outcome)
    (herror : ∀ log e, P log (.error e) → Q log (.error e)) :
    (operation >>= f).run.Ensures Q := by
  refine Program.Ensures.bind h fun log outcome hlog => ?_
  cases outcome with
  | ok a => exact hok log a hlog
  | error e =>
    show Q (log ++ []) (.error e)
    rw [List.append_nil]
    exact herror log e hlog

end Operation
end MessageBus
