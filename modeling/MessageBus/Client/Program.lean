/-
# Programs

An operation of this library is a program: it asks its surroundings for one
thing after another and goes on with each answer. The surroundings are the
client library and the credentials, which may fail, the clock, the source of
fresh identifiers and the trace context of the caller, the error log, and the
cells that several objects share. A program does not say how anything is
answered, so it can be run alone against any answers, or step by step next to
other programs.

Key definitions:

* `Request`, `Request.Reply`: what a program can ask for, and the types of the
  answers.
* `Program`: a tree of requests, with a branch for every answer.
* `Operation`: a program that can fail; `perform` makes a call, reports its
  failure and fails with it.
* `Program.runWith`: a run against given surroundings.
-/
import MessageBus.Client.Call

namespace MessageBus

/-- A point in time, in seconds. -/
abbrev Instant := Int

/-- A token and the instant from which it is no longer valid. -/
structure AccessToken where
  token : String
  expiresOn : Instant
  deriving DecidableEq

/-- Whether a token can no longer be presented at an instant. -/
def AccessToken.isExpired (t : AccessToken) (now : Instant) : Bool := t.expiresOn ≤ now

/-- A cache over a credential, which keeps the last token of the credential. -/
structure TokenCache where
  number : Nat
  deriving DecidableEq

/-- A family of contexts on one connection, which share a started flag and the
count of those still open. -/
structure Family where
  number : Nat
  deriving DecidableEq

structure Event where
  message : String
  error : Option String := none
  kind : Option String := none
  deriving DecidableEq

/-- What a program can ask its surroundings for. -/
inductive Request
  | call (c : Call)
  | clientId (connection : Handle .connection)
  | sessionMode (session : Handle .session)
  /-- A new token for scopes from the credential of a cache. -/
  | newToken (cache : TokenCache) (scopes : List String)
  | now
  | freshId
  | traceEntries
  | report (event : Event)
  /-- Waits until a cache is free and takes it. -/
  | lock (cache : TokenCache)
  /-- Frees a cache. -/
  | unlock (cache : TokenCache)
  /-- The token that a cache keeps. -/
  | cachedToken (cache : TokenCache)
  | keepToken (cache : TokenCache) (token : AccessToken)
  /-- A new family with one open context. -/
  | newFamily
  /-- Counts one more open context. -/
  | joinFamily (family : Family)
  /-- Counts one open context less, and gives the count before. -/
  | leaveFamily (family : Family)
  /-- Whether the connection of a family has been started. -/
  | isStarted (family : Family)
  /-- Notes whether the connection of a family has been started. -/
  | setStarted (family : Family) (started : Bool)
  deriving DecidableEq

def Request.Reply : Request → Type
  | .call c => Except String c.Result
  | .clientId _ => Option String
  | .sessionMode _ => SessionMode
  | .newToken .. => Except Error AccessToken
  | .now => Instant
  | .freshId => String
  | .traceEntries => List (String × String)
  | .cachedToken _ => Option AccessToken
  | .newFamily => Family
  | .leaveFamily _ => UInt64
  | .isStarted _ => Bool
  | _ => Unit

/-- A program: it is done, or it asks for something and goes on with the answer. -/
inductive Program (α : Type) where
  | done (value : α)
  | ask (request : Request) (next : request.Reply → Program α)

namespace Program

variable {α β γ σ : Type}

def bind : Program α → (α → Program β) → Program β
  | .done a, f => f a
  | .ask request next, f => .ask request fun reply => (next reply).bind f

instance : Monad Program where
  pure := .done
  bind := .bind

/-- The program that asks for one thing. -/
def request (r : Request) : Program r.Reply := .ask r .done

@[simp] theorem pure_eq (a : α) : (pure a : Program α) = .done a := rfl

@[simp] theorem bind_eq (p : Program α) (f : α → Program β) : p >>= f = p.bind f := rfl

@[simp] theorem done_bind (a : α) (f : α → Program β) : (Program.done a).bind f = f a := rfl

@[simp] theorem ask_bind (r : Request) (next : r.Reply → Program α) (f : α → Program β) :
    (Program.ask r next).bind f = .ask r fun reply => (next reply).bind f := rfl

theorem bind_done (p : Program α) : p.bind .done = p := by
  induction p with
  | done a => rfl
  | ask r next ih => simp [ih]

theorem bind_assoc (p : Program α) (f : α → Program β) (g : β → Program γ) :
    (p.bind f).bind g = p.bind fun a => (f a).bind g := by
  induction p with
  | done a => rfl
  | ask r next ih => simp [ih]

instance : LawfulMonad Program :=
  LawfulMonad.mk' Program
    (fun p => bind_done p)
    (fun _ _ => rfl)
    (fun p f g => bind_assoc p f g)

/-- Runs a program against surroundings that answer every request and change
with it. -/
def runWith (answer : (r : Request) → σ → r.Reply × σ) : Program α → σ → α × σ
  | .done a, s => (a, s)
  | .ask r next, s =>
    let (reply, s) := answer r s
    (next reply).runWith answer s

@[simp] theorem runWith_done (answer : (r : Request) → σ → r.Reply × σ) (a : α) (s : σ) :
    (Program.done a).runWith answer s = (a, s) := rfl

/-- **A run of one program after the other is a run of the second from where the
first ended.** -/
theorem runWith_bind (answer : (r : Request) → σ → r.Reply × σ) (p : Program α)
    (f : α → Program β) (s : σ) :
    (p.bind f).runWith answer s =
      (f (p.runWith answer s).1).runWith answer (p.runWith answer s).2 := by
  induction p generalizing s with
  | done a => rfl
  | ask r next ih => simp [runWith, ih]

end Program

/-- A program that can fail. -/
abbrev Operation (α : Type) := ExceptT Error Program α

def ask (r : Request) : Operation r.Reply := ExceptT.lift (Program.request r)

def report (event : Event) : Operation Unit := ask (.report event)

/-- Makes a call. Its failure is reported with the text of the client library,
and the operation fails with it. -/
def perform (c : Call) : Operation c.Result := do
  let reply : Except String c.Result ← ask (.call c)
  match reply with
  | .ok result => return result
  | .error text =>
    report { message := c.failure, error := some text }
    throw (.client text)

/-- The outcome of an operation, as a program that cannot fail. -/
def attempt {α : Type} (operation : Operation α) : Operation (Except Error α) :=
  ExceptT.lift operation.run

/-- The value of an outcome, or its failure. -/
def fromOutcome {α : Type} (outcome : Except Error α) : Operation α := ExceptT.mk (pure outcome)

end MessageBus
