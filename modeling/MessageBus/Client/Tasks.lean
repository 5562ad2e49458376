/-
# Tasks

Programs that run next to each other on one thread. A task is polled: it goes
on until it is done or has to wait, and then the next one is polled. A task
waits for a credential, which answers no earlier than at the next poll, and for
a cache that another task has taken. Those who wait for a cache are served in
the order in which they came.

Key definitions:

* `Task.poll`: what a poll makes of a task and of its surroundings.
* `Tasks.round`, `Tasks.rounds`: polls every task in turn, again and again.
-/
import MessageBus.Client.Program

namespace MessageBus

/-- Who has taken a cache and who waits for it: tasks by number, in the order in
which they came. The first in line for a cache has it. -/
abbrev Line := List (TokenCache × Nat)

namespace Line

/-- The line with a task at its end, unless it stands there already. -/
def join (line : Line) (cache : TokenCache) (task : Nat) : Line :=
  if (cache, task) ∈ line then line else line ++ [(cache, task)]

/-- The task that has a cache. -/
def holder? (line : Line) (cache : TokenCache) : Option Nat :=
  (line.find? (·.1 = cache)).map Prod.snd

/-- The line without a task. -/
def leave (line : Line) (cache : TokenCache) (task : Nat) : Line := line.erase (cache, task)

end Line

/-- What the tasks share: the line, and the surroundings. -/
structure Shared (σ : Type) where
  line : Line
  surroundings : σ

/-- A task that is under way: what is left of its program, and whether its
credential has been asked and answers now. -/
structure Task (α : Type) where
  left : Program α
  asked : Bool := false

namespace Task

variable {α σ : Type}

/-- Polls what is left of the program of task number `n`. -/
def run (answer : (r : Request) → σ → r.Reply × σ) (n : Nat) :
    Program α → Bool → Shared σ → Task α × Shared σ
  | .done a, asked, s => (⟨.done a, asked⟩, s)
  | .ask (.lock cache) next, asked, s =>
    let line := s.line.join cache n
    if line.holder? cache = some n then run answer n (next ()) asked { s with line }
    else (⟨.ask (.lock cache) next, asked⟩, { s with line })
  | .ask (.unlock cache) next, asked, s =>
    run answer n (next ()) asked { s with line := s.line.leave cache n }
  | .ask (.newToken cache scopes) next, false, s => (⟨.ask (.newToken cache scopes) next, true⟩, s)
  | .ask request next, _, s =>
    let (reply, surroundings) := answer request s.surroundings
    run answer n (next reply) false { s with surroundings }

def poll (answer : (r : Request) → σ → r.Reply × σ) (n : Nat) (t : Task α) (s : Shared σ) :
    Task α × Shared σ :=
  run answer n t.left t.asked s

def result? (t : Task α) : Option α :=
  match t.left with
  | .done a => some a
  | .ask .. => none

end Task

namespace Tasks

variable {α σ : Type}

/-- Polls every task once, the first of them under the number `n`. -/
def round (answer : (r : Request) → σ → r.Reply × σ) :
    Nat → List (Task α) → Shared σ → List (Task α) × Shared σ
  | _, [], s => ([], s)
  | n, t :: ts, s =>
    let (t, s) := t.poll answer n s
    let (ts, s) := round answer (n + 1) ts s
    (t :: ts, s)

def rounds (answer : (r : Request) → σ → r.Reply × σ) :
    Nat → List (Task α) → Shared σ → List (Task α) × Shared σ
  | 0, ts, s => (ts, s)
  | k + 1, ts, s =>
    let (ts, s) := round answer 0 ts s
    rounds answer k ts s

/-- Runs programs next to each other, with as many polls of each as they need
when they wait for one cache: one to come into line, and one for everyone whose
credential answers. -/
def runTogether (answer : (r : Request) → σ → r.Reply × σ) (programs : List (Program α)) (s : σ) :
    List (Option α) × σ :=
  let (tasks, shared) := rounds answer (programs.length + 1) (programs.map (⟨·, false⟩)) ⟨[], s⟩
  (tasks.map Task.result?, shared.surroundings)

end Tasks
end MessageBus
