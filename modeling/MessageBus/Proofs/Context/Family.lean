/-
# A family of contexts at work

The contexts on one connection, each in the hands of its caller, being closed,
or dropped without a close, together with the cell that they share. Every
request of a creation or a close is one step of the family, and the steps of
different contexts come in any order. The cell answers what concerns the
family; everything else is answered from outside, in any way.

A context can be closed or dropped only when no creation on it is under way:
a creation borrows the context, and a close takes it.

Key definitions: `FamilyCell.answer`, `Family.State`, `Family.Step`, `Family.Reachable`.
-/
import MessageBus.Client.Script
import MessageBus.Proofs.Context.Steps

namespace MessageBus

/-- The answer to a request while the cell of a family has given contents. -/
def FamilyCell.answer (family : Family) (outside : (r : Request) → r.Reply) :
    (r : Request) → FamilyCell → r.Reply × FamilyCell
  | .newFamily, _ => (family, ⟨1, false⟩)
  | .joinFamily f, cell =>
    ((), if f = family then { cell with openContexts := cell.openContexts + 1 } else cell)
  | .leaveFamily f, cell =>
    if f = family then (cell.openContexts, { cell with openContexts := cell.openContexts - 1 })
    else (outside (.leaveFamily f), cell)
  | .isStarted f, cell => (if f = family then cell.started else outside (.isStarted f), cell)
  | .setStarted f started, cell => ((), if f = family then { cell with started } else cell)
  | r, cell => (outside r, cell)

namespace Family

/-! ### States -/

/-- Where a context stands with its caller. -/
inductive Standing
  /-- The caller has it, and may have creations on it under way. -/
  | held (creations : List (Program (Except Error Context)))
  /-- It has been closed, with what is left of the close. -/
  | closing (left : Program (Except Error Unit))
  /-- The caller has let go of it without a close. -/
  | dropped

/-- A context of the family, and what has been asked on its behalf and answered. -/
structure Member where
  context : Context
  standing : Standing
  answered : List Request := []

/-- The cell of a family and its contexts, the first context first. -/
structure State where
  cell : FamilyCell
  members : List Member

/-- The request that a program waits for. -/
def next? {α : Type} : Program α → Option Request
  | .done _ => none
  | .ask r _ => some r

def Standing.pending : Standing → List Request
  | .held creations => creations.filterMap next?
  | .closing left => (next? left).toList
  | .dropped => []

/-- Everything asked on behalf of a context, answered or not. -/
def Member.asked (m : Member) : List Request := m.answered ++ m.standing.pending

/-- Whether a context has left the family. -/
def Member.hasLeft (m : Member) : Bool := decide (.leaveFamily m.context.family ∈ m.answered)

/-- What the caller knows of a context, creations under way apart. -/
def Member.view (m : Member) : Context × Standing :=
  (m.context, match m.standing with
    | .held _ => .held []
    | standing => standing)

def askedBy (members : List Member) : List Request := members.flatMap Member.asked

/-- The number of contexts that have not left the family. -/
def staying (members : List Member) : Nat := members.countP fun m => !m.hasLeft

/-! ### Steps -/

/-- What can happen. -/
inductive Move
  /-- A creation on a context begins. -/
  | derive
  /-- A request of a creation is answered, and it goes on. -/
  | create
  /-- The last request of a creation is answered, and there is one more context. -/
  | created
  /-- The last request of a creation is answered, and it has failed. -/
  | refused
  /-- A close begins. -/
  | close
  /-- A request of a close is answered. -/
  | closing
  | drop
  deriving DecidableEq

/-- What an answer makes of a program and of the cell. -/
def resume {α : Type} (family : Family) (outside : (r : Request) → r.Reply) (r : Request)
    (next : r.Reply → Program α) (cell : FamilyCell) : Program α × FamilyCell :=
  (next (FamilyCell.answer family outside r cell).1, (FamilyCell.answer family outside r cell).2)

inductive Step (family : Family) : Move → State → State → Prop
  | derive {cell : FamilyCell} {before after : List Member} {c : Context}
      {creations : List (Program (Except Error Context))} {answered : List Request}
      (mode : SessionMode) :
    Step family .derive ⟨cell, before ++ ⟨c, .held creations, answered⟩ :: after⟩
      ⟨cell, before ++ ⟨c, .held (creations ++ [(c.createContext mode).run]), answered⟩ :: after⟩
  | create {cell cell' : FamilyCell} {before after : List Member} {c : Context}
      {first later : List (Program (Except Error Context))} {answered : List Request}
      {r r' : Request} {next : r.Reply → Program (Except Error Context)}
      {next' : r'.Reply → Program (Except Error Context)} (outside : (r : Request) → r.Reply)
      (h : resume family outside r next cell = (.ask r' next', cell')) :
    Step family .create
      ⟨cell, before ++ ⟨c, .held (first ++ .ask r next :: later), answered⟩ :: after⟩
      ⟨cell', before ++ ⟨c, .held (first ++ .ask r' next' :: later), answered ++ [r]⟩ :: after⟩
  | created {cell cell' : FamilyCell} {before after : List Member} {c child : Context}
      {first later : List (Program (Except Error Context))} {answered : List Request}
      {r : Request} {next : r.Reply → Program (Except Error Context)}
      (outside : (r : Request) → r.Reply)
      (h : resume family outside r next cell = (.done (.ok child), cell')) :
    Step family .created
      ⟨cell, before ++ ⟨c, .held (first ++ .ask r next :: later), answered⟩ :: after⟩
      ⟨cell', before ++ ⟨c, .held (first ++ later), answered ++ [r]⟩ :: after ++
        [⟨child, .held [], []⟩]⟩
  | refused {cell cell' : FamilyCell} {before after : List Member} {c : Context} {e : Error}
      {first later : List (Program (Except Error Context))} {answered : List Request}
      {r : Request} {next : r.Reply → Program (Except Error Context)}
      (outside : (r : Request) → r.Reply)
      (h : resume family outside r next cell = (.done (.error e), cell')) :
    Step family .refused
      ⟨cell, before ++ ⟨c, .held (first ++ .ask r next :: later), answered⟩ :: after⟩
      ⟨cell', before ++ ⟨c, .held (first ++ later), answered ++ [r]⟩ :: after⟩
  | close {cell : FamilyCell} {before after : List Member} {c : Context}
      {answered : List Request} :
    Step family .close ⟨cell, before ++ ⟨c, .held [], answered⟩ :: after⟩
      ⟨cell, before ++ ⟨c, .closing c.close.run, answered⟩ :: after⟩
  | closing {cell cell' : FamilyCell} {before after : List Member} {c : Context}
      {answered : List Request} {r : Request} {next : r.Reply → Program (Except Error Unit)}
      {left : Program (Except Error Unit)} (outside : (r : Request) → r.Reply)
      (h : resume family outside r next cell = (left, cell')) :
    Step family .closing ⟨cell, before ++ ⟨c, .closing (.ask r next), answered⟩ :: after⟩
      ⟨cell', before ++ ⟨c, .closing left, answered ++ [r]⟩ :: after⟩
  | drop {cell : FamilyCell} {before after : List Member} {c : Context}
      {answered : List Request} :
    Step family .drop ⟨cell, before ++ ⟨c, .held [], answered⟩ :: after⟩
      ⟨cell, before ++ ⟨c, .dropped, answered⟩ :: after⟩

/-- The states that a family can come to, from the first context on a connection.
Its cell counts in 64 bits, and has to have room for the contexts that stay. -/
inductive Reachable (family : Family) (connection : Connection) : State → Prop
  | opened {mode : SessionMode} {outside : (r : Request) → r.Reply} {cell cell' : FamilyCell}
      {c : Context} (h : (Context.openOn connection mode).run.runWith
        (FamilyCell.answer family outside) cell = (.ok c, cell')) :
    Reachable family connection ⟨cell', [⟨c, .held [], []⟩]⟩
  | step {s s' : State} {move : Move} (hs : Reachable family connection s)
      (h : Step family move s s') (hroom : staying s'.members < UInt64.size) :
    Reachable family connection s'

end Family
end MessageBus
