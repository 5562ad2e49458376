/-
# The started flag under overlapping operations

Whatever operations of the contexts on a connection overlap, the started flag is what has
been noted last, and once they have ended every start and stop has been noted, once. Starts
and stops that overlap can be noted in another order than they were answered in, though. So
the flag tells whether the connection was started last exactly when what was noted last is
what was answered last. When it is not, the flag can say that the connection is started when
it is not, and consumers are created that do not start it.

Key definitions: `Overlap.outstanding`, `Overlap.State.Sound`, `Overlap.State.Tells`.
Key theorems: `Overlap.Moved.sound`, `Overlap.State.sound_run`, `Overlap.State.tells_run`.
-/
import MessageBus.Proofs.Client.Failure
import MessageBus.Proofs.Context.Overlap

namespace MessageBus
namespace Overlap

/-! ### What is so in every state -/

/-- What is so of an operation in every state. -/
structure Flight.Sound (family : Family) (connection : Connection) (w : World) (f : Flight) :
    Prop where
  owner : f.owner.family = family ∧ f.owner.connection = connection
  left : f.left.Follows (Leaves f.owner)
  last : f.last ≤ w.log.length
  /-- A consumer of a context that starts the connection was given out when it counted as
  started. -/
  consumer : f.owner.autoStart = true → f.made?.isSome →
    (notes family (w.log.take f.last)).getLast? = some true

/-- How many operations are about to note that the connection has been started, or not. -/
def outstanding (family : Family) (on : Bool) (flights : List Flight) : Nat :=
  flights.countP fun f => f.left.owes family = some on

/-- What is so in every state. -/
structure State.Sound (family : Family) (connection : Connection) (s : State) : Prop where
  members : ∀ c ∈ s.contexts, c.family = family ∧ c.connection = connection
  flights : ∀ f ∈ s.flights, f.Sound family connection s.world
  /-- What has been noted last is what counts. -/
  started : s.world.cell.started = (notes family s.world.log).getLast?.getD false
  /-- What has been answered has been noted, or will be next. -/
  owed : ∀ on, (switches connection s.world.log).count on =
    (notes family s.world.log).count on + outstanding family on s.flights
  backed : Backed family connection s.world.log

section Sound

variable {family : Family} {connection : Connection} {outside : Outside} {s s' : State}

theorem outstanding_append (on : Bool) (before after : List Flight) :
    outstanding family on (before ++ after) =
      outstanding family on before + outstanding family on after :=
  List.countP_append

theorem outstanding_cons (on : Bool) (f : Flight) (after : List Flight) :
    outstanding family on (f :: after) =
      outstanding family on after + if f.left.owes family = some on then 1 else 0 := by
  simp [outstanding, List.countP_cons]

/-- An exchange changes the started flag by what it notes. -/
theorem started_answer (family : Family) (others : (r : Request) → r.Reply) {r : Request}
    (hr : r ≠ .newFamily) (cell : FamilyCell) :
    (FamilyCell.answer family others r cell).2.started = (r.note? family).getD cell.started := by
  cases r with
  | newFamily => exact absurd rfl hr
  | joinFamily f =>
    unfold FamilyCell.answer
    dsimp only
    split <;> rfl
  | leaveFamily f =>
    unfold FamilyCell.answer
    dsimp only
    split <;> rfl
  | setStarted f started =>
    unfold FamilyCell.answer Request.note?
    dsimp only
    split <;> rfl
  | _ => rfl

/-- A consumer that is given out for an exchange is given out when the connection counts as
started. -/
theorem Leaves.counts_started {c : Context} {r : Request} {reply : r.Reply} {w : World}
    {cell : FamilyCell} {left : Program (Except Error Gain)} (h : Leaves c ⟨r, reply⟩ left)
    (hanswer : FamilyCell.answer c.family (outside w.log) r w.cell = (reply, cell))
    (hactive : c.autoStart = true) {made : Consumer}
    (hmade : left = .done (.ok (.consumer made))) :
    cell.started = true := by
  rcases h.consumer hactive hmade with heq | heq
  · cases heq
    rw [World.answer_looked rfl] at hanswer
    obtain ⟨hreply, rfl⟩ := Prod.mk.inj hanswer
    exact hreply
  · cases heq
    rw [World.answer_noted rfl] at hanswer
    rw [← (Prod.mk.inj hanswer).2]

namespace Flight

variable {w : World} {f : Flight} {r : Request} {reply : r.Reply} {cell : FamilyCell}

/-- The operation that an answer is for goes on as it should. -/
theorem Sound.resume {place last : Nat} {owner : Context}
    {next : r.Reply → Program (Except Error Gain)}
    (h : Flight.Sound family connection w ⟨place, owner, last, .ask r next⟩)
    (hanswer : FamilyCell.answer family (outside w.log) r w.cell = (reply, cell))
    (hstarted : cell.started = (notes family (w.log ++ [⟨r, reply⟩])).getLast?.getD false) :
    Flight.Sound family connection ⟨cell, w.log ++ [⟨r, reply⟩]⟩
      ⟨place, owner, w.log.length + 1, next reply⟩ := by
  obtain ⟨hleaves, hrest⟩ : Leaves owner ⟨r, reply⟩ (next reply) ∧ _ := h.left reply
  have hlength : (w.log ++ [(⟨r, reply⟩ : Exchange)]).length = w.log.length + 1 :=
    List.length_append
  refine ⟨h.owner, hrest, Nat.le_of_eq hlength.symm, fun hactive hmade => ?_⟩
  obtain ⟨made, hleft⟩ := exists_of_made?_isSome hmade
  rw [← h.owner.1] at hanswer
  rw [hleaves.counts_started hanswer hactive hleft] at hstarted
  rw [List.take_of_length_le (Nat.le_of_eq hlength)]
  cases hlast : (notes family (w.log ++ [⟨r, reply⟩])).getLast? with
  | none =>
    rw [hlast] at hstarted
    cases hstarted
  | some on =>
    rw [hlast] at hstarted
    exact congrArg some hstarted.symm

/-- What is so of an operation stays so when another one goes on. -/
theorem Sound.aside (h : f.Sound family connection w) (e : Exchange) :
    f.Sound family connection ⟨cell, w.log ++ [e]⟩ where
  owner := h.owner
  left := h.left
  last := by
    rw [List.length_append]
    exact Nat.le_add_right_of_le h.last
  consumer hactive hmade := by
    rw [List.take_append_of_le_length h.last]
    exact h.consumer hactive hmade

end Flight

namespace State.Sound

variable {c : Context}

theorem told (hs : s.Sound family connection) (place : Nat) (hc : c ∈ s.contexts)
    (autoStart : Bool) :
    State.Sound family connection
      { s with contexts := s.contexts.set place (c.setAutoStart autoStart) } := by
  refine ⟨fun c' hc' => ?_, hs.flights, hs.started, hs.owed, hs.backed⟩
  rcases List.mem_or_eq_of_mem_set hc' with hc' | rfl
  · exact hs.members c' hc'
  · exact hs.members c hc

/-- An operation that is begun owes nothing yet. -/
theorem begun (hs : s.Sound family connection) (place : Nat) (hc : c ∈ s.contexts) (job : Job) :
    State.Sound family connection { s with
      flights := s.flights ++ [⟨place, c, s.world.log.length, job.program c⟩] } := by
  obtain ⟨r, next, hprogram, hnote⟩ := job.program_eq_ask c
  obtain ⟨rfl, -⟩ := hs.members c hc
  refine ⟨hs.members, ?_, hs.started, fun on => ?_, hs.backed⟩
  · refine List.forall_mem_append.2 ⟨hs.flights, List.forall_mem_singleton.2 ?_⟩
    refine ⟨hs.members c hc, job.leaves c, Nat.le_refl _, fun _ hmade => ?_⟩
    unfold Flight.made? at hmade
    rw [hprogram] at hmade
    cases hmade
  · rw [hs.owed on, outstanding_append, outstanding_cons, hprogram, Program.owes_ask, hnote]
    rfl

/-- An operation that goes on owes what it has been answered, and no longer what it has noted. -/
theorem answered {before after : List Flight} {place last : Nat} {owner : Context} {r : Request}
    {next : r.Reply → Program (Except Error Gain)} {reply : r.Reply} {cell : FamilyCell}
    {f : Flight} (hs : s.Sound family connection)
    (hflights : s.flights = before ++ ⟨place, owner, last, .ask r next⟩ :: after)
    (hanswer : FamilyCell.answer family (outside s.world.log) r s.world.cell = (reply, cell))
    (hf : f = ⟨place, owner, s.world.log.length + 1, next reply⟩) :
    State.Sound family connection ⟨⟨cell, s.world.log ++ [⟨r, reply⟩]⟩,
      s.contexts ++ f.child?.toList, before ++ f :: after⟩ := by
  obtain ⟨hmembers, hsound, hstarted, howed, hbacked⟩ := hs
  rw [hflights] at hsound howed
  obtain ⟨hbefore, hothers⟩ := List.forall_mem_append.1 hsound
  obtain ⟨hflight, hafter⟩ := List.forall_mem_cons.1 hothers
  obtain ⟨hleaves, -⟩ : Leaves owner ⟨r, reply⟩ (next reply) ∧ _ := hflight.left reply
  obtain ⟨hfamily, hconnection⟩ : owner.family = family ∧ owner.connection = connection :=
    hflight.owner
  have howes : f.left.owes family = (Exchange.mk r reply).switched connection := by
    rw [hf, ← hfamily, ← hconnection]
    exact hleaves.owes_eq
  -- What the operation was about to note is noted, and what it has been answered is noted next.
  have howed' (on : Bool) : (switches connection (s.world.log ++ [⟨r, reply⟩])).count on =
      (notes family (s.world.log ++ [⟨r, reply⟩])).count on +
        outstanding family on (before ++ f :: after) := by
    have howed := howed on
    rw [outstanding_append, outstanding_cons, Program.owes_ask] at howed
    rw [count_switches_concat, count_notes_concat, outstanding_append, outstanding_cons, howes]
    omega
  have hstarted' :
      cell.started = (notes family (s.world.log ++ [⟨r, reply⟩])).getLast?.getD false := by
    have hcell := started_answer family (outside s.world.log) hleaves.old s.world.cell
    rw [hanswer] at hcell
    rw [notes_append, notes_singleton]
    cases hnote : r.note? family with
    | none =>
      rw [hnote] at hcell
      rw [Option.toList_none, List.append_nil]
      exact hcell.trans hstarted
    | some on =>
      rw [hnote] at hcell
      rw [Option.toList_some, List.getLast?_concat]
      exact hcell
  have hbacked' := Backed.concat hbacked _ fun on => howed' on ▸ Nat.le_add_right ..
  refine ⟨?_, ?_, hstarted', howed', hbacked'⟩
  · refine List.forall_mem_append.2 ⟨hmembers, fun child hchild => ?_⟩
    have hleft := Flight.left_of_mem_child? (Option.mem_toList.1 hchild)
    rw [hf] at hleft
    obtain ⟨hfamily', hconnection'⟩ := hleaves.child hleft
    exact ⟨hfamily'.trans hfamily, hconnection'.trans hconnection⟩
  · refine List.forall_mem_append.2 ⟨fun g hg => (hbefore g hg).aside _, ?_⟩
    refine List.forall_mem_cons.2 ⟨?_, fun g hg => (hafter g hg).aside _⟩
    rw [hf]
    exact hflight.resume hanswer hstarted'

end State.Sound

/-- **A move keeps all this.** -/
theorem Moved.sound (h : Moved family outside s s') (hs : s.Sound family connection) :
    s'.Sound family connection := by
  cases h with
  | unmoved => exact hs
  | begun place hc job => exact hs.begun place hc job
  | told place hc autoStart => exact hs.told place hc autoStart
  | answered hflights hanswer hf => exact hs.answered hflights hanswer hf

/-- The first context of a family is on its connection, of which nothing has been noted. -/
theorem sound_of_opened {mode : SessionMode} {cell : FamilyCell} {c : Context} {w : World}
    (h : World.run family outside (Context.openOn connection mode) ⟨cell, []⟩ = (.ok c, w)) :
    State.Sound family connection ⟨w, [c], []⟩ := by
  obtain ⟨added, outcome, cell', hopens, hrun⟩ :=
    World.run_openOn family outside connection mode ⟨cell, []⟩
  obtain ⟨rfl, rfl⟩ := Prod.mk.inj (hrun.symm.trans h)
  cases hopens with
  | opened session =>
    refine ⟨List.forall_mem_singleton.2 ⟨rfl, rfl⟩, List.forall_mem_nil _, rfl, fun on => rfl, ?_⟩
    exact backed_of_notes_eq_nil rfl

/-- **Whatever moves are made, what has been noted last is what counts.** -/
theorem State.sound_run (outside : Outside) (hs : s.Sound family connection) (moves : List Move) :
    (s.run family outside moves).Sound family connection :=
  List.foldlRecOn moves _ hs fun _ hs move _ => (State.step_cases move).sound hs

/-- A consumer has been given out by a context that starts the connection by itself when the
connection counted as started. It was started then exactly if what had been noted last is what
had been answered last. -/
structure Flight.Counts (family : Family) (connection : Connection) (log : List Exchange)
    (f : Flight) : Prop where
  noted : (notes family (log.take f.last)).getLast? = some true
  started_iff : StartedLast connection (log.take f.last) ↔
    (notes family (log.take f.last)).getLast? = (switches connection (log.take f.last)).getLast?

/-- How the started flag tells of a connection. -/
structure State.Tells (family : Family) (connection : Connection) (s : State) : Prop where
  /-- The flag is what has been noted last. -/
  started : s.world.cell.started = (notes family s.world.log).getLast?.getD false
  /-- Every start and stop that has succeeded is noted once its operation has ended. -/
  noted : s.isIdle → (notes family s.world.log).Perm (switches connection s.world.log)
  /-- So the flag tells whether the connection was started last exactly if what has been noted
  last is what was answered last. -/
  tells_iff : s.isIdle → ((s.world.cell.started = true ↔ StartedLast connection s.world.log) ↔
    (notes family s.world.log).getLast? = (switches connection s.world.log).getLast?)
  /-- It does if nothing of the other kind was left to be noted when the connection was started
  or stopped last. -/
  undisputed : s.isIdle → Undisputed family connection s.world.log →
    (s.world.cell.started = true ↔ StartedLast connection s.world.log)
  consumers : ∀ f ∈ s.flights, f.owner.autoStart = true → f.made?.isSome →
    f.Counts family connection s.world.log

theorem outstanding_eq_zero (hidle : s.isIdle) (on : Bool) :
    outstanding family on s.flights = 0 := by
  refine List.countP_eq_zero.2 fun f hf => ?_
  have hdone := List.all_eq_true.1 hidle f hf
  unfold Flight.isUnderWay at hdone
  split at hdone
  · next outcome hleft => simp [hleft, Program.owes]
  · cases hdone

namespace State.Sound

theorem count_notes (hs : s.Sound family connection) (hidle : s.isIdle) (on : Bool) :
    (notes family s.world.log).count on = (switches connection s.world.log).count on := by
  rw [hs.owed on, outstanding_eq_zero hidle on, Nat.add_zero]

theorem tells_iff (hs : s.Sound family connection) (hidle : s.isIdle) :
    (s.world.cell.started = true ↔ StartedLast connection s.world.log) ↔
      (notes family s.world.log).getLast? = (switches connection s.world.log).getLast? := by
  have hlength : (notes family s.world.log).length = (switches connection s.world.log).length :=
    (List.perm_iff_count.2 (hs.count_notes hidle)).length_eq
  have hnil : notes family s.world.log = [] ↔ switches connection s.world.log = [] := by
    rw [← List.length_eq_zero_iff, hlength, List.length_eq_zero_iff]
  rw [startedLast_iff, hs.started]
  cases hnoted : (notes family s.world.log).getLast? with
  | none =>
    rw [hnil.1 (List.getLast?_eq_none_iff.1 hnoted)]
    decide
  | some on =>
    cases hswitched : (switches connection s.world.log).getLast? with
    | none =>
      rw [hnil.2 (List.getLast?_eq_none_iff.1 hswitched)] at hnoted
      cases hnoted
    | some on' => cases on <;> cases on' <;> decide

/-- A consumer counts as it should, whatever has happened since it was given out. -/
theorem counts (hs : s.Sound family connection) {f : Flight} (hf : f ∈ s.flights)
    (hactive : f.owner.autoStart = true) (hmade : f.made?.isSome) :
    f.Counts family connection s.world.log where
  noted := (hs.flights f hf).consumer hactive hmade
  started_iff := by
    rw [startedLast_iff, (hs.flights f hf).consumer hactive hmade]
    exact eq_comm

end State.Sound

/-- **The started flag tells whether the connection was started last**, whatever operations have
overlapped, once all of them have ended: exactly if the start or stop that was noted last is of
the kind of the one that was answered last. -/
theorem State.tells_run {mode : SessionMode} {cell : FamilyCell} {c : Context} {w : World}
    (hopened : World.run family outside (Context.openOn connection mode) ⟨cell, []⟩ = (.ok c, w))
    (moves : List Move) :
    State.Tells family connection (State.run family outside ⟨w, [c], []⟩ moves) := by
  have hs := State.sound_run outside (sound_of_opened hopened) moves
  refine ⟨hs.started, fun hidle => List.perm_iff_count.2 (hs.count_notes hidle), hs.tells_iff,
    fun hidle hundisputed => ?_, fun f hf => hs.counts hf⟩
  exact (hs.tells_iff hidle).2 (getLast?_notes hs.backed (hs.count_notes hidle) hundisputed)

end Sound

/-! ### Starts and stops that overlap -/

/-- Surroundings in which every call succeeds. -/
def obliging : Outside := Stage.outside { script := {} }

/-- A context on a connection that has not been started. -/
def first : Context := { handle := ⟨1⟩, connection := ⟨⟨1⟩⟩, family := ⟨0⟩ }

/-- The state in which it has been made. -/
def opened : State where
  world := ⟨⟨1, false⟩,
    [.ofCall (.createSession ⟨1⟩ .autoAcknowledge) (.ok ⟨1⟩), ⟨.newFamily, (⟨0⟩ : Family)⟩]⟩
  contexts := [first]

theorem opened_eq : World.run ⟨0⟩ obliging (Context.openOn ⟨⟨1⟩⟩ .autoAcknowledge)
    ⟨⟨0, false⟩, []⟩ = (.ok first, opened.world) :=
  rfl

def orders : Job := .consume (.plain (.queue ⟨"orders"⟩) none false)

/-- A connection is started by one context while another one starts it for a consumer. -/
theorem tells_run_started :
    let s := State.run ⟨0⟩ obliging ⟨opened.world, [first], []⟩
      [.begins 0 (.createContext .transacted), .answers 0, .answers 0, .begins 0 .start,
        .begins 1 orders, .answers 2, .answers 2, .answers 1, .answers 2, .answers 2, .answers 1]
    s.Tells ⟨0⟩ ⟨⟨1⟩⟩ ∧ s.isIdle ∧ Undisputed ⟨0⟩ ⟨⟨1⟩⟩ s.world.log ∧
      switches ⟨⟨1⟩⟩ s.world.log = [true, true] := by
  intro s
  refine ⟨State.tells_run opened_eq _, ?_, ?_, ?_⟩ <;> decide +kernel

/-- A context starts the connection, and another one stops it before that has been noted. Both
calls succeed and the stop comes last, but it is noted first. Once both have ended the connection
counts as started, and a consumer that is created after that does not start it. -/
theorem overlap_misleads :
    let s := State.run ⟨0⟩ obliging opened
      [.begins 0 (.createContext .autoAcknowledge), .answers 0, .answers 0, .begins 0 .start,
        .begins 1 .stop, .answers 1, .answers 2, .answers 2, .answers 1]
    let t := State.run ⟨0⟩ obliging s [.begins 0 orders, .answers 3, .answers 3]
    World.run ⟨0⟩ obliging (Context.openOn ⟨⟨1⟩⟩ .autoAcknowledge) ⟨⟨0, false⟩, []⟩ =
        (.ok first, opened.world) ∧
      s.isIdle ∧ s.world.cell.started = true ∧ ¬ StartedLast ⟨⟨1⟩⟩ s.world.log ∧
      t.isIdle ∧ failures t.world.log = [] ∧ ¬ StartedLast ⟨⟨1⟩⟩ t.world.log ∧
        ∃ f ∈ t.flights, f.owner.autoStart = true ∧ f.made? = some ⟨⟨1⟩⟩ := by
  simp only [startedLast_iff]
  refine ⟨opened_eq, ?_, ?_, ?_, ?_, rfl, ?_, ?_⟩ <;> decide +kernel

end Overlap
end MessageBus
