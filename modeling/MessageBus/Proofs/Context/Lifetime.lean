/-
# How long a connection lives

The connection of a family is closed once, when the last context has left the
family, and every context leaves only after its session has been asked to
close. The invariant behind it counts: the cell holds the number of contexts
that stay, and the connection has been asked to close exactly when that number
is zero.

Key definitions: `Family.Closes`, `Family.Member.Sound`, `Family.State.Sound`,
`Family.State.Lifetime`.
Key theorems: `Family.sound_of_reachable`, `Family.lifetime_of_reachable`.
-/
import MessageBus.Proofs.Context.Family

namespace MessageBus
namespace Family

variable {family : Family} {connection : Connection}

/-! ### One context -/

/-- The requests that end something. -/
def isEnding : Request → Bool
  | .call (.closeSession _) | .leaveFamily _ | .call (.closeConnection _) => true
  | _ => false

/-- Whether a context stays in the family, is gone, or was the last to go. -/
inductive Place
  | staying
  | gone
  | last
  deriving DecidableEq

/-- How far a close has come: which endings have been answered, what is left of
it, and where that puts the context. -/
inductive Closes (c : Context) : List Request → Program (Except Error Unit) → Place → Prop
  | session : Closes c [] (.ask (.call (.closeSession c.handle)) c.afterSession) .staying
  | sessionReport (event : Event) (ofSession : Except Error Unit) :
    Closes c [.call (.closeSession c.handle)] (.ask (.report event) fun _ => c.leave ofSession)
      .staying
  | leave (ofSession : Except Error Unit) :
    Closes c [.call (.closeSession c.handle)]
      (.ask (.leaveFamily c.family) (c.afterLeave ofSession)) .staying
  | gone (outcome : Except Error Unit) :
    Closes c [.call (.closeSession c.handle), .leaveFamily c.family] (.done outcome) .gone
  | connection (ofSession : Except Error Unit) :
    Closes c [.call (.closeSession c.handle), .leaveFamily c.family]
      (.ask (.call (.closeConnection c.connection.handle)) (Context.afterConnection ofSession)) .last
  | connectionReport (event : Event) (outcome : Except Error Unit) :
    Closes c [.call (.closeSession c.handle), .leaveFamily c.family,
      .call (.closeConnection c.connection.handle)] (.ask (.report event) fun _ => .done outcome)
      .last
  | done (outcome : Except Error Unit) :
    Closes c [.call (.closeSession c.handle), .leaveFamily c.family,
      .call (.closeConnection c.connection.handle)] (.done outcome) .last

/-- A creation that is under way. -/
inductive Creates (c : Context) : Program (Except Error Context) → Prop
  | session (mode : SessionMode) :
    Creates c (.ask (.call (.createSession c.connection.handle mode)) c.afterCreation)
  | join (child : Context) (hfamily : child.family = c.family)
      (hconnection : child.connection = c.connection) :
    Creates c (.ask (.joinFamily c.family) fun _ => .done (.ok child))
  | report (event : Event) (e : Error) : Creates c (.ask (.report event) fun _ => .done (.error e))

/-- A context of the family in one of the ways that can come about. -/
inductive Member.Sound (family : Family) (connection : Connection) : Member → Place → Prop
  | held {c : Context} {creations : List (Program (Except Error Context))}
      {answered : List Request} (hfamily : c.family = family)
      (hconnection : c.connection = connection) (hendings : answered.filter isEnding = [])
      (hcreations : ∀ p ∈ creations, Creates c p) :
    Sound family connection ⟨c, .held creations, answered⟩ .staying
  | closing {c : Context} {left : Program (Except Error Unit)} {answered : List Request}
      {place : Place} (hfamily : c.family = family) (hconnection : c.connection = connection)
      (hcloses : Closes c (answered.filter isEnding) left place) :
    Sound family connection ⟨c, .closing left, answered⟩ place
  | dropped {c : Context} {answered : List Request} (hfamily : c.family = family)
      (hconnection : c.connection = connection) (hendings : answered.filter isEnding = []) :
    Sound family connection ⟨c, .dropped, answered⟩ .staying

section Answers

variable {c : Context} {outside : (r : Request) → r.Reply} {cell cell' : FamilyCell} {r : Request}

theorem closes_afterSession (c : Context) : ∀ reply : Except String Unit,
    Closes c [.call (.closeSession c.handle)] (c.afterSession reply) .staying
  | .ok _ => .leave _
  | .error _ => .sessionReport _ _

theorem closes_afterLeave (c : Context) (ofSession : Except Error Unit) (openBefore : UInt64) :
    Closes c [.call (.closeSession c.handle), .leaveFamily c.family]
      (c.afterLeave ofSession openBefore) (if openBefore = 1 then .last else .gone) := by
  unfold Context.afterLeave
  split
  · exact .connection ofSession
  · exact .gone ofSession

theorem closes_afterConnection (c : Context) (ofSession : Except Error Unit) :
    ∀ reply : Except String Unit,
      Closes c [.call (.closeSession c.handle), .leaveFamily c.family,
        .call (.closeConnection c.connection.handle)] (Context.afterConnection ofSession reply) .last
  | .ok _ => .done _
  | .error _ => .connectionReport _ _

/-- **An answer to a close changes nothing for the family, or it is the answer to
leaving: then the count goes down, and the connection is next if it was one.** -/
theorem Closes.resume {endings : List Request} {next : r.Reply → Program (Except Error Unit)}
    {place : Place} {left : Program (Except Error Unit)}
    (h : Closes c endings (.ask r next) place) (hfamily : c.family = family)
    (hr : Family.resume family outside r next cell = (left, cell')) :
    (cell' = cell ∧ Closes c (endings ++ [r].filter isEnding) left place) ∨
      (place = .staying ∧ cell'.openContexts = cell.openContexts - 1 ∧
        Closes c (endings ++ [r].filter isEnding) left
          (if cell.openContexts = 1 then .last else .gone)) := by
  obtain ⟨rfl, rfl⟩ := Prod.mk.inj hr
  cases h with
  | session => exact .inl ⟨rfl, closes_afterSession c _⟩
  | sessionReport event ofSession => exact .inl ⟨rfl, .leave ofSession⟩
  | leave ofSession =>
    have hanswer : FamilyCell.answer family outside (.leaveFamily c.family) cell =
        (cell.openContexts, { cell with openContexts := cell.openContexts - 1 }) :=
      if_pos hfamily
    rw [hanswer]
    exact .inr ⟨rfl, rfl, closes_afterLeave c ofSession cell.openContexts⟩
  | connection ofSession => exact .inl ⟨rfl, closes_afterConnection c ofSession _⟩
  | connectionReport event outcome => exact .inl ⟨rfl, .done outcome⟩

theorem creates_afterCreation (c : Context) : ∀ reply : Except String (Handle .session),
    ∃ r next, c.afterCreation reply = .ask r next ∧ Creates c (.ask r next)
  | .ok session => ⟨_, _, rfl, .join { c with toSession := ⟨session⟩ } rfl rfl⟩
  | .error _ => ⟨_, _, rfl, .report _ _⟩

/-- **An answer to a creation changes nothing for the family, or it is the last one
and the new context has been counted.** -/
theorem Creates.resume {next : r.Reply → Program (Except Error Context)}
    {left : Program (Except Error Context)} (h : Creates c (.ask r next))
    (hfamily : c.family = family)
    (hr : Family.resume family outside r next cell = (left, cell')) :
    isEnding r = false ∧ ((cell' = cell ∧ ((∃ r' next', left = .ask r' next' ∧ Creates c left) ∨
      ∃ e, left = .done (.error e))) ∨
        (cell'.openContexts = cell.openContexts + 1 ∧
          ∃ child, left = .done (.ok child) ∧ child.family = c.family ∧
            child.connection = c.connection)) := by
  obtain ⟨rfl, rfl⟩ := Prod.mk.inj hr
  cases h with
  | session mode =>
    obtain ⟨r', next', hleft, hcreates⟩ := creates_afterCreation c
      (outside (.call (.createSession c.connection.handle mode)))
    exact ⟨rfl, .inl ⟨rfl, .inl ⟨r', next', hleft, hleft ▸ hcreates⟩⟩⟩
  | join child hchild hconnection =>
    have hcell : (FamilyCell.answer family outside (.joinFamily c.family) cell).2 =
        { cell with openContexts := cell.openContexts + 1 } :=
      if_pos hfamily
    rw [hcell]
    exact ⟨rfl, .inr ⟨rfl, child, rfl, hchild, hconnection⟩⟩
  | report event e => exact ⟨rfl, .inl ⟨rfl, .inr ⟨e, rfl⟩⟩⟩

end Answers

/-! ### What a context has asked for -/

theorem count_answered {answered : List Request} {r : Request} (hr : isEnding r = true) :
    answered.count r = (answered.filter isEnding).count r :=
  (List.count_filter hr).symm

/-- A creation asks for no ending. -/
theorem count_creations {c : Context} {r : Request} (hr : isEnding r = true) :
    ∀ creations : List (Program (Except Error Context)), (∀ p ∈ creations, Creates c p) →
      (creations.filterMap next?).count r = 0
  | [], _ => rfl
  | p :: creations, h => by
    have ih := count_creations hr creations fun q hq => h q (List.mem_cons_of_mem _ hq)
    obtain ⟨asked, next, rfl, hasked⟩ : ∃ asked next, p = .ask asked next ∧ isEnding asked = false := by
      cases h p List.mem_cons_self with
      | session => exact ⟨_, _, rfl, rfl⟩
      | join => exact ⟨_, _, rfl, rfl⟩
      | report => exact ⟨_, _, rfl, rfl⟩
    have hne : asked ≠ r := by
      rintro rfl
      rw [hr] at hasked
      cases hasked
    rw [List.filterMap_cons_some (show next? (.ask asked next) = some asked from rfl),
      List.count_cons_of_ne hne, ih]

section Member

variable {m : Member} {place : Place}

theorem Member.Sound.hasLeft_iff (h : m.Sound family connection place) :
    m.hasLeft = true ↔ place ≠ .staying := by
  have hmem (answered : List Request) (f : Family) :
      .leaveFamily f ∈ answered ↔ .leaveFamily f ∈ answered.filter isEnding := by
    simp [List.mem_filter, isEnding]
  unfold Member.hasLeft
  rw [decide_eq_true_iff]
  cases h with
  | held _ _ hendings _ => rw [hmem, hendings]; simp
  | dropped _ _ hendings => rw [hmem, hendings]; simp
  | @closing c left answered _ _ _ hcloses =>
    rw [hmem]
    dsimp only
    generalize answered.filter isEnding = endings at hcloses
    cases hcloses <;> simp

theorem Member.Sound.hasLeft_eq_false (h : m.Sound family connection .staying) :
    m.hasLeft = false := by
  rw [← Bool.not_eq_true, h.hasLeft_iff]
  exact not_not_intro rfl

/-- The connection is asked to close on behalf of the last context, once. -/
theorem Member.Sound.count_closeConnection (h : m.Sound family connection place) :
    m.asked.count (.call (.closeConnection connection.handle)) = if place = .last then 1 else 0 := by
  have hending : isEnding (.call (.closeConnection connection.handle)) = true := rfl
  unfold Member.asked
  rw [List.count_append]
  cases h with
  | held _ _ hendings hcreations =>
    rw [count_answered hending, hendings, List.count_nil, Nat.zero_add]
    exact count_creations hending _ hcreations
  | dropped _ _ hendings => rw [count_answered hending, hendings]; rfl
  | @closing c left answered _ _ hconnection hcloses =>
    subst hconnection
    rw [count_answered hending]
    dsimp only [Standing.pending]
    generalize answered.filter isEnding = endings at hcloses
    cases hcloses <;> simp [next?]

theorem Member.Sound.count_closeSession (h : m.Sound family connection place) :
    m.asked.count (.call (.closeSession m.context.handle)) ≤ 1 ∧
      (place ≠ .staying → m.answered.count (.call (.closeSession m.context.handle)) = 1) := by
  have hending : isEnding (.call (.closeSession m.context.handle)) = true := rfl
  unfold Member.asked
  rw [List.count_append, count_answered hending]
  cases h with
  | held _ _ hendings hcreations =>
    rw [hendings, List.count_nil, Nat.zero_add]
    have hnone := count_creations hending _ hcreations
    exact ⟨Nat.le_succ_of_le (Nat.le_of_eq hnone), fun h => absurd rfl h⟩
  | dropped _ _ hendings =>
    rw [hendings]
    exact ⟨Nat.zero_le _, fun h => absurd rfl h⟩
  | @closing c left answered _ _ hconnection hcloses =>
    dsimp only [Standing.pending]
    generalize answered.filter isEnding = endings at hcloses
    cases hcloses <;> simp [next?]

/-- A close that has ended has taken its context out of the family. -/
theorem Member.Sound.ne_staying_of_done {outcome : Except Error Unit}
    (h : m.Sound family connection place) (hdone : m.standing = .closing (.done outcome)) :
    place ≠ .staying := by
  cases h with
  | held => cases hdone
  | dropped => cases hdone
  | @closing c left answered _ _ _ hcloses =>
    cases hdone
    generalize answered.filter isEnding = endings at hcloses
    cases hcloses with
    | gone => exact Place.noConfusion
    | done => exact Place.noConfusion

/-- Its session has been asked to close, once. -/
theorem Member.Sound.count_asked_closeSession (h : m.Sound family connection place)
    (hleft : place ≠ .staying) : m.asked.count (.call (.closeSession m.context.handle)) = 1 := by
  obtain ⟨hatMost, hanswered⟩ := h.count_closeSession
  have hasked : m.answered.count (.call (.closeSession m.context.handle)) ≤
      m.asked.count (.call (.closeSession m.context.handle)) := by
    unfold Member.asked
    rw [List.count_append]
    exact Nat.le_add_right _ _
  rw [hanswered hleft] at hasked
  exact Nat.le_antisymm hatMost hasked

end Member

/-! ### The family -/

/-- What is so of the family in every state: the cell counts the contexts that
stay, and the connection has been asked to close when none does. -/
structure State.Sound (family : Family) (connection : Connection) (s : State) : Prop where
  members : ∀ m ∈ s.members, ∃ place, m.Sound family connection place
  count : s.cell.openContexts.toNat = staying s.members
  closed : (askedBy s.members).count (.call (.closeConnection connection.handle)) =
    if staying s.members = 0 then 1 else 0

section Mid

variable {cell cell' : FamilyCell} {before after : List Member} {m m' : Member}

theorem staying_mid (before after : List Member) (m : Member) :
    staying (before ++ m :: after) = staying (before ++ after) + if m.hasLeft then 0 else 1 := by
  unfold staying
  rw [List.countP_append, List.countP_cons, List.countP_append]
  cases m.hasLeft with
  | false =>
    simp only [Bool.not_false, if_true, Bool.false_eq_true, if_false]
    omega
  | true => simp

theorem count_askedBy_mid (r : Request) (before after : List Member) (m : Member) :
    (askedBy (before ++ m :: after)).count r =
      (askedBy (before ++ after)).count r + m.asked.count r := by
  unfold askedBy
  rw [List.flatMap_append, List.flatMap_cons, List.flatMap_append, List.count_append,
    List.count_append, List.count_append]
  omega

/-- A context takes a step: it stays where it is, or it leaves. -/
theorem State.Sound.replace {place place' : Place}
    (h : State.Sound family connection ⟨cell, before ++ m :: after⟩)
    (hm : m.Sound family connection place) (hm' : m'.Sound family connection place')
    (hstep : (cell' = cell ∧ place' = place) ∨
      (place = .staying ∧ cell'.openContexts = cell.openContexts - 1 ∧
        place' = if cell.openContexts = 1 then .last else .gone)) :
    State.Sound family connection ⟨cell', before ++ m' :: after⟩ := by
  obtain ⟨hmembers, hcount, hclosed⟩ := h
  have hothers : ∀ x ∈ before ++ m' :: after, ∃ place, x.Sound family connection place := by
    intro x hx
    rcases List.mem_append.1 hx with hx | hx
    · exact hmembers x (List.mem_append_left _ hx)
    · rcases List.mem_cons.1 hx with rfl | hx
      · exact ⟨place', hm'⟩
      · exact hmembers x (List.mem_append_right _ (List.mem_cons_of_mem _ hx))
  rw [staying_mid] at hcount hclosed
  rw [count_askedBy_mid, hm.count_closeConnection] at hclosed
  suffices hcell : cell'.openContexts.toNat = staying (before ++ m' :: after) ∧
      (askedBy (before ++ m' :: after)).count (.call (.closeConnection connection.handle)) =
        if staying (before ++ m' :: after) = 0 then 1 else 0 from ⟨hothers, hcell.1, hcell.2⟩
  rw [staying_mid, count_askedBy_mid, hm'.count_closeConnection]
  rcases hstep with ⟨rfl, rfl⟩ | ⟨rfl, hdown, rfl⟩
  · have hsame : m'.hasLeft = m.hasLeft :=
      Bool.eq_iff_iff.2 (hm'.hasLeft_iff.trans hm.hasLeft_iff.symm)
    rw [hsame]
    exact ⟨hcount, hclosed⟩
  · have hstays := hm.hasLeft_eq_false
    have hleaves : m'.hasLeft = true := by
      rw [hm'.hasLeft_iff]
      split <;> decide
    have hone : (1 : UInt64) ≤ cell.openContexts := by
      rw [UInt64.le_iff_toNat_le, hcount, hstays]
      exact Nat.le_add_left 1 _
    rw [hstays] at hcount hclosed
    rw [hleaves, hdown, UInt64.toNat_sub_of_le _ _ hone, hcount]
    refine ⟨rfl, ?_⟩
    by_cases hlast : cell.openContexts = 1
    · have hnobody : staying (before ++ after) = 0 := by
        rw [hlast] at hcount
        exact (Nat.succ.inj hcount).symm
      rw [if_pos hlast, hnobody]
      rw [hnobody] at hclosed
      exact congrArg (· + 1) hclosed
    · have hsomebody : staying (before ++ after) ≠ 0 := by
        intro hnobody
        rw [hnobody] at hcount
        exact hlast (UInt64.toNat_inj.1 hcount)
      rw [if_neg hlast]
      simpa [hsomebody] using hclosed

/-- A context is created while another stays. -/
theorem State.Sound.add {members : List Member} {child : Context}
    (h : State.Sound family connection ⟨cell, members⟩) (hfamily : child.family = family)
    (hconnection : child.connection = connection) (hstays : 0 < staying members)
    (hroom : staying (members ++ [⟨child, .held [], []⟩]) < UInt64.size)
    (hup : cell'.openContexts = cell.openContexts + 1) :
    State.Sound family connection ⟨cell', members ++ [⟨child, .held [], []⟩]⟩ := by
  obtain ⟨hmembers, hcount, hclosed⟩ := h
  have hchild : Member.Sound family connection ⟨child, .held [], []⟩ .staying :=
    .held hfamily hconnection rfl fun _ hp => absurd hp List.not_mem_nil
  have hone : staying (members ++ [⟨child, .held [], []⟩]) = staying members + 1 := by
    rw [staying_mid, List.append_nil]
    rfl
  rw [hone] at hroom
  refine ⟨fun m hm => ?_, ?_, ?_⟩
  · rcases List.mem_append.1 hm with hm | hm
    · exact hmembers m hm
    · rw [List.mem_singleton.1 hm]
      exact ⟨.staying, hchild⟩
  · show cell'.openContexts.toNat = staying (members ++ [⟨child, .held [], []⟩])
    have hcell : cell.openContexts.toNat = staying members := hcount
    rw [hone, hup, UInt64.toNat_add, hcell]
    exact Nat.mod_eq_of_lt hroom
  · have hzero : (askedBy members).count (.call (.closeConnection connection.handle)) = 0 :=
      hclosed.trans (if_neg (Nat.pos_iff_ne_zero.1 hstays))
    show (askedBy (members ++ [⟨child, .held [], []⟩])).count _ =
      if staying (members ++ [⟨child, .held [], []⟩]) = 0 then 1 else 0
    rw [count_askedBy_mid, List.append_nil, hchild.count_closeConnection, hzero, hone]
    rfl

end Mid

/-! ### Runs -/

/-- The first context is on its connection, and it is the only one counted. -/
theorem opened_eq {mode : SessionMode} {outside : (r : Request) → r.Reply}
    {cell cell' : FamilyCell} {c : Context}
    (h : (Context.openOn connection mode).run.runWith (FamilyCell.answer family outside) cell =
      (.ok c, cell')) :
    c.family = family ∧ c.connection = connection ∧ cell'.openContexts = 1 := by
  rw [Context.openOn_run] at h
  have hanswer : FamilyCell.answer family outside
      (.call (.createSession connection.handle mode)) cell = (outside _, cell) := rfl
  simp only [Program.runWith, hanswer] at h
  cases hreply : (outside (.call (.createSession connection.handle mode)) :
      Except String (Handle .session)) with
  | ok session =>
    rw [hreply] at h
    cases h
    exact ⟨rfl, rfl, rfl⟩
  | error text =>
    rw [hreply] at h
    cases h

theorem mem_mid {α : Type} {first later : List α} {x y : α} (h : x ∈ first ++ later) :
    x ∈ first ++ y :: later := by
  rcases List.mem_append.1 h with h | h
  · exact List.mem_append_left _ h
  · exact List.mem_append_right _ (List.mem_cons_of_mem _ h)

theorem filter_append_of_not_ending {answered : List Request} {r : Request}
    (h : answered.filter isEnding = []) (hr : isEnding r = false) :
    (answered ++ [r]).filter isEnding = [] := by
  simp [List.filter_append, h, hr]

section Held

variable {cell cell' : FamilyCell} {before after : List Member} {c : Context}
  {creations : List (Program (Except Error Context))} {answered : List Request}

theorem State.Sound.held
    (h : State.Sound family connection ⟨cell, before ++ ⟨c, .held creations, answered⟩ :: after⟩) :
    Member.Sound family connection ⟨c, .held creations, answered⟩ .staying := by
  obtain ⟨place, hm⟩ := h.members _ (List.mem_append_right _ List.mem_cons_self)
  cases hm with
  | held hfamily hconnection hendings hcreations =>
    exact .held hfamily hconnection hendings hcreations

/-- A context that is held stays, whatever becomes of it, as long as it is not asked to leave. -/
theorem State.Sound.stay {m' : Member}
    (h : State.Sound family connection ⟨cell, before ++ ⟨c, .held creations, answered⟩ :: after⟩)
    (hm' : m'.Sound family connection .staying) :
    State.Sound family connection ⟨cell, before ++ m' :: after⟩ :=
  h.replace h.held hm' (.inl ⟨rfl, rfl⟩)

/-- A context that a creation comes to is one more in the family. -/
theorem State.Sound.join {m' : Member} {child : Context}
    (h : State.Sound family connection ⟨cell, before ++ ⟨c, .held creations, answered⟩ :: after⟩)
    (hm' : m'.Sound family connection .staying) (hfamily : child.family = family)
    (hconnection : child.connection = connection)
    (hroom : staying (before ++ m' :: after ++ [⟨child, .held [], []⟩]) < UInt64.size)
    (hup : cell'.openContexts = cell.openContexts + 1) :
    State.Sound family connection ⟨cell', before ++ m' :: after ++ [⟨child, .held [], []⟩]⟩ := by
  have hstays : 0 < staying (before ++ m' :: after) := by
    rw [staying_mid, hm'.hasLeft_eq_false]
    exact Nat.succ_pos _
  exact (h.stay hm').add hfamily hconnection hstays hroom hup

end Held

/-- **Every step keeps the count and the connection in accord.** -/
theorem State.Sound.step {s s' : State} {move : Move} (h : s.Sound family connection)
    (hs : Step family move s s') (hroom : staying s'.members < UInt64.size) :
    s'.Sound family connection := by
  cases hs with
  | derive mode =>
    cases h.held with
    | held hfamily hconnection hendings hcreations =>
      refine h.stay (.held hfamily hconnection hendings fun p hp => ?_)
      rcases List.mem_append.1 hp with hp | hp
      · exact hcreations p hp
      · rw [List.mem_singleton.1 hp, Context.createContext_run]
        exact .session mode
  | create outside hr =>
    cases h.held with
    | held hfamily hconnection hendings hcreations =>
      have hcreates := hcreations _ (List.mem_append_right _ List.mem_cons_self)
      obtain ⟨hr', ⟨rfl, ⟨_, _, hleft, hgoes⟩ | ⟨e, hleft⟩⟩ | ⟨-, child, hleft, -⟩⟩ :=
        hcreates.resume hfamily hr
      · refine h.stay (.held hfamily hconnection (filter_append_of_not_ending hendings hr')
          fun p hp => ?_)
        rcases List.mem_append.1 hp with hp | hp
        · exact hcreations p (List.mem_append_left _ hp)
        · rcases List.mem_cons.1 hp with rfl | hp
          · exact hgoes
          · exact hcreations p (List.mem_append_right _ (List.mem_cons_of_mem _ hp))
      · cases hleft
      · cases hleft
  | created outside hr =>
    cases h.held with
    | held hfamily hconnection hendings hcreations =>
      have hcreates := hcreations _ (List.mem_append_right _ List.mem_cons_self)
      obtain ⟨hr', ⟨rfl, ⟨_, _, hleft, -⟩ | ⟨e, hleft⟩⟩ | ⟨hup, new, hleft, hnew, hon⟩⟩ :=
        hcreates.resume hfamily hr
      · cases hleft
      · cases hleft
      · cases hleft
        exact h.join (.held hfamily hconnection (filter_append_of_not_ending hendings hr')
          fun p hp => hcreations p (mem_mid hp)) (hnew.trans hfamily) (hon.trans hconnection)
          hroom hup
  | refused outside hr =>
    cases h.held with
    | held hfamily hconnection hendings hcreations =>
      have hcreates := hcreations _ (List.mem_append_right _ List.mem_cons_self)
      obtain ⟨hr', ⟨rfl, -⟩ | ⟨-, child, hleft, -⟩⟩ := hcreates.resume hfamily hr
      · exact h.stay (.held hfamily hconnection (filter_append_of_not_ending hendings hr')
          fun p hp => hcreations p (mem_mid hp))
      · cases hleft
  | close =>
    cases h.held with
    | held hfamily hconnection hendings hcreations =>
      refine h.stay (.closing hfamily hconnection ?_)
      rw [hendings, Context.close_run]
      exact .session
  | @closing cell cell' before after c answered r next left outside hr =>
    obtain ⟨place, hm⟩ := h.members _ (List.mem_append_right _ List.mem_cons_self)
    cases hm with
    | closing hfamily hconnection hcloses =>
      have hendings : (answered ++ [r]).filter isEnding =
          answered.filter isEnding ++ [r].filter isEnding :=
        List.filter_append _ _
      rcases hcloses.resume hfamily hr with ⟨hcell, hgoes⟩ | ⟨rfl, hdown, hgoes⟩
      · rw [← hendings] at hgoes
        exact h.replace (.closing hfamily hconnection hcloses)
          (.closing hfamily hconnection hgoes) (.inl ⟨hcell, rfl⟩)
      · rw [← hendings] at hgoes
        exact h.replace (.closing hfamily hconnection hcloses)
          (.closing hfamily hconnection hgoes) (.inr ⟨rfl, hdown, rfl⟩)
  | drop =>
    cases h.held with
    | held hfamily hconnection hendings _ =>
      exact h.stay (.dropped hfamily hconnection hendings)

/-- **In every state that a family can come to, the cell counts its contexts and the
connection closes with the last of them.** -/
theorem sound_of_reachable {s : State} (h : Reachable family connection s) :
    s.Sound family connection := by
  induction h with
  | @opened mode outside cell cell' c h =>
    obtain ⟨hfamily, hconnection, hone⟩ := opened_eq h
    have hm : Member.Sound family connection ⟨c, .held [], []⟩ .staying :=
      .held hfamily hconnection rfl fun _ hp => absurd hp List.not_mem_nil
    refine ⟨fun m hmem => ?_, ?_, rfl⟩
    · rw [List.mem_singleton.1 hmem]
      exact ⟨.staying, hm⟩
    · show cell'.openContexts.toNat = 1
      rw [hone]
      rfl
  | step _ hstep hroom ih => exact ih.step hstep hroom

/-! ### The lifetime of the connection -/

section Consequences

variable {s : State}

theorem staying_eq_zero_iff {members : List Member} :
    staying members = 0 ↔ ∀ m ∈ members, m.hasLeft = true := by
  unfold staying
  rw [List.countP_eq_zero]
  simp

/-- Who waits to leave is still counted. -/
theorem Member.Sound.hasLeft_of_pending {m : Member} {place : Place}
    (h : m.Sound family connection place)
    (hp : .leaveFamily m.context.family ∈ m.standing.pending) : m.hasLeft = false := by
  suffices hplace : place = .staying by
    subst hplace
    exact h.hasLeft_eq_false
  cases h with
  | held => rfl
  | dropped => rfl
  | closing _ _ hcloses =>
    dsimp only [Standing.pending] at hp
    generalize List.filter isEnding _ = endings at hcloses
    cases hcloses with
    | leave => rfl
    | _ => simp_all [next?]

theorem State.Sound.positive (h : s.Sound family connection) {m : Member} (hm : m ∈ s.members)
    (hp : .leaveFamily m.context.family ∈ m.standing.pending) : 0 < s.cell.openContexts := by
  obtain ⟨place, hsound⟩ := h.members m hm
  have hstays : 0 < staying s.members :=
    List.countP_pos_iff.2 ⟨m, hm, by rw [hsound.hasLeft_of_pending hp]; rfl⟩
  rw [UInt64.lt_iff_toNat_lt, h.count]
  exact hstays

/-- The connection is asked to close exactly when every context has left. -/
theorem State.Sound.closed_iff (h : s.Sound family connection) :
    .call (.closeConnection connection.handle) ∈ askedBy s.members ↔
      ∀ m ∈ s.members, m.hasLeft = true := by
  rw [← List.count_pos_iff, h.closed, ← staying_eq_zero_iff]
  by_cases hzero : staying s.members = 0 <;> simp [hzero]

/-- Until a creation has succeeded it makes no difference to the family. -/
theorem State.Sound.creating {s' : State} {move : Move} (h : s.Sound family connection)
    (hs : Step family move s s') (hmove : move = .derive ∨ move = .create ∨ move = .refused) :
    s'.cell = s.cell ∧ s'.members.map Member.view = s.members.map Member.view := by
  cases hs with
  | derive mode => exact ⟨rfl, by simp [Member.view]⟩
  | create outside hr =>
    cases h.held with
    | held hfamily _ _ hcreations =>
      have hcreates := hcreations _ (List.mem_append_right _ List.mem_cons_self)
      obtain ⟨-, ⟨hcell, -⟩ | ⟨-, child, hleft, -⟩⟩ := hcreates.resume hfamily hr
      · exact ⟨hcell, by simp [Member.view]⟩
      · cases hleft
  | refused outside hr =>
    cases h.held with
    | held hfamily _ _ hcreations =>
      have hcreates := hcreations _ (List.mem_append_right _ List.mem_cons_self)
      obtain ⟨-, ⟨hcell, -⟩ | ⟨-, child, hleft, -⟩⟩ := hcreates.resume hfamily hr
      · exact ⟨hcell, by simp [Member.view]⟩
      · cases hleft
  | created => simp at hmove
  | close => simp at hmove
  | closing => simp at hmove
  | drop => simp at hmove

end Consequences

/-- What the contexts of a family and their callers can rely on. -/
structure State.Lifetime (family : Family) (connection : Connection) (s : State) : Prop where
  /-- The cell counts the contexts that have not left. -/
  count : s.cell.openContexts.toNat = staying s.members
  /-- The count does not fall below zero. -/
  positive : ∀ m ∈ s.members, .leaveFamily m.context.family ∈ m.standing.pending →
    0 < s.cell.openContexts
  /-- The connection is asked to close once at most. -/
  once : (askedBy s.members).count (.call (.closeConnection connection.handle)) ≤ 1
  /-- It is asked to close exactly when the last context has left, not before. -/
  last : .call (.closeConnection connection.handle) ∈ askedBy s.members ↔
    ∀ m ∈ s.members, m.hasLeft = true
  /-- A context that its caller has or has let go of has not left. -/
  staying : ∀ m ∈ s.members, (∀ left, m.standing ≠ .closing left) → m.hasLeft = false
  /-- A context whose close has ended has left, and has asked its session to close, once: whatever
  came of that. -/
  closed : ∀ m ∈ s.members, ∀ outcome, m.standing = .closing (.done outcome) →
    m.hasLeft = true ∧ m.asked.count (.call (.closeSession m.context.handle)) = 1
  /-- Every session is asked to close once at most. -/
  sessionOnce : ∀ m ∈ s.members, m.asked.count (.call (.closeSession m.context.handle)) ≤ 1
  /-- All sessions have been asked to close, and have answered, before the connection is. -/
  sessionFirst : .call (.closeConnection connection.handle) ∈ askedBy s.members →
    ∀ m ∈ s.members, m.answered.count (.call (.closeSession m.context.handle)) = 1
  /-- A context that is dropped without a close keeps the connection open. -/
  dropped : ∀ m ∈ s.members, m.standing = .dropped →
    .call (.closeConnection connection.handle) ∉ askedBy s.members
  /-- A creation that is under way or fails makes no difference. -/
  creating : ∀ move s', Step family move s s' →
    move = .derive ∨ move = .create ∨ move = .refused →
      s'.cell = s.cell ∧ s'.members.map Member.view = s.members.map Member.view

/-- **The connection of a family lives as long as its last context: in every state
that a family can come to it has been asked to close, once, if and only if every
context has left, each after its session; and a context whose close has ended has left.** -/
theorem lifetime_of_reachable {s : State} (h : Reachable family connection s) :
    s.Lifetime family connection := by
  have hsound := sound_of_reachable h
  have hall (hclosed : .call (.closeConnection connection.handle) ∈ askedBy s.members) :
      ∀ m ∈ s.members, ∃ place, m.Sound family connection place ∧ place ≠ .staying := by
    intro m hm
    obtain ⟨place, hplace⟩ := hsound.members m hm
    exact ⟨place, hplace, hplace.hasLeft_iff.1 (hsound.closed_iff.1 hclosed m hm)⟩
  refine ⟨hsound.count, fun m hm => hsound.positive hm, ?_, hsound.closed_iff,
    fun m hm hopen => ?_, fun m hm outcome hdone => ?_, fun m hm => ?_, fun hclosed m hm => ?_,
    fun m hm hdropped hclosed => ?_, fun move s' hs => hsound.creating hs⟩
  · rw [hsound.closed]
    split <;> omega
  · obtain ⟨place, hplace⟩ := hsound.members m hm
    cases hplace with
    | held hfamily hconnection hendings hcreations =>
      exact Member.Sound.hasLeft_eq_false (.held hfamily hconnection hendings hcreations)
    | dropped hfamily hconnection hendings =>
      exact Member.Sound.hasLeft_eq_false (.dropped hfamily hconnection hendings)
    | closing => exact absurd rfl (hopen _)
  · obtain ⟨place, hplace⟩ := hsound.members m hm
    have hleft := hplace.ne_staying_of_done hdone
    exact ⟨hplace.hasLeft_iff.2 hleft, hplace.count_asked_closeSession hleft⟩
  · obtain ⟨place, hplace⟩ := hsound.members m hm
    exact hplace.count_closeSession.1
  · obtain ⟨place, hplace, hleft⟩ := hall hclosed m hm
    exact hplace.count_closeSession.2 hleft
  · obtain ⟨place, hplace, hleft⟩ := hall hclosed m hm
    cases hplace with
    | dropped => exact hleft rfl
    | held => cases hdropped
    | closing => cases hdropped

/-- Answers that never fail. -/
def smooth (r : Request) : r.Reply := (Stage.answer r { script := {} }).1

def first : Context := { handle := ⟨1⟩, connection := ⟨⟨1⟩⟩, family := ⟨0⟩ }

/-- Answers of which only closing a session fails. -/
def detached : (r : Request) → r.Reply
  | .call (.closeSession _) => .error "detached"
  | r => smooth r

/-- A context derives from the first one, and both are closed, one after the other; the first
session cannot be closed. -/
theorem lifetime_of_reachable_pair : ∃ s : State, s.Lifetime ⟨0⟩ ⟨⟨1⟩⟩ ∧ s.members.length = 2 ∧
    .call (.closeConnection ⟨1⟩) ∈ askedBy s.members ∧
      ∃ m ∈ s.members, m.standing = .closing (.done (.error (.client "detached"))) := by
  let session : Request := .call (.createSession ⟨1⟩ .transacted)
  let ending : Request := .call (.closeSession ⟨1⟩)
  let failure : Request :=
    .report { message := "failure to close session", error := some "detached" }
  let begun : Standing := .closing (.ask ending first.afterSession)
  let refused : Except Error Unit := .error (.client "detached")
  let leaving : Standing := .closing (first.leave (.ok ()))
  let away : Member := ⟨first, .closing (.done refused),
    [session, .joinFamily ⟨0⟩, ending, failure, .leaveFamily ⟨0⟩]⟩
  have close {cell : FamilyCell} {before after : List Member} {answered : List Request}
      (h : Reachable ⟨0⟩ ⟨⟨1⟩⟩ ⟨cell, before ++ ⟨first, .held [], answered⟩ :: after⟩)
      (hroom : staying (before ++ ⟨first, .closing first.close.run, answered⟩ :: after) <
        UInt64.size) : Reachable ⟨0⟩ ⟨⟨1⟩⟩ ⟨cell, before ++ ⟨first, begun, answered⟩ :: after⟩ := by
    have hclose := h.step .close hroom
    rw [Context.close_run] at hclose
    exact hclose
  have opened : Reachable ⟨0⟩ ⟨⟨1⟩⟩ ⟨⟨1, false⟩, [] ++ ⟨first, .held [], []⟩ :: []⟩ :=
    @Reachable.opened _ _ .autoAcknowledge smooth ⟨0, false⟩ _ _ rfl
  have derived : Reachable ⟨0⟩ ⟨⟨1⟩⟩ ⟨⟨1, false⟩,
      [] ++ ⟨first, .held ([] ++ (first.createContext .transacted).run :: []), []⟩ :: []⟩ :=
    opened.step (.derive .transacted) (by decide)
  have joining : Reachable ⟨0⟩ ⟨⟨1⟩⟩ ⟨⟨1, false⟩, [] ++ ⟨first, .held ([] ++
      (.ask (.joinFamily ⟨0⟩) fun _ => .done (.ok first)) :: []), [session]⟩ :: []⟩ :=
    derived.step (.create smooth rfl) (by decide)
  have created : Reachable ⟨0⟩ ⟨⟨1⟩⟩ ⟨⟨2, false⟩,
      [] ++ ⟨first, .held [], [session, .joinFamily ⟨0⟩]⟩ :: [⟨first, .held [], []⟩]⟩ :=
    joining.step (.created smooth rfl) (by decide)
  have closing : Reachable ⟨0⟩ ⟨⟨1⟩⟩ ⟨⟨2, false⟩,
      [] ++ ⟨first, begun, [session, .joinFamily ⟨0⟩]⟩ :: [⟨first, .held [], []⟩]⟩ :=
    close created (by decide)
  have firstFails : Reachable ⟨0⟩ ⟨⟨1⟩⟩ ⟨⟨2, false⟩,
      [] ++ ⟨first, .closing (.ask failure fun _ => first.leave refused),
        [session, .joinFamily ⟨0⟩, ending]⟩ :: [⟨first, .held [], []⟩]⟩ :=
    closing.step (.closing detached rfl) (by decide)
  have firstLeaves : Reachable ⟨0⟩ ⟨⟨1⟩⟩ ⟨⟨2, false⟩,
      [] ++ ⟨first, .closing (first.leave refused),
        [session, .joinFamily ⟨0⟩, ending, failure]⟩ :: [⟨first, .held [], []⟩]⟩ :=
    firstFails.step (.closing smooth rfl) (by decide)
  have firstGone : Reachable ⟨0⟩ ⟨⟨1⟩⟩ ⟨⟨1, false⟩, [away] ++ ⟨first, .held [], []⟩ :: []⟩ :=
    firstLeaves.step (.closing smooth rfl) (by decide)
  have lastCloses : Reachable ⟨0⟩ ⟨⟨1⟩⟩ ⟨⟨1, false⟩, [away] ++ ⟨first, begun, []⟩ :: []⟩ :=
    close firstGone (by decide)
  have lastLeaves : Reachable ⟨0⟩ ⟨⟨1⟩⟩ ⟨⟨1, false⟩, [away] ++ ⟨first, leaving, [ending]⟩ :: []⟩ :=
    lastCloses.step (.closing smooth rfl) (by decide)
  have lastGone : Reachable ⟨0⟩ ⟨⟨1⟩⟩ ⟨⟨0, false⟩, [away] ++
      ⟨first, .closing (first.afterLeave (.ok ()) 1), [ending, .leaveFamily ⟨0⟩]⟩ :: []⟩ :=
    lastLeaves.step (.closing smooth rfl) (by decide)
  exact ⟨_, lifetime_of_reachable lastGone, rfl, by decide, away, List.mem_cons_self, rfl⟩

end Family
end MessageBus
