/-
# What the record of a family says

The record of all requests and answers says whether the connection of a family
has been started, and which consumers have been made and closed. Each operation
of a context keeps the started flag of the family in line with the record, and
accounts for the consumers that it has made.

Key definitions: `StartedLast`, `Accounted`.
Key theorems: `Context.Starts.started_iff` and `accounted`, and those of `Stops`,
`Derives` and `Consumes`; `Context.Derives.inherits`.
-/
import MessageBus.Proofs.Context.World

namespace MessageBus

/-! ### What a record says -/

namespace Exchange

def makes (made : Handle .consumer) : Exchange → Bool
  | ⟨.call (.createConsumer ..), .ok (h : Handle .consumer)⟩ => decide (h = made)
  | _ => false

/-- Whether a connection was started or stopped, without a failure. -/
def switched (connection : Connection) : Exchange → Option Bool
  | ⟨.call (.start h), .ok _⟩ => if h = connection.handle then some true else none
  | ⟨.call (.stop h), .ok _⟩ => if h = connection.handle then some false else none
  | _ => none

end Exchange

/-- Whether a connection was started, and not stopped since. -/
def StartedLast (connection : Connection) (log : List Exchange) : Prop :=
  ∃ before e after, log = before ++ e :: after ∧ e.switched connection = some true ∧
    ∀ later ∈ after, later.switched connection ≠ some false

/-- Exchanges that neither start nor stop a connection. -/
def Quiet (connection : Connection) (added : List Exchange) : Prop :=
  ∀ e ∈ added, e.switched connection = none

section StartedLast

variable {connection : Connection} {log added added' : List Exchange}

theorem not_startedLast_nil : ¬ StartedLast connection [] := by
  rintro ⟨before, e, after, hlog, -⟩
  exact absurd hlog.symm (List.append_ne_nil_of_right_ne_nil _ (List.cons_ne_nil _ _))

theorem startedLast_concat (e : Exchange) : StartedLast connection (log ++ [e]) ↔
    e.switched connection = some true ∨
      (e.switched connection ≠ some false ∧ StartedLast connection log) := by
  constructor
  · rintro ⟨before, first, after, hlog, hfirst, hafter⟩
    rcases List.eq_nil_or_concat after with rfl | ⟨after, last, rfl⟩
    · obtain ⟨-, he⟩ := List.append_inj' hlog rfl
      obtain rfl := List.singleton_inj.1 he
      exact .inl hfirst
    · rw [List.concat_eq_append] at hlog hafter
      rw [← List.cons_append, ← List.append_assoc] at hlog
      obtain ⟨rfl, he⟩ := List.append_inj' hlog rfl
      obtain rfl := List.singleton_inj.1 he
      exact .inr ⟨hafter e (by simp), before, first, after, rfl, hfirst,
        fun later hlater => hafter later (List.mem_append_left _ hlater)⟩
  · rintro (hstart | ⟨hstop, before, first, after, rfl, hfirst, hafter⟩)
    · exact ⟨log, e, [], rfl, hstart, by simp⟩
    · refine ⟨before, first, after ++ [e], by simp, hfirst, fun later hlater => ?_⟩
      rcases List.mem_append.1 hlater with hlater | hlater
      · exact hafter later hlater
      · rw [List.mem_singleton.1 hlater]
        exact hstop

/-- Exchanges that neither start nor stop the connection make no difference. -/
theorem Quiet.startedLast_append_iff (h : Quiet connection added) :
    StartedLast connection (log ++ added) ↔ StartedLast connection log := by
  induction added generalizing log with
  | nil => rw [List.append_nil]
  | cons e added ih =>
    obtain ⟨he, hadded⟩ := List.forall_mem_cons.1 h
    rw [List.append_cons, ih hadded, startedLast_concat, he]
    simp

/-- After an exchange that starts or stops the connection, it is started or not. -/
theorem Quiet.startedLast_switched_iff {e : Exchange} {on : Bool} (h : Quiet connection added)
    (he : e.switched connection = some on) :
    StartedLast connection (log ++ e :: added) ↔ on = true := by
  rw [List.append_cons, h.startedLast_append_iff, startedLast_concat, he]
  cases on <;> simp

theorem Quiet.append (h : Quiet connection added) (h' : Quiet connection added') :
    Quiet connection (added ++ added') :=
  List.forall_mem_append.2 ⟨h, h'⟩

theorem quiet_singleton {e : Exchange} (he : e.switched connection = none) :
    Quiet connection [e] :=
  List.forall_mem_singleton.2 he

/-- The report of a failure starts and stops nothing. -/
theorem quiet_performed {call : Call} {reply : Except String call.Result}
    (h : (Exchange.ofCall call reply).switched connection = none) :
    Quiet connection (performed call reply) := by
  refine List.forall_mem_cons.2 ⟨h, ?_⟩
  cases reply with
  | ok _ => exact List.forall_mem_nil _
  | error text => exact quiet_singleton rfl

end StartedLast

/-- The consumers of a handle that were made are with their callers, or have been asked to
close. -/
def Accounted (made : Handle .consumer) (consumers : List Consumer) (log : List Exchange) : Prop :=
  log.countP (Exchange.makes made) =
    consumers.count ⟨made⟩ + (answers (.closeConsumer made) log).length

section Accounted

variable {made : Handle .consumer} {consumers consumers' : List Consumer}
  {log log' : List Exchange}

theorem Accounted.append (h : Accounted made consumers log) (h' : Accounted made consumers' log') :
    Accounted made (consumers ++ consumers') (log ++ log') := by
  unfold Accounted at *
  rw [List.countP_append, List.count_append, answers_append, List.length_append]
  omega

theorem Accounted.append_nobody (h : Accounted made consumers log) (h' : Accounted made [] log') :
    Accounted made consumers (log ++ log') :=
  List.append_nil consumers ▸ h.append h'

/-- The report of a failure makes no consumer. -/
theorem countP_makes_performed (made : Handle .consumer) (call : Call)
    (reply : Except String call.Result) : (performed call reply).countP (Exchange.makes made) =
      if (Exchange.ofCall call reply).makes made then 1 else 0 := by
  cases reply <;> simp [performed, reported, List.countP_cons, Exchange.makes]

theorem accounted_performed {call : Call} {reply : Except String call.Result}
    (hmakes : (Exchange.ofCall call reply).makes made = false)
    (hcloses : call ≠ .closeConsumer made) : Accounted made [] (performed call reply) := by
  unfold Accounted
  rw [countP_makes_performed, answers_performed_of_ne hcloses, hmakes]
  rfl

theorem accounted_singleton {e : Exchange} (hmakes : e.makes made = false)
    (hcloses : e.request ≠ .call (.closeConsumer made)) : Accounted made [] [e] := by
  unfold Accounted
  rw [List.countP_singleton, hmakes, answers_cons_of_ne hcloses]
  rfl

theorem accounted_made (made made' : Handle .consumer) (session : Handle .session)
    (spec : ConsumerSpec) :
    Accounted made [⟨made'⟩] (performed (.createConsumer session spec) (.ok made')) := by
  unfold Accounted
  rw [countP_makes_performed, answers_performed_of_ne Call.noConfusion, List.count_singleton]
  simp [Exchange.ofCall, Exchange.makes]

/-- A consumer that is asked to close may be with nobody. -/
theorem Accounted.close {made' : Handle .consumer} (h : Accounted made (⟨made'⟩ :: consumers) log)
    (reply : Except String (Call.closeConsumer made').Result) :
    Accounted made consumers (log ++ performed (.closeConsumer made') reply) := by
  have hmade : (Exchange.ofCall (.closeConsumer made') reply).makes made = false := rfl
  unfold Accounted at *
  rw [List.countP_append, answers_append, List.length_append, countP_makes_performed, hmade, h,
    List.count_cons]
  by_cases heq : made' = made
  · subst heq
    rw [answers_performed]
    simp
    omega
  · rw [answers_performed_of_ne fun hcall => heq (Call.closeConsumer.inj hcall)]
    simp [heq]

end Accounted

/-! ### What the operations add to it -/

namespace Context

variable {c : Context} {before started : Bool} {added log : List Exchange} {made : Handle .consumer}

section Switches

variable {called : Except String Unit → List Exchange} {on : Bool} {outcome : Except Error Unit}

theorem Switches.started_iff (h : c.Switches called on before added outcome started)
    (hok : ∃ e, called (.ok ()) = [e] ∧ e.switched c.connection = some on)
    (herror : ∀ text, Quiet c.connection (called (.error text)))
    (hbefore : before = true ↔ StartedLast c.connection log) :
    started = true ↔ StartedLast c.connection (log ++ added) := by
  have hnoted : Quiet c.connection [c.noted on] := quiet_singleton rfl
  cases h with
  | switched =>
    obtain ⟨e, he, hon⟩ := hok
    rw [he]
    exact (hnoted.startedLast_switched_iff hon).symm
  | failed text => exact hbefore.trans (herror text).startedLast_append_iff.symm

theorem Starts.started_iff (h : c.Starts before added outcome started)
    (hbefore : before = true ↔ StartedLast c.connection log) :
    started = true ↔ StartedLast c.connection (log ++ added) :=
  Switches.started_iff h ⟨_, rfl, if_pos rfl⟩ (fun _ => quiet_performed rfl) hbefore

theorem Stops.started_iff (h : c.Stops before added outcome started)
    (hbefore : before = true ↔ StartedLast c.connection log) :
    started = true ↔ StartedLast c.connection (log ++ added) :=
  Switches.started_iff h ⟨_, rfl, if_pos rfl⟩ (fun _ => quiet_performed rfl) hbefore

theorem Switches.accounted (h : c.Switches called on before added outcome started)
    (hcalled : ∀ reply, Accounted made [] (called reply)) : Accounted made [] added := by
  cases h with
  | switched => exact (hcalled _).append (accounted_singleton rfl Request.noConfusion)
  | failed text => exact hcalled _

theorem Starts.accounted (h : c.Starts before added outcome started) : Accounted made [] added :=
  Switches.accounted h fun _ => accounted_performed rfl Call.noConfusion

theorem Stops.accounted (h : c.Stops before added outcome started) : Accounted made [] added :=
  Switches.accounted h fun _ => accounted_performed rfl Call.noConfusion

end Switches

theorem Derives.accounted {mode : SessionMode} {before after : UInt64}
    {outcome : Except Error Context} (h : c.Derives mode before added outcome after) :
    Accounted made [] added := by
  have hsession (reply : Except String (Handle .session)) :
      Accounted made [] (performed (.createSession c.connection.handle mode) reply) :=
    accounted_performed rfl Call.noConfusion
  cases h with
  | derived session => exact (hsession _).append (accounted_singleton rfl Request.noConfusion)
  | failed text => exact hsession _

/-- A context that derives from another one has what that one has, and a session of its own. -/
theorem Derives.inherits {mode : SessionMode} {before after : UInt64}
    {outcome : Except Error Context} (h : c.Derives mode before added outcome after) :
    ∀ child ∈ outcome.toOption.toList, child.family = c.family ∧
      child.connection = c.connection ∧ child.autoStart = c.autoStart := by
  cases h with
  | derived session =>
    refine List.forall_mem_singleton.2 ?_
    exact ⟨rfl, rfl, rfl⟩
  | failed text => exact List.forall_mem_nil _

theorem Consumes.accounted {spec : ConsumerSpec} {outcome : Except Error Consumer}
    (h : c.Consumes spec before added outcome started) :
    Accounted made outcome.toOption.toList added := by
  have hlooked (started : Bool) : Accounted made [] [c.looked started] :=
    accounted_singleton rfl Request.noConfusion
  have hstart (reply : Except String Unit) :
      Accounted made [] (performed (.start c.connection.handle) reply) :=
    accounted_performed rfl Call.noConfusion
  cases h with
  | refused text => exact accounted_performed rfl Call.noConfusion
  | passive made' => exact accounted_made ..
  | running made' => exact (accounted_made ..).append (hlooked true)
  | started made' =>
    exact (((accounted_made ..).append (hlooked false)).append (hstart _)).append
      (accounted_singleton rfl Request.noConfusion)
  | abandoned made' hactive hbefore text closing =>
    have hbefore := ((accounted_made made made' c.handle spec).append (hlooked false)).append
      (hstart (.error text))
    exact hbefore.close closing

/-- What creating a consumer asks of a connection is asked in starting it. -/
theorem Consumes.started_iff {spec : ConsumerSpec} {outcome : Except Error Consumer}
    (h : c.Consumes spec before added outcome started)
    (hbefore : before = true ↔ StartedLast c.connection log) :
    started = true ↔ StartedLast c.connection (log ++ added) := by
  have hcreate (reply : Except String (Handle .consumer)) :
      Quiet c.connection (performed (.createConsumer c.handle spec) reply) :=
    quiet_performed rfl
  have hlooked (on : Bool) : Quiet c.connection [c.looked on] := quiet_singleton rfl
  cases h with
  | refused text => exact hbefore.trans (hcreate _).startedLast_append_iff.symm
  | passive made => exact hbefore.trans (hcreate _).startedLast_append_iff.symm
  | running made =>
    exact hbefore.trans ((hcreate _).append (hlooked _)).startedLast_append_iff.symm
  | started made =>
    have hnoted : Quiet c.connection [c.noted true] := quiet_singleton rfl
    have hon : (Exchange.ofCall (.start c.connection.handle) (.ok ())).switched c.connection =
        some true :=
      if_pos rfl
    rw [List.append_assoc _ _ [c.noted true], ← List.append_assoc log]
    exact (hnoted.startedLast_switched_iff hon).symm
  | abandoned made hactive hfalse text closing =>
    have hstart : Quiet c.connection (performed (.start c.connection.handle) (.error text)) :=
      quiet_performed rfl
    have hclose : Quiet c.connection (performed (.closeConsumer made) closing) :=
      quiet_performed rfl
    exact hbefore.trans
      ((((hcreate _).append (hlooked _)).append hstart).append hclose).startedLast_append_iff.symm

theorem Derives.started_iff {mode : SessionMode} {before after : UInt64} {started : Bool}
    {outcome : Except Error Context} (h : c.Derives mode before added outcome after)
    (hbefore : started = true ↔ StartedLast c.connection log) :
    started = true ↔ StartedLast c.connection (log ++ added) := by
  have hsession (reply : Except String (Handle .session)) :
      Quiet c.connection (performed (.createSession c.connection.handle mode) reply) :=
    quiet_performed rfl
  cases h with
  | derived session =>
    exact hbefore.trans ((hsession _).append (quiet_singleton rfl)).startedLast_append_iff.symm
  | failed text => exact hbefore.trans (hsession _).startedLast_append_iff.symm

end Context
end MessageBus
