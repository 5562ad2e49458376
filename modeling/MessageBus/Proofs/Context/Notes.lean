/-
# What is noted of a connection

A start or stop of a connection is noted after it has been answered, so the record has
the starts and stops of the connection and, later on, the notes of them. The notes may
come in another order. But if everything has been noted, and nothing of the other kind
was left to be noted when the connection was started or stopped last, then what has been
noted last is what was answered last.

Key definitions: `switches`, `notes`, `Undisputed`, `Backed`, `Program.owes`,
`Program.Follows`.
Key theorems: `startedLast_iff`, `exists_last_switch`, `getLast?_notes`.
-/
import Mathlib.Data.List.DropRight
import MessageBus.Proofs.Context.Record

namespace MessageBus

/-! ### Switches and notes on record -/

/-- What a request notes of the connection of a family: that it has been started, or not. -/
def Request.note? (family : Family) : Request → Option Bool
  | .setStarted f started => if f = family then some started else none
  | _ => none

/-- The starts and stops of a connection that have been answered, without a failure. -/
def switches (connection : Connection) (log : List Exchange) : List Bool :=
  log.filterMap fun e => e.switched connection

/-- What has been noted of the connection of a family. -/
def notes (family : Family) (log : List Exchange) : List Bool :=
  log.filterMap fun e => e.request.note? family

/-- The record up to the last start or stop of a connection. -/
def upToSwitch (connection : Connection) (log : List Exchange) : List Exchange :=
  log.rdropWhile fun e => (e.switched connection).isNone

/-- When the connection was started or stopped last, all that had been answered of the other
kind had been noted. -/
def Undisputed (family : Family) (connection : Connection) (log : List Exchange) : Prop :=
  ∀ on ∈ (switches connection log).getLast?,
    (notes family (upToSwitch connection log)).count (!on) =
      (switches connection (upToSwitch connection log)).count (!on)

instance (family : Family) (connection : Connection) (log : List Exchange) :
    Decidable (Undisputed family connection log) :=
  inferInstanceAs (Decidable (∀ on ∈ (switches connection log).getLast?, _))

/-- Nothing has been noted that had not been answered. -/
def Backed (family : Family) (connection : Connection) (log : List Exchange) : Prop :=
  ∀ before, before <+: log → ∀ on,
    (notes family before).count on ≤ (switches connection before).count on

section Notes

variable {family : Family} {connection : Connection} {log log' : List Exchange}

@[simp] theorem switches_append : switches connection (log ++ log') =
    switches connection log ++ switches connection log' :=
  List.filterMap_append

@[simp] theorem notes_append :
    notes family (log ++ log') = notes family log ++ notes family log' :=
  List.filterMap_append

theorem switches_singleton (e : Exchange) :
    switches connection [e] = (e.switched connection).toList := by
  unfold switches
  cases h : e.switched connection <;> simp [h]

theorem notes_singleton {r : Request} (reply : r.Reply) :
    notes family [⟨r, reply⟩] = (r.note? family).toList := by
  unfold notes
  cases h : r.note? family <;> simp [h]

theorem count_switches_concat (e : Exchange) (on : Bool) :
    (switches connection (log ++ [e])).count on =
      (switches connection log).count on + if e.switched connection = some on then 1 else 0 := by
  rw [switches_append, switches_singleton, List.count_append]
  cases e.switched connection <;> simp [List.count_singleton]

theorem count_notes_concat {r : Request} (reply : r.Reply) (on : Bool) :
    (notes family (log ++ [⟨r, reply⟩])).count on =
      (notes family log).count on + if r.note? family = some on then 1 else 0 := by
  rw [notes_append, notes_singleton, List.count_append]
  cases r.note? family <;> simp [List.count_singleton]

theorem Quiet.switches_eq (h : Quiet connection log) : switches connection log = [] :=
  List.filterMap_eq_nil_iff.2 h

theorem Request.note?_setStarted (family : Family) (on : Bool) :
    (Request.setStarted family on).note? family = some on :=
  if_pos rfl

theorem Exchange.switched_start (connection : Connection) :
    (Exchange.ofCall (.start connection.handle) (.ok ())).switched connection = some true :=
  if_pos rfl

theorem Exchange.switched_stop (connection : Connection) :
    (Exchange.ofCall (.stop connection.handle) (.ok ())).switched connection = some false :=
  if_pos rfl

/-- Starting or stopping is not noting. -/
theorem Exchange.note?_of_switched {e : Exchange} {on : Bool}
    (h : e.switched connection = some on) : e.request.note? family = none := by
  obtain ⟨r, reply⟩ := e
  cases r with
  | setStarted f started => cases h
  | _ => rfl

/-- A connection was started, and not stopped since, if the last of its starts and stops is a
start. -/
theorem startedLast_iff : StartedLast connection log ↔
    (switches connection log).getLast? = some true := by
  induction log using List.reverseRecOn with
  | nil => exact iff_of_false not_startedLast_nil (by simp [switches])
  | append_singleton log e ih =>
    rw [startedLast_concat, ih, switches_append, switches_singleton]
    cases h : e.switched connection with
    | none => simp
    | some on => cases on <;> simp

/-- A connection has been neither started nor stopped, or there is a last time. -/
theorem exists_last_switch (connection : Connection) (log : List Exchange) :
    switches connection log = [] ∨ ∃ before e after on, log = before ++ [e] ++ after ∧
      upToSwitch connection log = before ++ [e] ∧ e.switched connection = some on ∧
        Quiet connection after := by
  induction log using List.reverseRecOn with
  | nil => exact .inl rfl
  | append_singleton log e ih =>
    unfold upToSwitch at *
    rw [switches_append, switches_singleton, List.rdropWhile_concat]
    cases h : e.switched connection with
    | some on => exact .inr ⟨log, e, [], on, by simp, by simp, h, List.forall_mem_nil _⟩
    | none =>
      rcases ih with hnone | ⟨before, first, after, on, hlog, hupTo, hfirst, hafter⟩
      · exact .inl (by simp [hnone])
      · refine .inr ⟨before, first, after ++ [e], on, ?_, hupTo, hfirst,
          hafter.append (quiet_singleton h)⟩
        rw [hlog, List.append_assoc _ after]

theorem Backed.concat (h : Backed family connection log) (e : Exchange)
    (hlast : ∀ on, (notes family (log ++ [e])).count on ≤
      (switches connection (log ++ [e])).count on) : Backed family connection (log ++ [e]) := by
  intro before hbefore
  rcases List.prefix_concat_iff.1 hbefore with rfl | hbefore
  · exact hlast
  · exact h before hbefore

theorem backed_of_notes_eq_nil (h : notes family log = []) :
    Backed family connection log := by
  intro before hbefore on
  have hnone : notes family before = [] :=
    List.eq_nil_of_prefix_nil (h ▸ hbefore.filterMap _)
  rw [hnone]
  exact Nat.zero_le _

theorem getLast?_eq_some_of_count {noted : List Bool} {on : Bool} (hother : noted.count (!on) = 0)
    (hsame : 0 < noted.count on) : noted.getLast? = some on := by
  rcases List.eq_nil_or_concat noted with rfl | ⟨before, last, rfl⟩
  · cases hsame
  · rw [List.concat_eq_append] at hother ⊢
    have hlast : last = on := by
      by_contra hne
      rw [Bool.eq_not.2 hne, List.count_append, List.count_singleton_self] at hother
      exact Nat.succ_ne_zero _ hother
    rw [List.getLast?_concat, hlast]

/-- **What was noted last was answered last**, if everything has been noted and nothing of
the other kind was left to be noted then. -/
theorem getLast?_notes (hbacked : Backed family connection log)
    (hnoted : ∀ on, (notes family log).count on = (switches connection log).count on)
    (hundisputed : Undisputed family connection log) :
    (notes family log).getLast? = (switches connection log).getLast? := by
  rcases exists_last_switch connection log with
    hnone | ⟨before, e, after, on, hlog, hupTo, he, hafter⟩
  · have hnotes : notes family log = [] := by
      refine List.eq_nil_iff_forall_not_mem.2 fun on hon => ?_
      have hcount := hnoted on
      rw [hnone] at hcount
      exact List.count_eq_zero.1 hcount hon
    rw [hnotes, hnone]
  · have hnote : e.request.note? family = none := Exchange.note?_of_switched he
    have hswitches : switches connection log = switches connection before ++ [on] := by
      rw [hlog, switches_append, switches_append, switches_singleton, he, hafter.switches_eq,
        List.append_nil]
      rfl
    have hnotes : notes family log = notes family before ++ notes family after := by
      rw [hlog, notes_append, notes_append, notes_singleton e.reply, hnote]
      exact congrArg (· ++ _) (List.append_nil _)
    have hlast : (switches connection log).getLast? = some on := by
      rw [hswitches, List.getLast?_concat]
    -- All of the other kind had been noted before, so all that is noted after is of this kind.
    have hother : (notes family after).count (!on) = 0 := by
      have hdone := hundisputed on hlast
      rw [hupTo, notes_append, switches_append, notes_singleton e.reply, switches_singleton, he,
        hnote] at hdone
      have htotal := hnoted (!on)
      rw [hnotes, hswitches] at htotal
      simp only [List.count_append, Option.toList_none, Option.toList_some, List.count_nil]
        at hdone htotal
      omega
    -- And something is, the last start or stop itself at least.
    have hsame : 0 < (notes family after).count on := by
      have hbefore := hbacked before ⟨[e] ++ after, by rw [hlog, List.append_assoc]⟩ on
      have htotal := hnoted on
      rw [hnotes, hswitches, List.count_append, List.count_append, List.count_singleton_self]
        at htotal
      omega
    rw [hlast, hnotes, List.getLast?_append, getLast?_eq_some_of_count hother hsame]
    rfl

end Notes

/-! ### Programs -/

namespace Program

variable {α : Type}

/-- What a program is about to note. -/
def owes (family : Family) : Program α → Option Bool
  | .done _ => none
  | .ask r _ => r.note? family

@[simp] theorem owes_ask (family : Family) (r : Request) (next : r.Reply → Program α) :
    (Program.ask r next).owes family = r.note? family :=
  rfl

/-- After each of its exchanges, what is left of a program is as `P` says. -/
def Follows (P : Exchange → Program α → Prop) : Program α → Prop
  | .done _ => True
  | .ask r next => ∀ reply, P ⟨r, reply⟩ (next reply) ∧ (next reply).Follows P

end Program

end MessageBus
