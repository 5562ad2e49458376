/-
# Connections that are left open

A creation opens one connection. Whoever asked for it gets the connection, alone or in a
context, and can close it. A context takes a second step, though: when its session is
refused nobody gets the connection, and nothing closes it.

Key definitions: `opened`, `closings`, `refused`, `ConnectionFactory.Creation.leftOpen`.
Key theorem: `ConnectionFactory.Creation.leftOpen_eq_refused`.
-/
import Mathlib.Data.List.Basic
import MessageBus.Client.Script
import MessageBus.Proofs.Factory.Builder
import MessageBus.Proofs.Factory.Creation

namespace MessageBus

/-! ### Connections among calls -/

def AnsweredCall.opened? : AnsweredCall → Option (Handle .connection)
  | ⟨.connect _, .ok handle⟩ => some handle
  | _ => none

def AnsweredCall.closing? : AnsweredCall → Option (Handle .connection)
  | ⟨.closeConnection handle, _⟩ => some handle
  | _ => none

/-- The connection on which a call for a session has failed. -/
def AnsweredCall.refused? : AnsweredCall → Option (Handle .connection)
  | ⟨.createSession handle _, .error _⟩ => some handle
  | _ => none

/-- The connections that have been opened, the first one first. -/
def opened (made : List AnsweredCall) : List (Handle .connection) :=
  made.filterMap AnsweredCall.opened?

def closings (made : List AnsweredCall) : List (Handle .connection) :=
  made.filterMap AnsweredCall.closing?

/-- The connections on which a session has been refused, the first one first. -/
def refused (made : List AnsweredCall) : List (Handle .connection) :=
  made.filterMap AnsweredCall.refused?

namespace ConnectionFactory
namespace Creation

variable {σ : Type}

/-- The connection in what has been created. -/
def connectionOf : (creation : Creation) → creation.Result → Handle .connection
  | connection _, made => made.handle
  | queueConnection _, made => made.handle
  | topicConnection _, made => made.handle
  | context .., made => made.connection.handle

/-- The connection that the caller gets. -/
def handed (creation : Creation) : Except Error creation.Result → Option (Handle .connection)
  | .ok made => some (creation.connectionOf made)
  | .error _ => none

/-- The connections that have been opened, but that the caller does not get and that have not
been asked to close. -/
def leftOpen (creation : Creation) (made : List AnsweredCall)
    (outcome : Except Error creation.Result) : List (Handle .connection) :=
  (opened made).filter fun handle =>
    creation.handed outcome ≠ some handle ∧ handle ∉ closings made

section Outcomes

variable {creation : Creation} {made : List AnsweredCall} {outcome : Except Error creation.Result}

/-- Nothing is left open when the caller gets what has been opened. -/
theorem leftOpen_eq_nil (h : ∀ handle ∈ opened made, creation.handed outcome = some handle) :
    creation.leftOpen made outcome = [] := by
  refine List.filter_eq_nil_iff.2 fun handle hmem hleft => ?_
  have hnot : creation.handed outcome ≠ some handle := (of_decide_eq_true hleft).1
  exact hnot (h handle hmem)

/-- All is left open when the caller gets nothing and nothing is closed. -/
theorem leftOpen_eq_opened (hhanded : creation.handed outcome = none)
    (hclosings : closings made = []) : creation.leftOpen made outcome = opened made := by
  refine List.filter_eq_self.2 fun handle _ => decide_eq_true ⟨?_, ?_⟩
  · rw [hhanded]
    exact (Option.some_ne_none handle).symm
  · rw [hclosings]
    exact List.not_mem_nil

/-- The caller gets a connection with everything that is created; without a session the one
that is there is left. -/
theorem ComesTo.leftOpen_eq {request : ConnectRequest} (h : creation.ComesTo request made outcome) :
    creation.leftOpen made outcome = refused made := by
  cases h with
  | unconnected text => rfl
  | sessionless mode explicit handle text => exact leftOpen_eq_opened rfl rfl
  | connection _ handle | queueConnection _ handle | topicConnection _ handle
  | context _ _ handle _ _ =>
    refine leftOpen_eq_nil fun handle hmem => ?_
    obtain rfl := List.mem_singleton.1 hmem
    rfl

end Outcomes

/-- **A creation leaves open the connections on which it is refused a session, and no others**,
in any surroundings. -/
theorem leftOpen_eq_refused (answer : (r : Request) → σ → r.Reply × σ) (creation : Creation)
    (f : ConnectionFactory) (s : σ) :
    creation.leftOpen (creation.callsOf answer f s) (creation.outcome answer f s) =
      refused (creation.callsOf answer f s) := by
  have hcomes := creation.comesTo answer f s
  split at hcomes
  · exact hcomes.leftOpen_eq
  · obtain ⟨hcalls, e, he⟩ := hcomes
    rw [hcalls]
    rfl

/-- Connections on which no session can be created. -/
def refusing : Stage :=
  { script := { failures := Dictionary.empty.insert "create_session" [some "limit"] } }

/-- A connection is opened for a context that cannot be created, and left open. -/
theorem leftOpen_refusing :
    let b : Builder := .ofHost "contoso.example" (.sharedAccessKey "policy" "secret")
    ∃ f, b.build = .ok f ∧
      let creation : Creation := .context .autoAcknowledge none
      let made := creation.callsOf Stage.answer f refusing
      let outcome := creation.outcome Stage.answer f refusing
      opened made = [⟨1⟩] ∧ outcome.toOption.isNone ∧ creation.leftOpen made outcome = [⟨1⟩] := by
  intro b
  have hhost : b.checkedHost = .ok "contoso.example" := by decide
  have hcredentials : b.checkedCredentials = .ok (.sharedAccessKey "policy" "secret") := by decide
  refine ⟨_, Builder.build_of_checked hhost hcredentials rfl, ?_, ?_, ?_⟩
  · decide +kernel
  · decide +kernel
  · decide +kernel

end Creation
end ConnectionFactory
end MessageBus
