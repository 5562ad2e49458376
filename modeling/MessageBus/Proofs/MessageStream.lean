/-
# Streams of messages

A stream receives once for each item, without a timeout. Its items are the messages in the order
in which they arrive, up to the first answer that is no message: when there is none left it
ends there, and a failure is its last item, after which it ends. Once there has been such an
answer it receives no more, however often it is polled; polled past its end it panics.

Key definitions: `MessageStream.polls`, `arriving`, `Consumer.Streams`.
Key theorems: `MessageStream.polls_add`, `Consumer.polls_succ_stream`, `Consumer.Streams.cons`,
`Consumer.streams_polls`, `Consumer.stream_follows_arrivals`.
-/
import MessageBus.Client.Script
import MessageBus.Consumer
import MessageBus.Proofs.Client.Exchange
import MessageBus.Proofs.Context.Steps

namespace MessageBus

/-! ### Polling -/

namespace MessageStream

/-- A stream that is polled a number of times, also past its end: what each poll comes to, and
what is left of the stream. -/
def polls : Nat → MessageStream → Program (List Polled × MessageStream)
  | 0, s => .done ([], s)
  | n + 1, s =>
    s.next.bind fun polled =>
      (polls n polled.2).bind fun rest => .done (polled.1 :: rest.1, rest.2)

/-- Polling goes on where it was left. -/
theorem polls_add (m : Nat) : ∀ (n : Nat) (s : MessageStream), s.polls (n + m) =
    (s.polls n).bind fun first =>
      (first.2.polls m).bind fun later => .done (first.1 ++ later.1, later.2)
  | 0, s => by
    rw [Nat.zero_add]
    exact (Program.bind_done _).symm
  | n + 1, s => by
    rw [Nat.succ_add, polls, polls, Program.bind_assoc]
    refine congrArg (Program.bind s.next) (funext fun polled => ?_)
    rw [polls_add m n polled.2, Program.bind_assoc, Program.bind_assoc]
    refine congrArg (Program.bind _) (funext fun first => ?_)
    rw [Program.bind_assoc]
    rfl

/-- Past its end a stream panics and asks for nothing. -/
theorem polls_ended : ∀ n, ended.polls n = .done (List.replicate n .panicked, ended)
  | 0 => rfl
  | n + 1 => by
    show (ended.polls n).bind _ = _
    rw [polls_ended n]
    rfl

/-- After a failure a stream ends, and asks for nothing. -/
theorem polls_succ_unfolding_none (n : Nat) :
    (unfolding none).polls (n + 1) = .done (.ended :: List.replicate n .panicked, ended) := by
  show (ended.polls n).bind _ = _
  rw [polls_ended n]
  rfl

/-- Whether a stream has no consumer any more. -/
def isOver : MessageStream → Bool
  | unfolding (some _) => false
  | unfolding none | ended => true

/-- A stream without a consumer asks for nothing. -/
theorem exists_polls_eq_done {s : MessageStream} (h : s.isOver = true) (n : Nat) :
    ∃ polled, s.polls n = .done polled := by
  cases s with
  | ended => exact ⟨_, polls_ended n⟩
  | unfolding seed =>
    cases seed with
    | some c => cases h
    | none =>
      cases n with
      | zero => exact ⟨_, rfl⟩
      | succ n => exact ⟨_, polls_succ_unfolding_none n⟩

/-- **Once a stream has no consumer any more, nothing is asked for in polling it further.** -/
theorem exchanges_polls_add {σ : Type} (answer : (r : Request) → σ → r.Reply × σ)
    {s : MessageStream} {n : Nat} {start : σ}
    (h : ((s.polls n).runWith answer start).1.2.isOver = true) (past : Nat) :
    (s.polls (n + past)).exchanges answer start = (s.polls n).exchanges answer start := by
  obtain ⟨polled, hpolled⟩ := exists_polls_eq_done h past
  rw [polls_add, Program.exchanges_bind, hpolled, Program.done_bind]
  exact List.append_nil _

end MessageStream

/-- An answer to a receive that is no message. -/
def Arrival.Ends (a : Arrival) : Prop := ∀ m, a ≠ .ok (some m)

theorem Arrival.ends_of_eq_none {a : Arrival} (h : a = .ok none) : a.Ends := by
  rintro m rfl
  cases h

theorem Arrival.ends_of_eq_error {a : Arrival} {text : String} (h : a = .error text) : a.Ends := by
  rintro m rfl
  cases h

/-- Surroundings in which receives are answered by a sequence, the first one by its first
member, and everything else in some way. -/
def arriving (other : (r : Request) → r.Reply) (arrivals : Nat → Arrival) :
    (r : Request) → Nat → r.Reply × Nat
  | .call (.receive ..), received => (arrivals received, received + 1)
  | r, received => (other r, received)

namespace Consumer

/-- What a stream that is polled `n` more times does with the answer to a receive: it goes on
with its consumer only after a message. -/
def afterPoll (c : Consumer) (n : Nat) : Arrival → Program (List Polled × MessageStream)
  | .ok (some m) => (c.stream.polls n).bind fun rest => .done (.item (.ok m) :: rest.1, rest.2)
  | .ok none => .done (.ended :: List.replicate n .panicked, .ended)
  | .error text => .ask
      (.report { message := "failure to consume message", error := some text }) fun _ =>
    ((MessageStream.unfolding none).polls n).bind fun rest =>
      .done (.item (.error (.client text)) :: rest.1, rest.2)

theorem polls_succ_stream (c : Consumer) (n : Nat) :
    c.stream.polls (n + 1) = .ask (.call (.receive c.handle none)) (c.afterPoll n) := by
  refine congrArg (Program.ask (.call (.receive c.handle none))) (funext fun reply => ?_)
  rcases (reply : Arrival) with text | _ | m
  · rfl
  · show (MessageStream.ended.polls n).bind _ = _
    rw [MessageStream.polls_ended]
    rfl
  · rfl

/-! ### What a stream makes of what arrives -/

/-- The receives of a consumer, without a timeout, that were given these answers. -/
def receives (c : Consumer) (answers : List Arrival) : List Exchange :=
  answers.flatMap (performed (.receive c.handle none))

/-- The first things to arrive are these messages. -/
def Brings (arrivals : Nat → Arrival) (ms : List Message) : Prop :=
  ∀ i m, ms[i]? = some m → arrivals i = .ok (some m)

/-- The polls that have come to these messages. -/
def itemsOf (ms : List Message) : List Polled := ms.map fun m => .item (.ok m)

/-- What a number of polls of a stream come to: all that is asked for, what each poll comes to,
and what is left of the stream. -/
inductive Streams (c : Consumer) (arrivals : Nat → Arrival) :
    Nat → List Exchange → List Polled → MessageStream → Prop
  /-- Each poll has received a message. -/
  | running {ms : List Message} (h : Brings arrivals ms) :
    Streams c arrivals ms.length (c.receives (ms.map (.ok ∘ some))) (itemsOf ms) c.stream
  /-- After the messages there was none left, and the stream has ended. -/
  | closed {ms : List Message} (h : Brings arrivals ms) (hend : arrivals ms.length = .ok none)
    (past : Nat) :
    Streams c arrivals (ms.length + 1 + past) (c.receives (ms.map (.ok ∘ some) ++ [.ok none]))
      (itemsOf ms ++ .ended :: List.replicate past .panicked) .ended
  /-- After the messages there was a failure, which is the last item. -/
  | failing {ms : List Message} (h : Brings arrivals ms) {text : String}
    (hend : arrivals ms.length = .error text) :
    Streams c arrivals (ms.length + 1) (c.receives (ms.map (.ok ∘ some) ++ [.error text]))
      (itemsOf ms ++ [.item (.error (.client text))]) (.unfolding none)
  /-- And after the failure the stream has ended. -/
  | failed {ms : List Message} (h : Brings arrivals ms) {text : String}
    (hend : arrivals ms.length = .error text) (past : Nat) :
    Streams c arrivals (ms.length + 2 + past) (c.receives (ms.map (.ok ∘ some) ++ [.error text]))
      (itemsOf ms ++ .item (.error (.client text)) :: .ended :: List.replicate past .panicked) .ended

section Streams

variable {c : Consumer} {arrivals : Nat → Arrival} {n : Nat} {log : List Exchange}
  {polled : List Polled} {rest : MessageStream}

theorem brings_nil (arrivals : Nat → Arrival) : Brings arrivals [] :=
  fun _ _ hm => absurd hm (by simp)

theorem Brings.cons {ms : List Message} {m : Message} (hfirst : arrivals 0 = .ok (some m))
    (h : Brings (fun i => arrivals (i + 1)) ms) : Brings arrivals (m :: ms)
  | 0, _, hm => by
    obtain rfl := Option.some.inj hm
    exact hfirst
  | i + 1, other, hm => h i other hm

/-- What comes first is a message for as long as there are messages. -/
theorem Brings.not_ends {ms : List Message} (h : Brings arrivals ms) {k : Nat}
    (hk : k < ms.length) : ¬ (arrivals k).Ends :=
  fun hends => hends ms[k] (h k ms[k] (List.getElem?_eq_getElem hk))

/-- **A message first, and then what the later arrivals come to.** -/
theorem Streams.cons {m : Message} (hfirst : arrivals 0 = .ok (some m))
    (h : c.Streams (fun i => arrivals (i + 1)) n log polled rest) :
    c.Streams arrivals (n + 1) (performed (.receive c.handle none) (.ok (some m)) ++ log)
      (.item (.ok m) :: polled) rest := by
  cases h with
  | running h => exact .running (h.cons hfirst)
  | @closed ms h hend past =>
    have hlength : ms.length + 1 + past + 1 = (m :: ms).length + 1 + past := by
      rw [List.length_cons]
      omega
    rw [hlength]
    exact .closed (h.cons hfirst) hend past
  | failing h hend => exact .failing (h.cons hfirst) hend
  | @failed ms h text hend past =>
    have hlength : ms.length + 2 + past + 1 = (m :: ms).length + 2 + past := by
      rw [List.length_cons]
      omega
    rw [hlength]
    exact .failed (h.cons hfirst) hend past

/-- **However often a stream is polled, it makes this of what arrives**, whatever has been
received before. -/
theorem streams_polls (c : Consumer) (other : (r : Request) → r.Reply) (arrivals : Nat → Arrival) :
    ∀ n received : Nat, c.Streams (fun i => arrivals (received + i)) n
      ((c.stream.polls n).exchanges (arriving other arrivals) received)
      ((c.stream.polls n).runWith (arriving other arrivals) received).1.1
      ((c.stream.polls n).runWith (arriving other arrivals) received).1.2
  | 0, received => .running (brings_nil _)
  | n + 1, received => by
    have hexchanges : (c.stream.polls (n + 1)).exchanges (arriving other arrivals) received =
        .ofCall (.receive c.handle none) (arrivals received) ::
          (c.afterPoll n (arrivals received)).exchanges (arriving other arrivals) (received + 1) := by
      rw [polls_succ_stream]
      rfl
    have hrun : (c.stream.polls (n + 1)).runWith (arriving other arrivals) received =
        (c.afterPoll n (arrivals received)).runWith (arriving other arrivals) (received + 1) := by
      rw [polls_succ_stream]
      rfl
    rw [hexchanges, hrun]
    cases harrival : arrivals received with
    | error text =>
      cases n with
      | zero => exact .failing (brings_nil _) harrival
      | succ past =>
        have h : c.Streams (fun i => arrivals (received + i)) (0 + 2 + past) _ _ _ :=
          .failed (brings_nil _) harrival past
        rw [Nat.zero_add, Nat.add_comm] at h
        rw [afterPoll, MessageStream.polls_succ_unfolding_none]
        exact h
    | ok arrival =>
      cases arrival with
      | none =>
        have h : c.Streams (fun i => arrivals (received + i)) (0 + 1 + n) _ _ _ :=
          .closed (brings_nil _) harrival n
        rw [Nat.zero_add, Nat.add_comm] at h
        exact h
      | some m =>
        have ih := streams_polls c other arrivals n (received + 1)
        have hshift :
            (fun i => arrivals (received + 1 + i)) = fun i => arrivals (received + (i + 1)) :=
          funext fun i => congrArg arrivals (by omega)
        rw [hshift] at ih
        have h : c.Streams (fun i => arrivals (received + i)) (n + 1) _ _ _ := .cons harrival ih
        rw [afterPoll, Program.exchanges_bind, Program.runWith_bind]
        show c.Streams _ (n + 1) (_ :: (_ ++ [])) _ _
        rw [List.append_nil]
        exact h

/-- A stream has no consumer any more once something has arrived that is no message. -/
theorem Streams.isOver_iff (h : c.Streams arrivals n log polled rest) :
    rest.isOver = true ↔ ∃ k < n, (arrivals k).Ends := by
  cases h with
  | running h => exact iff_of_false Bool.false_ne_true fun ⟨k, hk, hends⟩ => h.not_ends hk hends
  | @closed ms h hend past =>
    exact iff_of_true rfl ⟨ms.length, by omega, Arrival.ends_of_eq_none hend⟩
  | @failing ms h text hend =>
    exact iff_of_true rfl ⟨ms.length, by omega, Arrival.ends_of_eq_error hend⟩
  | @failed ms h text hend past =>
    exact iff_of_true rfl ⟨ms.length, by omega, Arrival.ends_of_eq_error hend⟩

/-- **A stream ends with the poll that finds no message left, or with the one after the poll that
fails.** -/
theorem Streams.ended_mem_iff (h : c.Streams arrivals n log polled rest) :
    .ended ∈ polled ↔
      ∃ k, (arrivals k = .ok none ∧ k < n) ∨ ((∃ text, arrivals k = .error text) ∧ k + 1 < n) := by
  have hitems (ms : List Message) : Polled.ended ∉ itemsOf ms := by simp [itemsOf]
  have hmessages {ms : List Message} (h : Brings arrivals ms) (k : Nat) :
      ¬ ((arrivals k = .ok none ∧ k < ms.length) ∨
        ((∃ text, arrivals k = .error text) ∧ k < ms.length)) := by
    rintro (⟨hnone, hk⟩ | ⟨⟨text, herror⟩, hk⟩)
    · exact h.not_ends hk (Arrival.ends_of_eq_none hnone)
    · exact h.not_ends hk (Arrival.ends_of_eq_error herror)
  cases h with
  | @running ms h =>
    refine iff_of_false (hitems ms) fun ⟨k, hk⟩ => hmessages h k ?_
    exact hk.imp_right fun ⟨herror, hlt⟩ => ⟨herror, Nat.lt_of_succ_lt hlt⟩
  | @closed ms h hend past =>
    exact iff_of_true (by simp) ⟨ms.length, .inl ⟨hend, by omega⟩⟩
  | @failing ms h text hend =>
    refine iff_of_false (by simp [hitems]) fun ⟨k, hk⟩ => hmessages h k ?_
    -- the failure itself is no end yet
    refine hk.imp (fun ⟨hnone, hlt⟩ => ⟨hnone, ?_⟩) fun ⟨herror, hlt⟩ => ⟨herror, by omega⟩
    refine Nat.lt_of_le_of_ne (Nat.le_of_lt_succ hlt) fun heq => ?_
    rw [heq, hend] at hnone
    cases hnone
  | @failed ms h text hend past =>
    exact iff_of_true (by simp) ⟨ms.length, .inr ⟨⟨text, hend⟩, by omega⟩⟩

end Streams

/-- **A stream yields the messages up to the first answer that is none, and after them its
failure if it is one**, with one receive for each of these answers. It ends as soon as there has
been such an answer, or with the next poll if it was a failure, and receives nothing after it. -/
theorem stream_follows_arrivals (c : Consumer) (other : (r : Request) → r.Reply)
    (arrivals : Nat → Arrival) (n : Nat) :
    let surroundings := arriving other arrivals
    let polled := ((c.stream.polls n).runWith surroundings 0).1
    let asked (n : Nat) := (c.stream.polls n).exchanges surroundings 0
    c.Streams arrivals n (asked n) polled.1 polled.2 ∧
      (.ended ∈ polled.1 ↔ ∃ k, (arrivals k = .ok none ∧ k < n) ∨
        ((∃ text, arrivals k = .error text) ∧ k + 1 < n)) ∧
      ((∃ k < n, (arrivals k).Ends) → ∀ past, asked (n + past) = asked n) := by
  intro surroundings polled asked
  have h : c.Streams arrivals n (asked n) polled.1 polled.2 := by
    have h := streams_polls c other arrivals n 0
    simp only [Nat.zero_add] at h
    exact h
  refine ⟨h, h.ended_mem_iff, fun hends past => ?_⟩
  exact MessageStream.exchanges_polls_add surroundings (h.isOver_iff.2 hends) past

end Consumer
end MessageBus
