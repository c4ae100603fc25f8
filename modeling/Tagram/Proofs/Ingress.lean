/-
# What an ingress thread queues

A thread that receives queues the messages of every datagram that its socket
delivers, once, in order, and all of them or none: none if a decoder aborts on
the datagram, even if frames before that one were fine. Others pop from the
queue and drain it meanwhile, and raise the stop flag at any time.

The socket writes into a buffer that is used again for every datagram. It is
assumed to keep its side of the contract (`Reply.truthful`): the bytes that it
says it received it has written to the front of the buffer, and they fit. What
an earlier datagram left in the buffer is then never read
(`Actor.incoming?_eq_delivered?`).

A session of such a thread ends for one of five reasons (`Actor.Closes`), and
for a sixth one if the buffer is too large to be allocated.

Key definitions: `Reply.truthful`, `Actor.delivered?`, `Move.polls`,
`Life.deliveries`, `Life.handled`, `Actor.Closes`.
Key theorems: `Life.Receives.run`, `Life.received_run`, `Actor.engaged_step`,
`Life.run_ingress`.
-/
import Tagram.Proofs.Sessions

namespace Tagram
namespace Endpoint

variable {μ : Type}

/-! ### What the socket delivers -/

/-- What a socket says it received into a buffer of `size` bytes it has written,
and it fits. -/
def Reply.truthful (size : Nat) : Reply → Bool
  | .received data length => length ≤ data.length && length ≤ size
  | _ => true

/-- Behind what was received nothing is read, however much an earlier datagram left
there. -/
theorem Buffer.front?_fill_of_le (b : Buffer) {data : Bytes} {length : Nat}
    (hd : length ≤ data.length) (hs : length ≤ b.size) :
    (b.fill data).front? length = some (data.take length) := by
  have hlen : length ≤ (data.take b.size).length := by
    rw [List.length_take]
    omega
  have hsize : (b.fill data).size = b.size := rfl
  have hwritten : (b.fill data).written =
      data.take b.size ++ b.written.drop (data.take b.size).length := rfl
  rw [front?, hsize, if_pos hs, hwritten, List.append_assoc,
    List.take_append_of_le_length hlen, List.take_take, Nat.min_eq_left hs]

namespace Actor

/-- The datagram that the socket delivers with this reply. -/
def delivered? (a : Actor μ) (reply : Reply) : Option Bytes :=
  match a.control, reply with
  | .receiving _, .received data length => some (data.take length)
  | .receiving _, .done => some []
  | _, _ => none

/-- The messages in hand are all those of the datagram that came in, and no decoder
aborted on it. -/
theorem queueing_of_step [WireMessage μ] {setup : Setup μ} {a : Actor μ} {now : Nat} {reply : Reply}
    {s : Session} {messages : List μ}
    (h : (a.step setup now reply).1.control = .queueing s messages) :
    ∃ d, a.incoming? reply = some d ∧ Datagram.crash? setup.registry d = none ∧
      messages = (Datagram.decode setup.registry d).messages := by
  rcases hs : a.setback? setup reply with _ | source
  · cases (step_course now hs).2.2 with
    | served s' s'' ha hb hp hq => exact hq s messages h
    | begun _ _ hb | opened _ hb | armed _ _ hb | waited _ _ _ _ hb | slept _ _ _ _ _ hb
    | stopped _ _ hb | aborted _ _ hb | finished _ _ hb =>
      rw [h] at hb
      cases hb
  · -- After a setback no session is on.
    have hoff := fail_engaged setup now a source a.control.progressed
    rw [← step_setback now hs, h] at hoff
    cases hoff

/-- **What the thread finds in its buffer is what the socket delivered.** -/
theorem incoming?_eq_delivered? {setup : Setup μ} {a : Actor μ} {reply : Reply}
    (hz : a.Sized setup) (ht : reply.truthful setup.config.bufferSize = true) :
    a.incoming? reply = a.delivered? reply := by
  obtain ⟨queue, stopping, failures, control⟩ := a
  cases control with
  | receiving s =>
    have hsize : s.buffer.size = setup.config.bufferSize := hz s rfl
    cases reply with
    | received data length =>
      obtain ⟨hd, hs⟩ : length ≤ data.length ∧ length ≤ setup.config.bufferSize := by
        simpa [Reply.truthful] using ht
      exact s.buffer.front?_fill_of_le hd (hsize ▸ hs)
    | done => exact s.buffer.front?_fill_of_le (Nat.le_refl _) (Nat.zero_le _)
    | _ => rfl
  | _ => rfl

/-! ### What ends a session -/

/-- What ends a session of a thread that receives. -/
inductive Closes (setup : Setup μ) (reply : Reply) (a : Actor μ) : Prop where
  /-- The stop flag is seen. -/
  | stopped (s : Session) (hc : a.control = .serving s) (hs : a.stopping = true)
  /-- The socket cannot be opened. -/
  | unopened (e : Net.SocketError) (hc : a.control = .opening) (hr : reply = .failed e)
  /-- The read timeout cannot be set. -/
  | unarmed (e : Net.SocketError) (hc : a.control = .arming) (hr : reply = .failed e)
  /-- Receiving fails, and not because a wait ran out. -/
  | broken (s : Session) (e : Net.SocketError) (hc : a.control = .receiving s)
    (hr : reply = .failed e) (ht : e.kind ≠ .wouldBlock ∧ e.kind ≠ .timedOut)
  /-- A decoder aborts on the datagram that was delivered. -/
  | crashed (d : Bytes) (reason : Option String) (hd : a.delivered? reply = some d)
    (hs : (Datagram.decode setup.registry d).stop = .aborted reason)

/-- The socket is open, and its receive buffer is too large to be allocated. -/
structure Overtaxes (setup : Setup μ) (reply : Reply) (a : Actor μ) : Prop where
  arming : a.control = .arming
  armed : ∀ e, reply ≠ .failed e
  size : allocationLimit ≤ setup.config.bufferSize

theorem isTimeout_eq_false {e : Net.SocketError} :
    e.isTimeout = false ↔ e.kind ≠ .wouldBlock ∧ e.kind ≠ .timedOut := by
  simp [Net.SocketError.isTimeout]

section

variable {setup : Setup μ} {reply : Reply} {a : Actor μ}

theorem closes_of_setback {source : Net.SocketError} (hi : setup.config.role = .ingress)
    (hin : a.incoming? reply = a.delivered? reply) (h : a.setback? setup reply = some source) :
    a.Closes setup reply := by
  -- Apart from a failed call it is a decoder that aborts.
  have hcrash : (a.incoming? reply).bind (Datagram.crash? setup.registry) = some source →
      a.Closes setup reply := by
    intro hbind
    obtain ⟨d, hd, hc⟩ := Option.bind_eq_some_iff.1 hbind
    obtain ⟨reason, hs, -⟩ := Datagram.crash?_eq_some hc
    exact .crashed d reason (hin ▸ hd) hs
  obtain ⟨queue, stopping, failures, control⟩ := a
  cases control with
  | opening =>
    cases reply with
    | failed e => exact .unopened e rfl rfl
    | _ => exact hcrash h
  | arming =>
    cases reply with
    | failed e => exact .unarmed e rfl rfl
    | _ => exact hcrash h
  | receiving s =>
    cases reply with
    | failed e =>
      by_cases ht : e.isTimeout = true
      · simp [setback?, ht] at h
      · exact .broken s e rfl rfl (isTimeout_eq_false.1 (by simpa using ht))
    | _ =>
      rw [setback?_of_receiving rfl (by simp)] at h
      exact hcrash h
  | sending s tag frame =>
    simp only [setback?, hi] at h
    exact hcrash h
  | _ => exact hcrash h

theorem receiving_of_delivered? {d : Bytes} (h : a.delivered? reply = some d) :
    (∃ s, a.control = .receiving s) ∧ ∀ e, reply ≠ .failed e := by
  unfold delivered? at h
  split at h
  · rename_i s _ _ hc
    exact ⟨⟨s, hc⟩, by simp⟩
  · rename_i s hc
    exact ⟨⟨s, hc⟩, by simp⟩
  · cases h

theorem setback?_of_closes (hin : a.incoming? reply = a.delivered? reply)
    (h : a.Closes setup reply) (hs : ∀ s, a.control = .serving s → a.stopping = false) :
    ∃ source, a.setback? setup reply = some source := by
  cases h with
  | stopped s hc hstop =>
    rw [hs s hc] at hstop
    cases hstop
  | unopened e hc hr =>
    subst hr
    exact ⟨e, by simp [setback?, hc]⟩
  | unarmed e hc hr =>
    subst hr
    exact ⟨e, by simp [setback?, hc]⟩
  | broken s e hc hr ht =>
    subst hr
    exact ⟨e, by simp [setback?, hc, isTimeout_eq_false.2 ht]⟩
  | crashed d reason hd hstop =>
    obtain ⟨⟨s, hc⟩, hr⟩ := receiving_of_delivered? hd
    rw [setback?_of_receiving hc hr, hin, hd, Option.bind_some, Datagram.crash?, hstop]
    exact ⟨_, rfl⟩

theorem Overtaxes.aborts [WireMessage μ] (h : a.Overtaxes setup reply)
    (hi : setup.config.role = .ingress) (now : Nat) :
    (a.step setup now reply).1.control = .ended .aborted := by
  obtain ⟨hc, hr, hs⟩ := h
  cases reply with
  | failed e => exact absurd rfl (hr e)
  | _ => simp [step, hc, hi, Nat.not_lt.2 hs, goto]

/-- **When a session ends**: for one of the reasons above, or because its buffer
cannot be allocated. -/
theorem engaged_step [WireMessage μ] (hi : setup.config.role = .ingress) (now : Nat)
    (hz : a.Sized setup) (hsu : a.control.suits setup.config.role = true)
    (ht : reply.truthful setup.config.bufferSize = true) (hna : reply ≠ .aborted)
    (he : a.control.engaged = true) :
    (a.step setup now reply).1.control.engaged = false ↔
      a.Closes setup reply ∨ a.Overtaxes setup reply := by
  have hin := incoming?_eq_delivered? hz ht
  constructor
  · intro hoff
    rcases closed_cases now he hoff with ⟨source, hs⟩ | ⟨s, hc, hstop⟩ | h
    · exact .inl (closes_of_setback hi hin hs)
    · exact .inl (.stopped s hc hstop)
    cases h with
    | call _ hr => exact absurd hr hna
    | buffer hc _ hl =>
      by_cases hf : ∃ e, reply = .failed e
      · obtain ⟨e, hr⟩ := hf
        exact .inl (.unarmed e hc hr)
      · exact .inr ⟨hc, fun e hr => hf ⟨e, hr⟩, hl⟩
    | overlong s data length hc hr hl =>
      -- A truthful socket says nothing of this kind.
      subst hr
      have hsize : s.buffer.size = setup.config.bufferSize := hz s (by rw [hc]; rfl)
      have hle : length ≤ setup.config.bufferSize := by
        simp only [Reply.truthful, Bool.and_eq_true, decide_eq_true_eq] at ht
        exact ht.2
      omega
    | writer s _ _ hc _ _ | astray s _ _ hc _ =>
      rw [hc, hi] at hsu
      cases hsu
  · rintro (h | h)
    · by_cases hstop : ∃ s, a.control = .serving s ∧ a.stopping = true
      · obtain ⟨s, hc, hs⟩ := hstop
        exact engaged_of_stopping setup now hc hs
      · obtain ⟨source, hs⟩ := setback?_of_closes hin h fun s hc => by
          by_contra hne
          exact hstop ⟨s, hc, by simpa using hne⟩
        exact engaged_of_setback now hs
    · rw [h.aborts hi now]
      rfl

end

end Actor

/-- What happens to a thread that receives: its socket is truthful, and others take
from the queue or raise the stop flag. -/
def Move.polls (size : Nat) : Move μ → Bool
  | .step _ reply => reply.truthful size
  | .push _ => false
  | .pop | .drain | .stop => true

/-- The datagram that the socket delivers in a move. -/
def Move.delivered? (a : Actor μ) : Move μ → Option Bytes
  | .step _ reply => a.delivered? reply
  | _ => none

namespace Life

/-- The datagrams that the socket delivers in the moves to come. -/
def deliveries [WireMessage μ] (setup : Setup μ) (l : Life μ) : List (Move μ) → List Bytes
  | [] => []
  | m :: moves => (m.delivered? l.actor).toList ++ deliveries setup (l.after setup m) moves

/-- The datagrams that the thread is done with: those that arrived, but for one
whose messages it has yet to queue. -/
def handled (l : Life μ) : List Bytes :=
  match l.actor.control with
  | .queueing _ _ => l.received.dropLast
  | _ => l.received

section

variable [WireMessage μ] {setup : Setup μ} {queue : List μ} {l : Life μ}

theorem Receives.after (hr : setup.config.role = .ingress) (h : l.Receives setup queue) {m : Move μ}
    (hm : m.polls setup.config.bufferSize = true) : (l.after setup m).Receives setup queue := by
  cases m with
  | step now reply => exact h.step hr now reply
  | push messages => cases hm
  | pop => exact h.pop
  | drain => exact h.drain
  | stop => exact h.stop

theorem Receives.run (hr : setup.config.role = .ingress) {moves : List (Move μ)}
    (hm : ∀ m ∈ moves, m.polls setup.config.bufferSize = true) (h : l.Receives setup queue) :
    (l.run setup moves).Receives setup queue := by
  induction moves generalizing l with
  | nil => exact h
  | cons m moves ih =>
    rw [List.forall_mem_cons] at hm
    exact ih hm.2 (h.after hr hm.1)

/-- What arrives in a move is what the socket delivers in it. -/
theorem received_after (h : l.Receives setup queue) {m : Move μ}
    (hm : m.polls setup.config.bufferSize = true) :
    (l.after setup m).received = l.received ++ (m.delivered? l.actor).toList := by
  cases m with
  | step now reply =>
    rw [Life.after, Actor.incoming?_eq_delivered? h.sized hm]
    rfl
  | _ => exact (List.append_nil _).symm

/-- **What arrives is what the socket delivers**, over all sessions. -/
theorem received_run (hr : setup.config.role = .ingress) {moves : List (Move μ)}
    (hm : ∀ m ∈ moves, m.polls setup.config.bufferSize = true) (h : l.Receives setup queue) :
    (l.run setup moves).received = l.received ++ l.deliveries setup moves := by
  induction moves generalizing l with
  | nil => exact (List.append_nil _).symm
  | cons m moves ih =>
    rw [List.forall_mem_cons] at hm
    have hstep := ih hm.2 (h.after hr hm.1)
    rw [received_after h hm.1, List.append_assoc] at hstep
    exact hstep

end

/-! ### What is queued -/

section

variable {setup : Setup μ} {queue : List μ} {l : Life μ}

/-- The messages that are about to be queued are all those of the datagram that
arrived last. -/
def InHand (setup : Setup μ) (l : Life μ) : Prop :=
  ∀ s messages, l.actor.control = .queueing s messages →
    ∃ d, l.received = l.handled ++ [d] ∧ Datagram.crash? setup.registry d = none ∧
      messages = (Datagram.decode setup.registry d).messages

theorem handled_of_queueing {s : Session} {messages : List μ}
    (h : l.actor.control = .queueing s messages) : l.handled = l.received.dropLast := by
  simp only [handled, h]

theorem handled_of_not_queueing (h : ∀ s messages, l.actor.control ≠ .queueing s messages) :
    l.handled = l.received := by
  unfold handled
  split
  · rename_i s messages hc
    exact absurd hc (h s messages)
  · rfl

theorem InHand.start (setup : Setup μ) (queue : List μ) : (Life.start queue).InHand setup := by
  intro s messages hc
  cases hc

theorem InHand.after [WireMessage μ] (h : l.InHand setup) (m : Move μ) :
    (l.after setup m).InHand setup := by
  cases m with
  | step now reply =>
    intro s messages hc
    obtain ⟨d, hd, hcrash, hmessages⟩ := Actor.queueing_of_step hc
    refine ⟨d, ?_, hcrash, hmessages⟩
    rw [handled_of_queueing hc]
    simp [Life.after, hd]
  | _ => exact h

theorem InHand.run [WireMessage μ] (h : l.InHand setup) (moves : List (Move μ)) :
    (l.run setup moves).InHand setup := by
  induction moves generalizing l with
  | nil => exact h
  | cons m moves ih => exact ih (h.after m)

/-- Only the datagrams on which no decoder aborts bring messages. -/
theorem flatMap_yield (registry : Registry μ) (ds : List Bytes) :
    ds.flatMap (Datagram.yield registry) =
      (ds.filter fun d => (Datagram.crash? registry d).isNone).flatMap
        fun d => (Datagram.decode registry d).messages := by
  induction ds with
  | nil => rfl
  | cons d ds ih =>
    rw [List.flatMap_cons, ih]
    rcases hc : Datagram.crash? registry d with _ | source
    · rw [List.filter_cons_of_pos (by simp [hc]), List.flatMap_cons,
        Datagram.yield_of_decoded (Datagram.crash?_eq_none.1 hc)]
    · obtain ⟨reason, hs, -⟩ := Datagram.crash?_eq_some hc
      have hy : Datagram.yield registry d = [] := by rw [Datagram.yield, hs]
      rw [List.filter_cons_of_neg (by simp [hc]), hy, List.nil_append]

/-- **The queue holds what the datagrams brought**, as far as it was not taken. -/
theorem Receives.queued (h : l.Receives setup queue) (hh : l.InHand setup) :
    l.removed ++ l.actor.queue = queue ++ l.handled.flatMap (Datagram.yield setup.registry) := by
  have hadded : l.added = l.handled.flatMap (Datagram.yield setup.registry) := by
    have hdecoded := h.decoded
    by_cases hq : ∃ s messages, l.actor.control = .queueing s messages
    · obtain ⟨s, messages, hc⟩ := hq
      obtain ⟨d, hd, hcrash, rfl⟩ := hh s messages hc
      rw [hd, hc, List.flatMap_append, List.flatMap_singleton,
        Datagram.yield_of_decoded (Datagram.crash?_eq_none.1 hcrash)] at hdecoded
      exact List.append_cancel_right hdecoded
    · have hne : ∀ s messages, l.actor.control ≠ .queueing s messages :=
        fun s messages hc => hq ⟨s, messages, hc⟩
      have hpending : l.actor.control.pending = [] := by
        unfold Control.pending
        split
        · rename_i s messages hc
          exact absurd hc (hne s messages)
        · rfl
      rwa [hpending, List.append_nil, ← handled_of_not_queueing hne] at hdecoded
  rw [h.kept, hadded]

end

/-- **Every datagram's messages are queued once, in order, all or none**, in every run of a
thread that receives, with a truthful socket and others that pop, drain and stop at any
time. Not yet counted is only a datagram whose messages are all about to be queued. A
session ends for one of the reasons of `Closes`, or because its buffer cannot be
allocated, which ends the thread. -/
theorem run_ingress [WireMessage μ] (setup : Setup μ) (hi : setup.config.role = .ingress)
    (queue : List μ) (moves : List (Move μ))
    (hm : ∀ m ∈ moves, m.polls setup.config.bufferSize = true) :
    let l := (start queue).run setup moves
    l.received = (start queue).deliveries setup moves ∧
    (l.removed ++ l.actor.queue = queue ++
        (l.handled.filter fun d => (Datagram.crash? setup.registry d).isNone).flatMap
          (fun d => (Datagram.decode setup.registry d).messages) ∧
      ∀ now reply, (l.after setup (.step now reply)).removed = l.removed) ∧
    ((∀ s messages, l.actor.control = .queueing s messages →
        ∃ d, l.received = l.handled ++ [d] ∧ Datagram.crash? setup.registry d = none ∧
          messages = (Datagram.decode setup.registry d).messages) ∧
      ((∀ s messages, l.actor.control ≠ .queueing s messages) → l.handled = l.received)) ∧
    ∀ now reply, reply.truthful setup.config.bufferSize = true → reply ≠ .aborted →
      l.actor.control.engaged = true →
      let next := (l.after setup (.step now reply)).actor.control
      (next.engaged = false ↔ l.actor.Closes setup reply ∨ l.actor.Overtaxes setup reply) ∧
        (l.actor.Overtaxes setup reply → next = .ended .aborted) := by
  have h := (Receives.start setup queue).run hi hm
  have hh := (InHand.start setup queue).run moves
  have hreceived := received_run hi hm (Receives.start setup queue)
  set l := (start queue).run setup moves
  refine ⟨hreceived, ⟨?_, fun now reply => ?_⟩, ⟨hh, handled_of_not_queueing⟩, ?_⟩
  · rw [h.queued hh, flatMap_yield]
  · have ht : l.actor.takes = [] := by
      have hsuits := h.suits
      apply Actor.takes_of_ne_taking
      intro s hc
      rw [hi, hc] at hsuits
      cases hsuits
    rw [after, ht, List.append_nil]
  · intro now reply ht hna he
    exact ⟨Actor.engaged_step hi now h.sized h.suits ht hna he, fun hover => hover.aborts hi now⟩

/-- A receiver with a decoder that aborts on every frame with the tag `Boom`. -/
def mined : Setup Command where
  config := { address := .v4 127 0 0 1 9000, role := .ingress, bufferSize := 64 }
  registry := Command.registry.register "Boom" fun _ => .abort none

/-- The frame of an input command. -/
def inputFrame (code : UInt8) : Bytes := Frame.bytes (Bytes.ofText "Input") [0, code]

/-- One datagram is received and handled at the time `now`. -/
def arrival (now : Nat) (d : Bytes) : List (Move Command) :=
  [.step now .done, .step now (.received d d.length), .step now .done]

/-- A shorter datagram follows a longer one, a wait runs out, a decoder aborts on
the second frame of a datagram, and the session after that receives one more. -/
def mishaps : List (Move Command) :=
  [List.replicate 3 (.step 0 .done), arrival 0 (inputFrame 1 ++ inputFrame 2), [.pop],
    arrival 0 (inputFrame 3), [.step 0 .done, .step 0 (.failed (.ofKind .wouldBlock))],
    arrival 0 (inputFrame 4 ++ Frame.bytes (Bytes.ofText "Boom") []),
    List.replicate 4 (.step 50000000 .done), arrival 50000000 (inputFrame 5)].flatten

theorem run_ingress_mishaps :
    (∀ m ∈ mishaps, m.polls 64 = true) ∧
    ((start []).deliveries mined mishaps).length = 4 ∧
    ((start []).run mined mishaps).removed ++ ((start []).run mined mishaps).actor.queue =
      [.input 1, .input 2, .input 3, .input 5] := by
  have hm : ∀ m ∈ mishaps, m.polls 64 = true := by decide +kernel
  have h := run_ingress mined rfl [] mishaps hm
  exact ⟨hm, (congrArg List.length h.1.symm).trans (by decide +kernel),
    h.2.1.1.trans (by decide +kernel)⟩

/-- A receiver with the smallest buffer that cannot be allocated. -/
def vast : Setup Command where
  config := { address := .v4 127 0 0 1 4000, role := .ingress, bufferSize := allocationLimit }
  registry := Command.registry

/-- A datagram is received, and its message is not yet queued. -/
def underway : List (Move Command) :=
  List.replicate 4 (.step 0 .done) ++ [.step 0 (.received (inputFrame 1) (inputFrame 1).length)]

/-- A session can also end because its buffer cannot be allocated, though its socket
opens, no receiving fails, no decoder aborts and no one has asked the thread to stop.
And while a datagram is underway, what was popped and what is queued is not yet all
that the datagrams brought. -/
theorem ingress_exceptions :
    (let l := (start []).run vast [.step 0 .done, .step 0 .done]
      let l' := l.after vast (.step 0 .done)
      l.actor.control.engaged = true ∧ ¬ l.actor.Closes vast .done ∧
        l'.actor.control = .ended .aborted) ∧
    (let l := (start []).run mined underway
      let d := inputFrame 1
      l.received = [d] ∧ Datagram.crash? mined.registry d = none ∧
        (Datagram.decode mined.registry d).messages = [.input 1] ∧
        l.removed ++ l.actor.queue = []) := by
  refine ⟨⟨rfl, fun h => ?_, rfl⟩, by decide +kernel⟩
  cases h with
  | stopped s hs _ | broken s _ hs _ _ => cases hs
  | unopened e _ hr | unarmed e _ hr => cases hr
  | crashed d reason hd _ => cases hd

end Life

end Endpoint
end Tagram
