/-
# The turns of a thread

What a thread did is kept as the list of its turns: where it stood, the time,
and what the socket replied. What it called, what it queued, what it took off
the queue and what its sessions failed with can all be read off the turns,
whatever others did to its queue in between.

Over its whole life a thread queues every message of the datagrams that came
in, once it gets to it, and hands over the frame of every message that it took,
as long as no call of the socket and no writer of a message aborts
(`Life.recorded_run`).

Key definitions: `Turn`, `Life.turns`, `Actor.Fits`, `Life.Recorded`.
Key theorems: `Actor.step_frames`, `Life.run_turns`, `Life.recorded_run`.
-/
import Tagram.Proofs.Ingress

namespace Tagram
namespace Endpoint

variable {μ : Type}

namespace Actor

section

variable {setup : Setup μ} {a : Actor μ}

/-- The thread is where a thread of its role can be, and a receiver has a buffer of the
configured size. -/
structure Fits (setup : Setup μ) (a : Actor μ) : Prop where
  suits : a.control.suits setup.config.role = true
  sized : setup.config.role = .ingress → a.Sized setup

/-- While no call and no writer aborts, a frame in hand is handed over and a message taken
is written: none is lost. -/
theorem step_frames [WireMessage μ] (setup : Setup μ) (now : Nat) {reply : Reply}
    (hna : reply ≠ .aborted) (hw : ∀ m ∈ a.takes, WireMessage.aborts m = false)
    (hsu : a.control.suits setup.config.role = true) :
    a.control.unsent ++ Frame.writable a.takes =
      framesOf (a.step setup now reply).2 ++ (a.step setup now reply).1.control.unsent := by
  obtain ⟨lost, hframes, hlost⟩ := (stepped setup now reply a).frames
  have hnone : lost = [] := by
    by_contra hne
    have hend := hlost hne
    obtain ⟨queue, stopping, failures, control⟩ := a
    cases control with
    | taking s =>
      -- Taking a message does not end the thread.
      cases queue with
      | nil => cases hend
      | cons m rest =>
        have hm : WireMessage.aborts m = false := hw m (by simp [takes])
        rcases he : Frame.encode m with cause | frame
        · rw [step_drop rfl rfl hm he] at hend
          cases hend
        · rw [step_write rfl rfl hm he] at hend
          cases hend
    | sending s tag frame =>
      cases hr : setup.config.role with
      | ingress =>
        rw [hr] at hsu
        cases hsu
      | egress peer =>
        -- The frame is handed over, so there is no other one to be lost.
        cases reply with
        | aborted => exact hna rfl
        | failed e =>
          rw [step_refuse hr rfl, framesOf_handed] at hframes
          have hrest : [] = framesOf _ ++ _ ++ lost := (List.cons.inj hframes).2
          exact hne (List.append_eq_nil_iff.1 hrest.symm).2
        | _ =>
          rw [step_send hr rfl (by simp) (by simp)] at hend
          cases hend
    | _ =>
      have hnil : [] = framesOf _ ++ _ ++ lost := hframes
      exact hne (List.append_eq_nil_iff.1 hnil.symm).2
  rw [hframes, hnone, List.append_nil]

end

end Actor

/-! ### Turns -/

/-- A step that a thread made: where it stood, the time, and what the socket
replied. -/
structure Turn (μ : Type) where
  actor : Actor μ
  now : Nat
  reply : Reply

namespace Turn

/-- The call that was made. -/
def call? (t : Turn μ) : Option Call := t.actor.control.call?

/-- What the session failed with. -/
def setback? (setup : Setup μ) (t : Turn μ) : Option Net.SocketError :=
  t.actor.setback? setup t.reply

/-- What was queued. -/
def queued (t : Turn μ) : List μ := t.actor.control.pending

/-- What was taken off the queue. -/
def taken (t : Turn μ) : List μ := t.actor.takes

end Turn

/-- The turn of the thread that a move is. -/
def Move.turn? (a : Actor μ) : Move μ → Option (Turn μ)
  | .step now reply => some ⟨a, now, reply⟩
  | _ => none

namespace Life

variable [WireMessage μ] {setup : Setup μ} {queue : List μ} {l : Life μ} {past : List (Turn μ)}

/-- The turns of the thread in the moves to come. -/
def turns (setup : Setup μ) (l : Life μ) : List (Move μ) → List (Turn μ)
  | [] => []
  | m :: moves => (m.turn? l.actor).toList ++ turns setup (l.after setup m) moves

/-- What others leave alone: all but the queue and the flag, which stays raised. -/
structure Aside (l l' : Life μ) : Prop where
  control : l'.actor.control = l.actor.control
  failures : l'.actor.failures = l.actor.failures
  stopping : l.actor.stopping = true → l'.actor.stopping = true
  events : l'.events = l.events
  received : l'.received = l.received
  added : l.added <+: l'.added
  removed : l.removed <+: l'.removed

theorem aside_after {m : Move μ} (hm : m.turn? l.actor = none) : Aside l (l.after setup m) := by
  cases m with
  | step now reply => cases hm
  | push messages => exact ⟨rfl, rfl, id, rfl, rfl, List.prefix_append .., List.prefix_refl _⟩
  | pop | drain => exact ⟨rfl, rfl, id, rfl, rfl, List.prefix_refl _, List.prefix_append ..⟩
  | stop => exact ⟨rfl, rfl, fun _ => rfl, rfl, rfl, List.prefix_refl _, List.prefix_refl _⟩

/-- What the steps of the thread and the moves of others keep, a run keeps. -/
theorem run_turns {P : List (Turn μ) → Life μ → Prop}
    (hstep : ∀ past l now reply, P past l →
      P (past ++ [⟨l.actor, now, reply⟩]) (l.after setup (.step now reply)))
    (hother : ∀ past l m, m.turn? l.actor = none → P past l → P past (l.after setup m))
    (moves : List (Move μ)) (h : P past l) :
    P (past ++ l.turns setup moves) (l.run setup moves) := by
  induction moves generalizing l past with
  | nil =>
    rw [turns, List.append_nil]
    exact h
  | cons m moves ih =>
    rw [turns, ← List.append_assoc]
    rcases hm : m.turn? l.actor with _ | t
    · rw [Option.toList_none, List.append_nil]
      exact ih (hother past l m hm h)
    · cases m with
      | step now reply =>
        obtain rfl : ⟨l.actor, now, reply⟩ = t := Option.some.inj hm
        exact ih (hstep past l now reply h)
      | _ => cases hm

/-- What the turns of a thread say of its work. -/
structure Recorded (setup : Setup μ) (queue : List μ) (past : List (Turn μ)) (l : Life μ) :
    Prop where
  kept : l.Kept queue
  fits : l.actor.Fits setup
  fitted : ∀ t ∈ past, t.actor.Fits setup
  /-- What the thread queued, and what it is about to queue, are the messages of the
  datagrams that arrived. -/
  queued : past.flatMap Turn.queued ++ l.actor.control.pending =
    l.received.flatMap (Datagram.yield setup.registry)
  added : (past.flatMap Turn.queued).Sublist l.added
  removed : (past.flatMap Turn.taken).Sublist l.removed
  /-- While no call and no writer aborts, what the thread handed over, and the frame in
  hand, are the frames of the messages that it took. -/
  frames : (∀ t ∈ past, t.reply ≠ .aborted) →
    (∀ m ∈ past.flatMap Turn.taken, WireMessage.aborts m = false) →
    Frame.writable (past.flatMap Turn.taken) = l.handed ++ l.actor.control.unsent

theorem Recorded.start (setup : Setup μ) (queue : List μ) :
    Recorded setup queue [] (Life.start queue) where
  kept := (List.append_nil queue).symm
  fits := ⟨by cases setup.config.role <;> rfl, fun _ _ h => by cases h⟩
  fitted _ h := by cases h
  queued := rfl
  added := List.nil_sublist _
  removed := List.nil_sublist _
  frames _ _ := rfl

theorem Recorded.step (h : Recorded setup queue past l) (now : Nat) (reply : Reply) :
    Recorded setup queue (past ++ [⟨l.actor, now, reply⟩]) (l.after setup (.step now reply)) := by
  have hs := Actor.stepped setup now reply l.actor
  have hqueued : (past ++ [(⟨l.actor, now, reply⟩ : Turn μ)]).flatMap Turn.queued =
      past.flatMap Turn.queued ++ l.actor.control.pending := by
    rw [List.flatMap_append, List.flatMap_singleton]
    rfl
  have htaken : (past ++ [(⟨l.actor, now, reply⟩ : Turn μ)]).flatMap Turn.taken =
      past.flatMap Turn.taken ++ l.actor.takes := by
    rw [List.flatMap_append, List.flatMap_singleton]
    rfl
  refine ⟨kept_after h.kept _, ⟨hs.suits h.fits.suits, fun hi => hs.sized hi (h.fits.sized hi)⟩,
    ?_, ?_, ?_, ?_, fun hna hw => ?_⟩
  · rw [List.forall_mem_append, List.forall_mem_singleton]
    exact ⟨h.fitted, h.fits⟩
  · rw [hqueued, h.queued, after, List.flatMap_append, hs.pending]
  · rw [hqueued]
    exact h.added.append (List.Sublist.refl _)
  · rw [htaken]
    exact h.removed.append (List.Sublist.refl _)
  · rw [List.forall_mem_append, List.forall_mem_singleton] at hna
    rw [htaken, List.forall_mem_append] at hw
    have hhanded : (l.after setup (.step now reply)).handed =
        l.handed ++ framesOf (l.actor.step setup now reply).2 := framesOf_append ..
    rw [htaken, Frame.writable_append, h.frames hna.1 hw.1, List.append_assoc,
      Actor.step_frames setup now hna.2 hw.2 h.fits.suits, hhanded, List.append_assoc]
    rfl

theorem Recorded.other (h : Recorded setup queue past l) {m : Move μ}
    (hm : m.turn? l.actor = none) : Recorded setup queue past (l.after setup m) := by
  have ha : Aside l (l.after setup m) := aside_after hm
  refine ⟨kept_after h.kept _, ⟨?_, ?_⟩, h.fitted, ?_, h.added.trans ha.added.sublist,
    h.removed.trans ha.removed.sublist, fun hna hw => ?_⟩
  · rw [ha.control]
    exact h.fits.suits
  · rw [Actor.Sized, ha.control]
    exact h.fits.sized
  · rw [ha.control, ha.received]
    exact h.queued
  · rw [handed, ha.events, ha.control]
    exact h.frames hna hw

theorem Recorded.run (h : Recorded setup queue past l) (moves : List (Move μ)) :
    Recorded setup queue (past ++ l.turns setup moves) (l.run setup moves) :=
  run_turns (P := Recorded setup queue) (fun _ _ now reply h => h.step now reply)
    (fun _ _ _ hm h => h.other hm) moves h

end Life

end Endpoint
end Tagram
