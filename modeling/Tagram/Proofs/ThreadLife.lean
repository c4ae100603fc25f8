/-
# The life of a thread

A thread shares its queue and its stop flag with others. Its life is a run of
moves: it makes a step itself, or someone else pushes to the queue, pops from
it, drains it, or raises the flag. A life keeps what happened: what was added
to the queue and what was removed, which datagrams arrived, and every event.

Nothing is lost or reordered in the queue, whoever uses it (`Life.kept_after`).
What an egress thread hands to its socket are the frames of the messages it
took (`Life.Sends.step`), and what an ingress thread queues are the messages of
the datagrams that arrived (`Life.Receives.step`).

Key definitions: `Move`, `Life`, `Life.after`, `Life.run`, `Life.Kept`,
`Life.Sends`, `Life.Receives`.
Key theorems: `Life.kept_after`, `Life.Sends.step`, `Life.Receives.step`.
-/
import Tagram.Proofs.ThreadStep

namespace Tagram
namespace Endpoint

variable {μ : Type}

/-- What happens to a thread: it makes a step, or someone else uses the queue or
the stop flag. -/
inductive Move (μ : Type) where
  | step (now : Nat) (reply : Reply)
  | push (messages : List μ)
  | pop
  | drain
  | stop

/-- A thread and what has happened so far. -/
structure Life (μ : Type) where
  actor : Actor μ
  /-- What the thread's steps have shown. -/
  events : List Event
  /-- What was added to the queue, by anyone. -/
  added : List μ
  /-- What was removed from the queue, by anyone. -/
  removed : List μ
  /-- The datagrams that the thread has found in its buffer. -/
  received : List Bytes

namespace Life

/-- A thread that is about to start. -/
def start (queue : List μ) : Life μ := ⟨.start queue, [], [], [], []⟩

/-- The frames that the thread has handed to its socket. -/
def handed (l : Life μ) : List Bytes := framesOf l.events

/-- One move. -/
def after [WireMessage μ] (setup : Setup μ) (l : Life μ) : Move μ → Life μ
  | .step now reply =>
    { actor := (l.actor.step setup now reply).1
      events := l.events ++ (l.actor.step setup now reply).2
      added := l.added ++ l.actor.control.pending
      removed := l.removed ++ l.actor.takes
      received := l.received ++ (l.actor.incoming? reply).toList }
  | .push messages =>
    { l with
      actor := { l.actor with queue := l.actor.queue ++ messages }
      added := l.added ++ messages }
  | .pop =>
    { l with
      actor := { l.actor with queue := l.actor.queue.drop 1 }
      removed := l.removed ++ l.actor.queue.take 1 }
  | .drain =>
    { l with
      actor := { l.actor with queue := [] }
      removed := l.removed ++ l.actor.queue }
  | .stop => { l with actor := { l.actor with stopping := true } }

/-- Moves one after another. -/
def run [WireMessage μ] (setup : Setup μ) (l : Life μ) (moves : List (Move μ)) : Life μ :=
  moves.foldl (after setup) l

/-- What was removed and what is left is what was there at first and what was
added, in order. -/
def Kept (queue : List μ) (l : Life μ) : Prop := l.removed ++ l.actor.queue = queue ++ l.added

section

variable [WireMessage μ] {setup : Setup μ} {queue : List μ} {l : Life μ}

/-- **The queue loses nothing, repeats nothing and keeps its order**, whoever
uses it. -/
theorem kept_after (h : l.Kept queue) (m : Move μ) : (l.after setup m).Kept queue := by
  unfold Kept at h ⊢
  cases m with
  | step now reply =>
    have hs := (Actor.stepped setup now reply l.actor).queue
    calc l.removed ++ l.actor.takes ++ (l.actor.step setup now reply).1.queue
        = l.removed ++ l.actor.queue ++ l.actor.control.pending := by
          rw [List.append_assoc, hs, List.append_assoc]
      _ = queue ++ (l.added ++ l.actor.control.pending) := by rw [h, List.append_assoc]
  | push messages => simp only [after, ← List.append_assoc, h]
  | pop => simp only [after, List.append_assoc, List.take_append_drop, h]
  | drain => simp only [after, List.append_nil, h]
  | stop => exact h

theorem handed_after (setup : Setup μ) (l : Life μ) (m : Move μ) :
    l.handed <+: (l.after setup m).handed := by
  cases m with
  | step now reply => exact ⟨_, (framesOf_append l.events _).symm⟩
  | _ => exact List.prefix_refl _

/-! ### An egress thread -/

/-- What holds of an egress thread whose queue others only push to. -/
structure Sends (setup : Setup μ) (queue pushed : List μ) (l : Life μ) : Prop where
  kept : l.Kept queue
  added : l.added = pushed
  suits : l.actor.control.suits setup.config.role = true
  /-- The frames of what was taken are those handed over, the one in hand and, if
  the thread aborted, the one that it had in hand. -/
  frames : ∃ lost, Frame.writable l.removed = l.handed ++ l.actor.control.unsent ++ lost ∧
    (lost ≠ [] → l.actor.control = .ended .aborted)

namespace Sends

variable {pushed : List μ}

theorem start (setup : Setup μ) (queue : List μ) : Sends setup queue [] (Life.start queue) where
  kept := (List.append_nil queue).symm
  added := rfl
  suits := by cases setup.config.role <;> rfl
  frames := ⟨[], rfl, fun h => absurd rfl h⟩

/-- **Every message that is taken and can be written is handed over once**, in
the order of the queue. -/
theorem step {peer : Net.Address} (hr : setup.config.role = .egress peer)
    (h : Sends setup queue pushed l) (now : Nat) (reply : Reply) :
    Sends setup queue pushed (l.after setup (.step now reply)) := by
  have hs := Actor.stepped setup now reply l.actor
  have hp : l.actor.control.pending = [] := Control.pending_of_egress (hr ▸ h.suits)
  refine ⟨kept_after h.kept _, ?_, hs.suits h.suits, ?_⟩
  · rw [after, hp, List.append_nil]
    exact h.added
  obtain ⟨lost, hw, hl⟩ := h.frames
  obtain ⟨lost', hw', hl'⟩ := hs.frames
  simp only [after, handed, framesOf_append, Frame.writable_append]
  by_cases hlost : lost = []
  · subst hlost
    refine ⟨lost', ?_, hl'⟩
    rw [hw, List.append_nil, List.append_assoc, hw']
    simp only [handed, List.append_assoc]
  · -- A thread that has aborted takes nothing and hands nothing over.
    have he := hl hlost
    have ht : l.actor.takes = [] := by simp only [Actor.takes, he]
    have hu : l.actor.control.unsent = [] := by rw [he]; rfl
    rw [hu, ht] at hw'
    obtain ⟨hf, hu', -⟩ : framesOf (l.actor.step setup now reply).2 = [] ∧
        (l.actor.step setup now reply).1.control.unsent = [] ∧ lost' = [] := by
      simpa [Frame.writable] using hw'.symm
    refine ⟨lost, ?_, fun _ => hs.ended _ he⟩
    rw [hw, ht, hf, hu, hu', List.append_nil (l.handed)]
    simp [handed, Frame.writable]

theorem push (h : Sends setup queue pushed l) (messages : List μ) :
    Sends setup queue (pushed ++ messages) (l.after setup (.push messages)) :=
  ⟨kept_after h.kept _, by rw [after, h.added], h.suits, h.frames⟩

theorem stop (h : Sends setup queue pushed l) :
    Sends setup queue pushed (l.after setup .stop) :=
  ⟨kept_after h.kept _, h.added, h.suits, h.frames⟩

end Sends

end

/-! ### An ingress thread -/

section

variable {setup : Setup μ} {queue : List μ} {l : Life μ}

/-- What holds of an ingress thread whose queue others only take from. -/
structure Receives (setup : Setup μ) (queue : List μ) (l : Life μ) : Prop where
  kept : l.Kept queue
  suits : l.actor.control.suits setup.config.role = true
  sized : l.actor.Sized setup
  /-- What was queued, and what is about to be, are the messages of the datagrams
  that arrived. -/
  decoded : l.added ++ l.actor.control.pending =
    l.received.flatMap (Datagram.yield setup.registry)

namespace Receives

theorem start (setup : Setup μ) (queue : List μ) : Receives setup queue (Life.start queue) where
  kept := (List.append_nil queue).symm
  suits := by cases setup.config.role <;> rfl
  sized _ h := nomatch h
  decoded := rfl

variable [WireMessage μ]

/-- **The messages of every datagram that arrives are queued once**, in the
order of the arrivals. -/
theorem step (hr : setup.config.role = .ingress) (h : Receives setup queue l) (now : Nat)
    (reply : Reply) : Receives setup queue (l.after setup (.step now reply)) := by
  have hs := Actor.stepped setup now reply l.actor
  refine ⟨kept_after h.kept _, hs.suits h.suits, hs.sized hr h.sized, ?_⟩
  simp only [after]
  rw [List.flatMap_append, h.decoded, hs.pending]

theorem pop (h : Receives setup queue l) : Receives setup queue (l.after setup .pop) :=
  ⟨kept_after h.kept _, h.suits, h.sized, h.decoded⟩

theorem drain (h : Receives setup queue l) : Receives setup queue (l.after setup .drain) :=
  ⟨kept_after h.kept _, h.suits, h.sized, h.decoded⟩

theorem stop (h : Receives setup queue l) : Receives setup queue (l.after setup .stop) :=
  ⟨kept_after h.kept _, h.suits, h.sized, h.decoded⟩

end Receives

end

end Life
end Endpoint
end Tagram
