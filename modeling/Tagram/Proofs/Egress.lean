/-
# What an egress thread sends

A thread that sends takes one message after another off its queue. A message
that cannot be written is dropped and noted; the frame of any other is handed to
the socket, once, whether the socket takes it or not. So every message that was
taken has one fate, told by one event (`Fate`), and the events tell the fates in
the order of the queue. At most one message is in hand (`Control.Carries`):
between taking it and handing its frame over the thread does not look at the
stop flag.

It is assumed that writing a message never aborts, that no call of the socket
does, and that others only push to the queue or raise the stop flag
(`Move.feeds`).

Key definitions: `Event.call?`, `Event.settles`, `Fate`, `Control.Carries`,
`Move.feeds`, `Life.calls`, `Life.settled`, `Actor.Breaks`.
Key theorems: `calls_of_fates`, `Actor.step_settles`, `Actor.engaged_step_egress`,
`Life.Accounts.run`, `Life.run_egress`.
-/
import Tagram.Proofs.RoundTrip
import Tagram.Proofs.Sessions

namespace Tagram
namespace Endpoint

variable {μ : Type}

/-! ### What becomes of a message -/

/-- The call of the socket that an event shows: the frame, and for whom it is. -/
def Event.call? : Event → Option (Bytes × Net.Address)
  | .handed frame peer _ => some (frame, peer)
  | _ => none

/-- Whether an event tells what became of a message. -/
def Event.settles : Event → Bool
  | .handed _ _ _ | .noted (.unwritable _ _) => true
  | _ => false

/-- Whether a call succeeded. -/
def Reply.succeeds : Reply → Bool
  | .done | .received _ _ => true
  | .failed _ | .aborted => false

theorem Actor.fail_settles (setup : Setup μ) (now : Nat) (a : Actor μ) (source : Net.SocketError)
    (progressed : Bool) : (a.fail setup now source progressed).2.filter Event.settles = [] := by
  unfold fail
  dsimp only
  split_ifs <;> rfl

section

variable [WireMessage μ]

/-- What can become of a message that was taken, by the event that tells it. -/
inductive Fate (peer : Net.Address) (m : μ) : Event → Prop where
  /-- Its frame was handed to the socket, which took it or not. -/
  | handed {frame : Bytes} (accepted : Bool) (he : Frame.encode m = .ok frame) :
    Fate peer m (.handed frame peer accepted)
  /-- It cannot be written and was dropped. -/
  | dropped {cause : CodecError} (he : Frame.encode m = .error cause) :
    Fate peer m (.noted (.unwritable (WireMessage.tag m) cause))

theorem filterMap_call?_filter (events : List Event) :
    (events.filter Event.settles).filterMap Event.call? = events.filterMap Event.call? := by
  rw [List.filterMap_filter]
  congr 1
  funext e
  unfold Event.call? Event.settles
  split <;> simp

/-- **The calls are the frames of the messages**, in order and one for each message
that can be written. -/
theorem calls_of_fates {peer : Net.Address} {ms : List μ} {events : List Event}
    (h : List.Forall₂ (Fate peer) ms events) :
    events.filterMap Event.call? = (Frame.writable ms).map fun frame => (frame, peer) := by
  induction h with
  | nil => rfl
  | @cons m e ms events hf _ ih =>
    have hw : Frame.writable (m :: ms) = Frame.writable [m] ++ Frame.writable ms :=
      Frame.writable_append [m] ms
    rw [hw, Frame.writable_singleton, List.map_append, ← ih]
    cases hf with
    | handed accepted he =>
      rw [he]
      rfl
    | dropped he =>
      rw [he]
      rfl

theorem call_of_fates {peer : Net.Address} {ms : List μ} {events : List Event}
    (h : List.Forall₂ (Fate peer) ms events) {frame : Bytes} {target : Net.Address}
    (hc : (frame, target) ∈ events.filterMap Event.call?) :
    target = peer ∧ frame.length ≤ maxDatagram := by
  rw [calls_of_fates h, List.mem_map] at hc
  obtain ⟨frame', hmem, heq⟩ := hc
  obtain ⟨rfl, rfl⟩ := Prod.mk.inj heq
  obtain ⟨m, -, hm⟩ := List.mem_filterMap.1 hmem
  refine ⟨rfl, ?_⟩
  rcases he : Frame.encode m with cause | frame
  · rw [he] at hm
    cases hm
  · rw [he] at hm
    obtain rfl : frame = frame' := Option.some.inj hm
    have hle := (Frame.encodeAfter_eq_ok.1 he).2.2.1
    omega

/-- The messages that were taken and have no fate yet: one while its frame is about
to be handed over, else none. -/
def Control.Carries (c : Control μ) (ms : List μ) : Prop :=
  match c with
  | .sending _ tag frame =>
    ∃ m, ms = [m] ∧ tag = WireMessage.tag m ∧ Frame.encode m = .ok frame
  | _ => ms = []

theorem Control.carries_iff_of_unsent {c : Control μ} {ms : List μ} (h : c.unsent = []) :
    c.Carries ms ↔ ms = [] := by
  cases c with
  | sending s tag frame => cases h
  | _ => rfl

/-! ### One step -/

namespace Actor

variable {setup : Setup μ} {peer : Net.Address} {reply : Reply} {a : Actor μ}

/-- A step of a thread that has no message in hand and takes none tells no fate. -/
theorem step_quiet (hr : setup.config.role = .egress peer) (now : Nat) (reply : Reply)
    (hsu : a.control.suits setup.config.role = true) (hu : a.control.unsent = [])
    (ht : ∀ s, a.control ≠ .taking s) :
    (a.step setup now reply).1.control.unsent = [] ∧
      (a.step setup now reply).2.filter Event.settles = [] := by
  obtain ⟨queue, stopping, failures, control⟩ := a
  cases control with
  | idle => cases stopping <;> exact ⟨rfl, rfl⟩
  | opening =>
    cases reply with
    | failed e =>
      have hs := (fail_spec setup now ⟨queue, stopping, failures, .opening⟩ e false).2.1
      exact ⟨(Control.of_session?_eq_none hs).2.1, fail_settles ..⟩
    | _ => exact ⟨rfl, rfl⟩
  | arming =>
    cases reply with
    | failed e =>
      have hs := (fail_spec setup now ⟨queue, stopping, failures, .arming⟩ e false).2.1
      exact ⟨(Control.of_session?_eq_none hs).2.1, fail_settles ..⟩
    | aborted => exact ⟨rfl, rfl⟩
    | _ =>
      refine ⟨?_, rfl⟩
      simp [step, hr, goto, allocationLimit, Control.unsent]
  | serving s =>
    cases stopping with
    | true => exact ⟨rfl, rfl⟩
    | false =>
      rw [step_turn hr rfl rfl]
      exact ⟨rfl, rfl⟩
  | receiving s | queueing s messages =>
    rw [hr] at hsu
    cases hsu
  | taking s => exact absurd rfl (ht s)
  | sending s tag frame => cases hu
  | pausing delay deadline =>
    by_cases hover : stopping = true ∨ deadline ≤ now
    · rw [step_wake rfl hover]
      exact ⟨rfl, rfl⟩
    · rw [not_or, Bool.not_eq_true, Nat.not_le] at hover
      rw [step_sleep rfl hover.1 hover.2]
      exact ⟨rfl, rfl⟩
  | ended ending => exact ⟨rfl, rfl⟩

/-- A frame in hand is handed over whatever the stop flag says, and the session goes
on if the socket takes it. -/
theorem step_sending (hr : setup.config.role = .egress peer) (now : Nat) {s : Session}
    {tag : String} {frame : Bytes} (hc : a.control = .sending s tag frame) (hna : reply ≠ .aborted) :
    (a.step setup now reply).1.queue = a.queue ∧
    (a.step setup now reply).1.control.unsent = [] ∧
    (a.step setup now reply).1.control.engaged = reply.succeeds ∧
    (a.step setup now reply).2.filter Event.settles = [.handed frame peer reply.succeeds] := by
  cases reply with
  | aborted => exact absurd rfl hna
  | failed e =>
    obtain ⟨hq, hs, -⟩ := fail_spec setup now a e s.progressed
    have hevents : ((.handed frame peer false : Event) ::
        (a.fail setup now e s.progressed).2).filter Event.settles = [.handed frame peer false] := by
      rw [List.filter_cons_of_pos rfl, fail_settles]
    rw [step_refuse hr hc]
    exact ⟨hq, (Control.of_session?_eq_none hs).2.1, fail_engaged .., hevents⟩
  | _ =>
    rw [step_send hr hc (by simp) (by simp)]
    exact ⟨rfl, rfl, rfl, rfl⟩

/-- **Every message in hand or taken by a step gets its fate or stays in hand.** -/
theorem step_settles (hw : ∀ m : μ, WireMessage.aborts m = false)
    (hr : setup.config.role = .egress peer) (now : Nat) (hna : reply ≠ .aborted)
    (hsu : a.control.suits setup.config.role = true) {hand : List μ} (hc : a.control.Carries hand) :
    ∃ done hand', hand ++ a.takes = done ++ hand' ∧
      (a.step setup now reply).1.control.Carries hand' ∧
      List.Forall₂ (Fate peer) done ((a.step setup now reply).2.filter Event.settles) := by
  by_cases hu : a.control.unsent = []
  swap
  · -- A message is in hand.
    obtain ⟨s, tag, frame, hs⟩ : ∃ s tag frame, a.control = .sending s tag frame := by
      cases hcontrol : a.control with
      | sending s tag frame => exact ⟨s, tag, frame, rfl⟩
      | _ =>
        rw [hcontrol] at hu
        exact absurd rfl hu
    rw [hs] at hc
    obtain ⟨m, rfl, -, he⟩ := hc
    obtain ⟨-, hu', -, hsettled⟩ := step_sending hr now hs hna
    have ht : a.takes = [] := by rw [takes, hs]
    refine ⟨[m], [], by rw [ht], (Control.carries_iff_of_unsent hu').2 rfl, ?_⟩
    rw [hsettled]
    exact .cons (.handed _ he) .nil
  obtain rfl : hand = [] := (Control.carries_iff_of_unsent hu).1 hc
  by_cases ht : ∃ s, a.control = .taking s
  swap
  · have hne : ∀ s, a.control ≠ .taking s := fun s hs => ht ⟨s, hs⟩
    have htakes := takes_of_ne_taking hne
    obtain ⟨hu', hsettled⟩ := step_quiet hr now reply hsu hu hne
    refine ⟨[], [], by rw [htakes], (Control.carries_iff_of_unsent hu').2 rfl, ?_⟩
    rw [hsettled]
    exact .nil
  -- A message is taken, if there is one.
  obtain ⟨s, hs⟩ := ht
  have htakes : a.takes = a.queue.take 1 := by rw [takes, hs]
  rw [htakes]
  cases hq : a.queue with
  | nil =>
    rw [step_lack hs hq]
    exact ⟨[], [], rfl, rfl, .nil⟩
  | cons m rest =>
    rcases he : Frame.encode m with cause | frame
    · rw [step_drop hs hq (hw m) he]
      exact ⟨[m], [], rfl, rfl, .cons (.dropped he) .nil⟩
    · rw [step_write hs hq (hw m) he]
      exact ⟨[], [m], rfl, ⟨m, rfl, rfl, he⟩, .nil⟩

/-! ### What ends a session -/

/-- What ends a session of a thread that sends. -/
inductive Breaks (reply : Reply) (a : Actor μ) : Prop where
  /-- The stop flag is seen. -/
  | stopped (s : Session) (hc : a.control = .serving s) (hs : a.stopping = true)
  /-- The socket cannot be opened. -/
  | unopened (e : Net.SocketError) (hc : a.control = .opening) (hr : reply = .failed e)
  /-- The read timeout cannot be set. -/
  | unarmed (e : Net.SocketError) (hc : a.control = .arming) (hr : reply = .failed e)
  /-- The socket does not take a frame. -/
  | refused (s : Session) (tag : String) (frame : Bytes) (e : Net.SocketError)
    (hc : a.control = .sending s tag frame) (hr : reply = .failed e)

/-- **When a session ends** of a thread that sends: a message that cannot be written
does not end it. -/
theorem engaged_step_egress (hw : ∀ m : μ, WireMessage.aborts m = false)
    (hr : setup.config.role = .egress peer) (now : Nat)
    (hsu : a.control.suits setup.config.role = true) (hna : reply ≠ .aborted)
    (he : a.control.engaged = true) :
    (a.step setup now reply).1.control.engaged = false ↔ a.Breaks reply := by
  constructor
  · intro hoff
    rcases closed_cases now he hoff with ⟨source, hs⟩ | ⟨s, hc, hstop⟩ | h
    · cases hcontrol : a.control with
      | opening =>
        cases reply with
        | failed e => exact .unopened e hcontrol rfl
        | _ => simp [setback?, hcontrol, incoming?] at hs
      | arming =>
        cases reply with
        | failed e => exact .unarmed e hcontrol rfl
        | _ => simp [setback?, hcontrol, incoming?] at hs
      | sending s tag frame =>
        cases reply with
        | failed e => exact .refused s tag frame e hcontrol rfl
        | _ => simp [setback?, hcontrol, incoming?] at hs
      | receiving s =>
        rw [hcontrol, hr] at hsu
        cases hsu
      | _ => simp [setback?, hcontrol, incoming?] at hs
    · exact .stopped s hc hstop
    · cases h with
      | call _ hcall => exact absurd hcall hna
      | buffer _ hi _ | astray _ _ _ _ hi =>
        rw [hr] at hi
        cases hi
      | overlong s data length hc _ _ =>
        rw [hc, hr] at hsu
        cases hsu
      | writer _ m _ _ _ habort =>
        rw [hw m] at habort
        cases habort
  · intro h
    cases h with
    | stopped s hc hs => exact engaged_of_stopping setup now hc hs
    | unopened e hc hf | unarmed e hc hf =>
      exact engaged_of_setback now (show _ = some e by simp [setback?, hc, hf])
    | refused s tag frame e hc hf =>
      exact engaged_of_setback now (show _ = some e by simp [setback?, hc, hf, hr])

end Actor

end

/-! ### Every run -/

/-- What happens to a thread that sends: no call of its socket aborts, and others
push to its queue or raise the stop flag. -/
def Move.feeds : Move μ → Bool
  | .step _ reply => reply ≠ .aborted
  | .push _ | .stop => true
  | .pop | .drain => false

/-- What a move pushes to the queue. -/
def Move.pushed : Move μ → List μ
  | .push messages => messages
  | _ => []

namespace Life

/-- The calls of the socket that hand over a frame. -/
def calls (l : Life μ) : List (Bytes × Net.Address) := l.events.filterMap Event.call?

/-- The events that tell what became of a message. -/
def settled (l : Life μ) : List Event := l.events.filter Event.settles

section

variable [WireMessage μ] {setup : Setup μ} {peer : Net.Address} {queue pushed : List μ} {l : Life μ}

/-- What holds of a thread that sends: every message that was taken has its fate, but
for the one in hand. -/
structure Accounts (setup : Setup μ) (peer : Net.Address) (queue pushed : List μ) (l : Life μ) :
    Prop where
  sends : l.Sends setup queue pushed
  fates : ∃ done hand, l.removed = done ++ hand ∧ l.actor.control.Carries hand ∧
    List.Forall₂ (Fate peer) done l.settled

theorem settled_step (setup : Setup μ) (l : Life μ) (now : Nat) (reply : Reply) :
    (l.after setup (.step now reply)).settled =
      l.settled ++ (l.actor.step setup now reply).2.filter Event.settles := List.filter_append ..

namespace Accounts

theorem start (setup : Setup μ) (peer : Net.Address) (queue : List μ) :
    (Life.start queue).Accounts setup peer queue [] :=
  ⟨.start setup queue, [], [], rfl, rfl, .nil⟩

theorem after (hw : ∀ m : μ, WireMessage.aborts m = false) (hr : setup.config.role = .egress peer)
    (h : l.Accounts setup peer queue pushed) {m : Move μ} (hm : m.feeds = true) :
    (l.after setup m).Accounts setup peer queue (pushed ++ m.pushed) := by
  obtain ⟨hs, done, hand, hremoved, hhand, hdone⟩ := h
  cases m with
  | step now reply =>
    have hna : reply ≠ .aborted := of_decide_eq_true hm
    obtain ⟨more, hand', hsplit, hhand', hmore⟩ :=
      Actor.step_settles hw hr now hna hs.suits hhand
    rw [show (Move.step now reply : Move μ).pushed = [] from rfl, List.append_nil]
    refine ⟨hs.step hr now reply, done ++ more, hand', ?_, hhand', ?_⟩
    · calc l.removed ++ l.actor.takes
          = done ++ (hand ++ l.actor.takes) := by rw [hremoved, List.append_assoc]
        _ = done ++ more ++ hand' := by rw [hsplit, List.append_assoc]
    · rw [settled_step]
      exact List.rel_append hdone hmore
  | push messages => exact ⟨hs.push messages, done, hand, hremoved, hhand, hdone⟩
  | stop =>
    rw [show (Move.stop : Move μ).pushed = [] from rfl, List.append_nil]
    exact ⟨hs.stop, done, hand, hremoved, hhand, hdone⟩
  | pop | drain => cases hm

theorem run (hw : ∀ m : μ, WireMessage.aborts m = false) (hr : setup.config.role = .egress peer)
    (h : l.Accounts setup peer queue pushed) {moves : List (Move μ)}
    (hm : ∀ m ∈ moves, m.feeds = true) :
    (l.run setup moves).Accounts setup peer queue (pushed ++ moves.flatMap Move.pushed) := by
  induction moves generalizing l pushed with
  | nil =>
    rw [List.flatMap_nil, List.append_nil]
    exact h
  | cons m moves ih =>
    rw [List.forall_mem_cons] at hm
    rw [List.flatMap_cons, ← List.append_assoc]
    exact ih (h.after hw hr hm.1) hm.2

end Accounts

end

/-- **Every message is sent at most once, in order, and every loss is accounted for**, in
every run of a thread that sends, with pushes and the stop flag at any time. Whenever no
frame is in hand every message that was taken has its fate, and the calls are the frames
of those that can be written. A frame in hand is handed over by the next step, whether
the thread is to stop or not. -/
theorem run_egress [WireMessage μ] (hw : ∀ m : μ, WireMessage.aborts m = false) (setup : Setup μ)
    (peer : Net.Address) (hr : setup.config.role = .egress peer) (queue : List μ)
    (moves : List (Move μ)) (hm : ∀ m ∈ moves, m.feeds = true) :
    let l := (start queue).run setup moves
    l.removed ++ l.actor.queue = queue ++ moves.flatMap Move.pushed ∧
    (l.actor.control.unsent = [] →
      List.Forall₂ (Fate peer) l.removed l.settled ∧
      l.calls = (Frame.writable l.removed).map fun frame => (frame, peer)) ∧
    (∀ frame target, (frame, target) ∈ l.calls → target = peer ∧ frame.length ≤ 65507) ∧
    (∀ s tag frame now reply, l.actor.control = .sending s tag frame → reply ≠ .aborted →
      let l' := l.after setup (.step now reply)
      ∃ before m, l.removed = before ++ [m] ∧ Frame.encode m = .ok frame ∧
        List.Forall₂ (Fate peer) before l.settled ∧
        l'.settled = l.settled ++ [.handed frame peer reply.succeeds] ∧
        l'.removed = l.removed ∧ l'.actor.queue = l.actor.queue ∧
        l'.actor.control.engaged = reply.succeeds) ∧
    (∀ now reply, let l' := l.after setup (.step now reply)
      ((∀ s, l.actor.control ≠ .taking s) →
        l'.removed = l.removed ∧ l'.actor.queue = l.actor.queue) ∧
      ∀ s m rest cause, l.actor.control = .taking s → l.actor.queue = m :: rest →
        Frame.encode m = .error cause →
        l'.removed = l.removed ++ [m] ∧ l'.actor.queue = rest ∧ l'.actor.control = .serving s ∧
        l'.settled = l.settled ++ [.noted (.unwritable (WireMessage.tag m) cause)]) ∧
    ∀ now reply, reply ≠ .aborted → l.actor.control.engaged = true →
      ((l.after setup (.step now reply)).actor.control.engaged = false ↔ l.actor.Breaks reply) := by
  have h := (Accounts.start setup peer queue).run hw hr hm
  rw [List.nil_append] at h
  set l := (start queue).run setup moves
  obtain ⟨done, hand, hremoved, hhand, hdone⟩ := h.fates
  refine ⟨?_, fun hu => ?_, fun frame target hc => ?_, ?_, fun now reply => ⟨fun ht => ?_, ?_⟩, ?_⟩
  · rw [h.sends.kept, h.sends.added]
  · obtain rfl := (Control.carries_iff_of_unsent hu).1 hhand
    rw [List.append_nil] at hremoved
    rw [← hremoved] at hdone
    exact ⟨hdone, (filterMap_call?_filter _).symm.trans (calls_of_fates hdone)⟩
  · rw [calls, ← filterMap_call?_filter] at hc
    exact call_of_fates hdone hc
  · intro s tag frame now reply hc hna
    rw [hc] at hhand
    obtain ⟨m, rfl, -, he⟩ := hhand
    obtain ⟨hq, -, hengaged, hsettled⟩ := Actor.step_sending hr now hc hna
    refine ⟨done, m, hremoved, he, hdone, ?_, ?_, hq, hengaged⟩
    · rw [settled_step, hsettled]
    · rw [after, Actor.takes, hc]
      exact List.append_nil _
  · have htakes : l.actor.takes = [] := Actor.takes_of_ne_taking ht
    have hqueue := (Actor.stepped setup now reply l.actor).queue
    have hpending : l.actor.control.pending = [] := Control.pending_of_egress (hr ▸ h.sends.suits)
    rw [htakes, hpending, List.append_nil, List.nil_append] at hqueue
    refine ⟨?_, hqueue⟩
    rw [after, htakes, List.append_nil]
  · intro s m rest cause hc hq he
    have hstep : l.actor.step setup now reply = _ := Actor.step_drop hc hq (hw m) he
    have htakes : l.actor.takes = [m] := by
      rw [Actor.takes, hc, hq]
      rfl
    refine ⟨?_, ?_, ?_, ?_⟩
    · rw [after, htakes]
    · rw [after, hstep]
    · rw [after, hstep]
    · rw [settled_step, hstep]
      rfl
  · intro now reply hna he
    exact Actor.engaged_step_egress hw hr now h.sends.suits hna he

/-- A sender of probes. -/
def prober : Setup Probe where
  config := { address := .v4 127 0 0 1 9001, role := .egress (.v4 127 0 0 1 9000) }
  registry := Probe.registry

/-- Four probes, of which the second cannot be written. -/
def probes : List Probe := [⟨7, false⟩, ⟨8, true⟩, ⟨9, false⟩, ⟨10, false⟩]

/-- The first socket cannot be opened, the second takes one frame and refuses the
next, and the stop flag is raised while the third has a frame to take. -/
def trials : List (Move Probe) :=
  [[.step 0 .done, .step 0 (.failed (.ofKind .addrInUse))],
    List.replicate 11 (.step 50000000 .done),
    [.push [⟨11, false⟩], .step 50000000 (.failed (.ofKind .networkDown))],
    List.replicate 6 (.step 100000000 .done), [.stop],
    List.replicate 2 (.step 100000000 .done)].flatten

theorem run_egress_trials :
    (∀ m ∈ trials, m.feeds = true) ∧
    ((start probes).run prober trials).actor.control = .ended .stopped ∧
    ((start probes).run prober trials).actor.queue = [⟨11, false⟩] ∧
    ((start probes).run prober trials).calls =
      [Frame.bytes [0x50] [7], Frame.bytes [0x50] [9], Frame.bytes [0x50] [10]].map
        fun frame => (frame, .v4 127 0 0 1 9000) := by
  have hm : ∀ m ∈ trials, m.feeds = true := by decide +kernel
  have h := run_egress (fun _ => rfl) prober (.v4 127 0 0 1 9000) rfl probes trials hm
  have hremoved : ((start probes).run prober trials).removed = probes := by decide +kernel
  refine ⟨hm, rfl, ?_, (h.2.1 rfl).2.trans (by decide +kernel)⟩
  have hqueue := h.1
  rw [hremoved, List.append_cancel_left_eq] at hqueue
  exact hqueue

end Life
end Endpoint
end Tagram
