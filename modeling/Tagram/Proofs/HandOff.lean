/-
# What the owner of a sender can tell

The owner of a sending endpoint calls its commands handed over when it finds
the queue empty, though the last of them may still be in the thread's hand, and
it raises the stop flag right after that. It is right all the same: the thread
does not look at the flag between taking a command and passing it to the
socket, and it can always write a command. When the owner finds commands left
in the queue the thread has ended, so they stay there.

What the owner knows at each stage (`Stage.Knows`) and what was passed to the
socket (`Sound`) are kept by every move, of whomever.

Key definitions: `Sender.passes`, `Sender.passed`, `Sender.Stage.Knows`,
`Sender.Sound`.
Key theorems: `Actor.unsent_step`, `Actor.calls_step`, `Sender.Sound.run`,
`Sender.distance_run`, `Sender.run_handOff`.
-/
import Tagram.Cli.Sender
import Tagram.Proofs.Delivery
import Tagram.Proofs.Egress
import Tagram.Proofs.Shutdown

namespace Tagram

/-! ### One step of a sending thread -/

namespace Endpoint
namespace Actor

variable {μ : Type} [WireMessage μ] {setup : Setup μ} {peer : Net.Address} {a : Actor μ}

/-- A step leaves in hand the frame of the message that it took, and nothing else: what
was in hand before it was passed to the socket. -/
theorem unsent_step (hr : setup.config.role = .egress peer) (now : Nat) (reply : Reply)
    (hw : ∀ m : μ, WireMessage.aborts m = false)
    (hsu : a.control.suits setup.config.role = true) :
    (a.step setup now reply).1.control.unsent = Frame.writable a.takes := by
  cases hc : a.control with
  | taking s =>
    have htakes : a.takes = a.queue.take 1 := by rw [takes, hc]
    rw [htakes]
    cases hq : a.queue with
    | nil =>
      rw [step_lack hc hq]
      rfl
    | cons m rest =>
      rw [List.take_succ_cons, List.take_zero, Frame.writable_singleton]
      rcases he : Frame.encode m with cause | frame
      · rw [step_drop hc hq (hw m) he]
        rfl
      · rw [step_write hc hq (hw m) he]
        rfl
  | sending s tag frame =>
    have htakes : a.takes = [] := by rw [takes, hc]
    rw [htakes]
    by_cases hna : reply = .aborted
    · rw [hna, step_abort hr hc]
      rfl
    · exact (step_sending hr now hc hna).2.1
  | _ =>
    have hne : ∀ s, a.control ≠ .taking s := by
      intro s hs
      rw [hc] at hs
      cases hs
    rw [takes_of_ne_taking hne]
    exact (step_quiet hr now reply hsu (by rw [hc]; rfl) hne).1

/-- The events of a step show the frame that was in hand, for the peer, unless the call
aborts. -/
theorem calls_step (hr : setup.config.role = .egress peer) (now : Nat) {reply : Reply}
    (hna : reply ≠ .aborted) :
    (a.step setup now reply).2.filterMap Event.call? =
      a.control.unsent.map fun frame => (frame, peer) := by
  rw [filterMap_step (fun _ => rfl)]
  cases hc : a.control with
  | sending s tag frame =>
    simp only [shows, hc, hr]
    cases reply with
    | aborted => exact absurd rfl hna
    | _ => rfl
  | pausing delay deadline =>
    simp only [shows, hc]
    split_ifs <;> rfl
  | _ => simp [shows, hc, Event.call?, Control.unsent]

end Actor
end Endpoint

namespace Cli

open Endpoint

namespace Sender

/-! ### What is passed to the socket -/

/-- The frames that a move passes to the socket. -/
def passes (s : Sender) : Move → List Bytes
  | .thread _ _ => s.actor.control.unsent
  | _ => []

/-- The frames that moves one after another pass to the socket. -/
def passed (setup : Setup Command) (s : Sender) : List Move → List Bytes
  | [] => []
  | m :: rest => s.passes m ++ passed setup (s.move setup m).1 rest

/-- The commands that are still to be pushed. -/
def Stage.unpushed : Stage → List Command
  | .pushing rest => rest
  | _ => []

/-- What the owner knows of the thread at each stage. -/
def Stage.Knows (a : Actor Command) : Stage → Prop
  | .pushing _ | .looking | .asking => True
  | .deciding => a.queue = [] ∨ a.finished = true
  | .stopping handed => a.queue.isEmpty = handed ∧ (handed = false → a.finished = true)
  | .joining handed =>
    (a.queue.isEmpty = handed ∧ (handed = false → a.finished = true)) ∧ a.stopping = true
  | .joined handed ending => a.queue.isEmpty = handed ∧ a.control = .ended ending

/-- What holds of an owner and its thread, when `sent` was passed to the socket. -/
structure Sound (setup : Setup Command) (commands : List Command) (sent : List Bytes)
    (s : Sender) : Prop where
  suits : s.actor.control.suits setup.config.role = true
  /-- The commands are those that were taken, those in the queue and those still to be
  pushed; and what was passed and is in hand are the frames of those taken. -/
  taken : ∃ taken, commands = taken ++ s.actor.queue ++ s.stage.unpushed ∧
    sent ++ s.actor.control.unsent = taken.map Frame.ofMessage
  knows : s.stage.Knows s.actor

section

variable {setup : Setup Command} {peer : Net.Address} {commands : List Command} {sent : List Bytes}
  {s : Sender}

/-- What an owner knows stays so, as long as an empty queue stays empty, a raised flag
stays raised, and a thread that has ended stays as it is. -/
theorem Stage.Knows.mono {stage : Stage} {a b : Actor Command} (h : stage.Knows a)
    (hempty : a.queue = [] → b.queue = []) (hstop : a.stopping = true → b.stopping = true)
    (hend : ∀ ending, a.control = .ended ending → b.control = .ended ending ∧ b.queue = a.queue) :
    stage.Knows b := by
  have hfin : a.finished = true → b.finished = true ∧ b.queue = a.queue := by
    intro ha
    obtain ⟨ending, hc⟩ := Actor.finished_iff.1 ha
    obtain ⟨hb, hq⟩ := hend ending hc
    exact ⟨Actor.finished_iff.2 ⟨ending, hb⟩, hq⟩
  have hdecided : ∀ handed, a.queue.isEmpty = handed → (handed = false → a.finished = true) →
      b.queue.isEmpty = handed ∧ (handed = false → b.finished = true) := by
    intro handed hq hended
    cases handed with
    | true =>
      rw [List.isEmpty_iff] at hq
      exact ⟨List.isEmpty_iff.2 (hempty hq), fun h => by cases h⟩
    | false =>
      obtain ⟨hb, hbq⟩ := hfin (hended rfl)
      exact ⟨by rw [hbq, hq], fun _ => hb⟩
  cases stage with
  | pushing | looking | asking => trivial
  | deciding =>
    rcases h with hq | ha
    · exact .inl (hempty hq)
    · exact .inr (hfin ha).1
  | stopping handed => exact hdecided handed h.1 h.2
  | joining handed => exact ⟨hdecided handed h.1.1 h.1.2, hstop h.2⟩
  | joined handed ending =>
    obtain ⟨hq, hc⟩ := h
    obtain ⟨hb, hbq⟩ := hend ending hc
    exact ⟨by rw [hbq, hq], hb⟩

theorem Sound.decided (h : Sound setup commands sent s) {handed : Bool}
    (hd : s.handed? = some handed) :
    s.stage.unpushed = [] ∧ s.actor.queue.isEmpty = handed ∧
      (handed = false → s.actor.finished = true) := by
  obtain ⟨stage, actor⟩ := s
  have hknows := h.knows
  cases stage with
  | stopping decided =>
    obtain rfl : decided = handed := Option.some.inj hd
    exact ⟨rfl, hknows⟩
  | joining decided =>
    obtain rfl : decided = handed := Option.some.inj hd
    exact ⟨rfl, hknows.1⟩
  | joined decided ending =>
    obtain rfl : decided = handed := Option.some.inj hd
    exact ⟨rfl, hknows.1, fun _ => Actor.finished_iff.2 ⟨ending, hknows.2⟩⟩
  | _ => cases hd

theorem Sound.start (setup : Setup Command) (commands : List Command) :
    Sound setup commands [] (Sender.start commands) :=
  ⟨by cases setup.config.role <;> rfl, ⟨[], rfl, rfl⟩, trivial⟩

/-- A step of the thread: it passes on what is in its hand and may take one more
command. -/
theorem Sound.thread (hr : setup.config.role = .egress peer) (h : Sound setup commands sent s)
    (now : Nat) (reply : Reply) :
    Sound setup commands (sent ++ s.actor.control.unsent) (s.move setup (.thread now reply)).1 := by
  have hs := Actor.stepped setup now reply s.actor
  have hpending : s.actor.control.pending = [] := Control.pending_of_egress (hr ▸ h.suits)
  have hqueue : s.actor.takes ++ (s.actor.step setup now reply).1.queue = s.actor.queue := by
    rw [hs.queue, hpending, List.append_nil]
  obtain ⟨taken, hcommands, hsent⟩ := h.taken
  refine ⟨hs.suits h.suits, ⟨taken ++ s.actor.takes, ?_, ?_⟩, h.knows.mono ?_ ?_ ?_⟩
  · calc commands
        = taken ++ (s.actor.takes ++ (s.actor.step setup now reply).1.queue) ++
            s.stage.unpushed := by
          rw [hqueue, hcommands]
      _ = taken ++ s.actor.takes ++ (s.actor.step setup now reply).1.queue ++ s.stage.unpushed := by
          simp only [List.append_assoc]
  · have hunsent : (s.actor.step setup now reply).1.control.unsent =
        s.actor.takes.map Frame.ofMessage := by
      rw [Actor.unsent_step hr now reply Command.aborts_eq h.suits, Command.writable_eq]
    rw [List.map_append, ← hsent, ← hunsent]
    rfl
  · intro hnil
    rw [hnil] at hqueue
    exact (List.append_eq_nil_iff.1 hqueue).2
  · intro hstop
    exact (Actor.step_unwinds setup now reply hstop).stopping.trans hstop
  · intro ending hc
    have htakes : s.actor.takes = [] := by rw [Actor.takes, hc]
    rw [htakes, List.nil_append] at hqueue
    exact ⟨hs.ended ending hc, hqueue⟩

theorem Sound.goto {stage stage' : Stage} {a : Actor Command}
    (h : Sound setup commands sent ⟨stage, a⟩) (hu : stage'.unpushed = stage.unpushed)
    (hk : stage'.Knows a) : Sound setup commands sent ⟨stage', a⟩ := by
  obtain ⟨hsuits, ⟨taken, hcommands, hsent⟩, -⟩ := h
  refine ⟨hsuits, ⟨taken, ?_, hsent⟩, hk⟩
  rw [hu]
  exact hcommands

/-- A move of the owner: it learns what it looks at, and what it knew stays so. -/
theorem Sound.owner (h : Sound setup commands sent s) : Sound setup commands sent s.own := by
  obtain ⟨stage, actor⟩ := s
  have hknows := h.knows
  cases stage with
  | pushing rest =>
    cases rest with
    | nil => exact h.goto rfl trivial
    | cons c rest =>
      obtain ⟨taken, hcommands, hsent⟩ := h.taken
      refine ⟨h.suits, ⟨taken, ?_, hsent⟩, trivial⟩
      calc commands
          = taken ++ actor.queue ++ (c :: rest) := hcommands
        _ = taken ++ (actor.queue ++ [c]) ++ rest := by simp
  | looking =>
    rcases hq : actor.queue.isEmpty with _ | _
    · have hown : own ⟨.looking, actor⟩ = ⟨.asking, actor⟩ := by simp [own, hq]
      rw [hown]
      exact h.goto rfl trivial
    · have hown : own ⟨.looking, actor⟩ = ⟨.deciding, actor⟩ := by simp [own, hq]
      rw [hown]
      exact h.goto rfl (.inl (List.isEmpty_iff.1 hq))
  | asking =>
    rcases hf : actor.finished with _ | _
    · have hown : own ⟨.asking, actor⟩ = ⟨.looking, actor⟩ := by simp [own, hf]
      rw [hown]
      exact h.goto rfl trivial
    · have hown : own ⟨.asking, actor⟩ = ⟨.deciding, actor⟩ := by simp [own, hf]
      rw [hown]
      exact h.goto rfl (.inr hf)
  | deciding =>
    refine h.goto rfl ⟨rfl, fun hne => ?_⟩
    rcases hknows with hq | hf
    · rw [hq] at hne
      cases hne
    · exact hf
  | stopping handed => exact ⟨h.suits, h.taken, hknows, rfl⟩
  | joining handed =>
    cases hc : actor.control with
    | ended ending =>
      have hown : own ⟨.joining handed, actor⟩ = ⟨.joined handed ending, actor⟩ := by
        simp [own, hc]
      rw [hown]
      exact h.goto rfl ⟨hknows.1.1, hc⟩
    | _ =>
      have hown : own ⟨.joining handed, actor⟩ = ⟨.joining handed, actor⟩ := by simp [own, hc]
      rw [hown]
      exact h
  | joined handed ending => exact h

/-- **Every move keeps what the owner knows and what was passed on.** -/
theorem Sound.move (hr : setup.config.role = .egress peer) (h : Sound setup commands sent s)
    (m : Move) : Sound setup commands (sent ++ s.passes m) (s.move setup m).1 := by
  cases m with
  | owner =>
    rw [show s.passes .owner = [] from rfl, List.append_nil]
    exact h.owner
  | thread now reply => exact h.thread hr now reply
  | interrupt =>
    rw [show s.passes .interrupt = [] from rfl, List.append_nil]
    exact ⟨h.suits, h.taken, h.knows.mono id (fun _ => rfl) fun _ hc => ⟨hc, rfl⟩⟩

theorem Sound.run (hr : setup.config.role = .egress peer) (h : Sound setup commands sent s)
    (moves : List Move) :
    Sound setup commands (sent ++ s.passed setup moves) (s.run setup moves).1 := by
  induction moves generalizing s sent with
  | nil =>
    rw [passed, List.append_nil]
    exact h
  | cons m moves ih =>
    rw [passed, ← List.append_assoc]
    exact ih (h.move hr m)

/-- Where no call aborts, the events show what was passed on, and to whom. -/
theorem calls_run (hr : setup.config.role = .egress peer) (h : Sound setup commands sent s)
    {moves : List Move} (hna : ∀ now, Move.thread now .aborted ∉ moves) :
    (s.run setup moves).2.filterMap Event.call? =
      (s.passed setup moves).map fun frame => (frame, peer) := by
  induction moves generalizing s sent with
  | nil => rfl
  | cons m moves ih =>
    have hrest : ∀ now, Move.thread now .aborted ∉ moves :=
      fun now hmem => hna now (List.mem_cons_of_mem _ hmem)
    have hhead : (s.move setup m).2.filterMap Event.call? =
        (s.passes m).map fun frame => (frame, peer) := by
      cases m with
      | thread now reply =>
        refine Actor.calls_step hr now fun hreply => ?_
        rw [hreply] at hna
        exact hna now List.mem_cons_self
      | _ => rfl
    rw [passed, List.map_append, ← hhead, ← ih (h.move hr m) hrest]
    exact List.filterMap_append

/-! ### Waiting for the thread -/

/-- The steps of the thread among moves. -/
def Move.isThread : Move → Bool
  | .thread _ _ => true
  | _ => false

theorem own_thread (s : Sender) : s.own.actor.control = s.actor.control ∧
    (s.actor.stopping = true → s.own.actor.stopping = true) := by
  obtain ⟨stage, actor⟩ := s
  cases stage with
  | pushing rest => cases rest <;> exact ⟨rfl, id⟩
  | stopping handed => exact ⟨rfl, fun _ => rfl⟩
  | joining handed => cases hc : actor.control <;> simp [own, hc]
  | _ => exact ⟨rfl, id⟩

/-- Every step of a thread that is told to stop brings its end nearer, whatever the
owner does. -/
theorem distance_run (setup : Setup Command) (hstop : s.actor.stopping = true) (moves : List Move) :
    (s.run setup moves).1.actor.control.distance ≤
      s.actor.control.distance - moves.countP Move.isThread := by
  induction moves generalizing s with
  | nil => exact Nat.le_refl _
  | cons m moves ih =>
    cases m with
    | owner =>
      obtain ⟨hcontrol, hkeeps⟩ := s.own_thread
      have hrest := ih (s := s.own) (hkeeps hstop)
      rw [hcontrol] at hrest
      exact hrest
    | thread now reply =>
      have hu : s.actor.Unwinds (s.move setup (.thread now reply)).1.actor :=
        Actor.step_unwinds setup now reply hstop
      have hrest := ih (hu.stopping.trans hstop)
      have hd := hu.distance
      rw [List.countP_cons_of_pos rfl]
      exact hrest.trans (by omega)
    | interrupt => exact ih (s := ⟨s.stage, { s.actor with stopping := true }⟩) rfl

/-- Whether the owner, having decided, is waiting for the thread or done. -/
def Stage.awaits (handed : Bool) : Stage → Prop
  | .joining decided | .joined decided _ => decided = handed
  | _ => False

theorem awaits_run {handed : Bool} (h : s.stage.awaits handed) (moves : List Move) :
    (s.run setup moves).1.stage.awaits handed := by
  induction moves generalizing s with
  | nil => exact h
  | cons m moves ih =>
    cases m with
    | owner =>
      refine ih (s := s.own) ?_
      obtain ⟨stage, actor⟩ := s
      cases stage with
      | joining decided =>
        obtain rfl : decided = handed := h
        cases hc : actor.control <;> simp [own, hc, Stage.awaits]
      | joined decided ending => exact h
      | _ => cases h
    | thread now reply => exact ih (s := (s.move setup (.thread now reply)).1) h
    | interrupt => exact ih (s := (s.move setup .interrupt).1) h

/-- An owner that waits for a thread which has ended is done with its next move. -/
theorem own_joined {handed : Bool} (h : s.stage.awaits handed) (hd : s.actor.control.distance = 0) :
    ∃ ending, s.own.stage = .joined handed ending := by
  obtain ⟨ending, hc⟩ := Control.exists_ended hd
  obtain ⟨stage, actor⟩ := s
  cases stage with
  | joining decided =>
    obtain rfl : decided = handed := h
    refine ⟨ending, ?_⟩
    simp only [own] at hc ⊢
    rw [hc]
  | joined decided ending' =>
    obtain rfl : decided = handed := h
    exact ⟨ending', rfl⟩
  | _ => cases h

theorem run_append (s : Sender) (moves later : List Move) :
    (s.run setup (moves ++ later)).1 = ((s.run setup moves).1.run setup later).1 := by
  induction moves generalizing s with
  | nil => rfl
  | cons m moves ih => exact ih (s.move setup m).1

end

/-- **What the owner says about its commands is true**, however its moves, those of the
thread and interrupts fall, and whatever the socket replies. By the time that the thread
has been joined each command was passed to the socket once, in order, or the thread had
ended and those left are still in the queue. -/
theorem run_handOff (setup : Setup Command) (peer : Net.Address)
    (hr : setup.config.role = .egress peer) (commands : List Command) (moves : List Move) :
    let s := ((start commands).run setup moves).1
    let passed := (start commands).passed setup moves
    (∀ ending, s.stage = .joined true ending → commands.map Frame.encode = passed.map .ok) ∧
    (s.handed? = some false → s.actor.finished = true ∧
      ∃ (sent : List Command) (c : Command) (rest : List Command),
        commands = sent ++ c :: rest ∧ s.actor.queue = c :: rest ∧
        sent.map Frame.encode = passed.map .ok) ∧
    ((∀ now, Move.thread now .aborted ∉ moves) →
      ((start commands).run setup moves).2.filterMap Event.call? =
        passed.map fun frame => (frame, peer)) ∧
    ∀ handed later, s.stage = .joining handed → 4 ≤ later.countP Move.isThread →
      ∃ ending, ((start commands).run setup (moves ++ later ++ [Move.owner])).1.stage =
        .joined handed ending := by
  intro s passed
  have h : Sound setup commands passed s := (Sound.start setup commands).run hr moves
  obtain ⟨taken, hcommands, hsent⟩ := h.taken
  have hknows := h.knows
  -- Once the thread has ended, nothing is in its hand.
  have hended : s.actor.finished = true → taken.map Frame.encode = passed.map .ok := by
    intro hfin
    rw [(Actor.idle_of_finished hfin).2, List.append_nil] at hsent
    rw [hsent, List.map_map]
    exact List.map_congr_left fun c _ => c.encode_eq
  refine ⟨fun ending hstage => ?_, fun hhanded => ?_, fun hna => ?_,
    fun handed later hstage hlen => ?_⟩
  · obtain ⟨hunpushed, hempty, -⟩ := h.decided (by rw [handed?, hstage])
    rw [hstage] at hknows
    rw [hunpushed, List.isEmpty_iff.1 hempty, List.append_nil, List.append_nil] at hcommands
    rw [hcommands]
    exact hended (Actor.finished_iff.2 ⟨ending, hknows.2⟩)
  · obtain ⟨hunpushed, hleft, hfin⟩ := h.decided hhanded
    rw [hunpushed, List.append_nil] at hcommands
    cases hq : s.actor.queue with
    | nil =>
      rw [hq] at hleft
      cases hleft
    | cons c rest =>
      rw [hq] at hcommands
      exact ⟨hfin rfl, taken, c, rest, hcommands, rfl, hended (hfin rfl)⟩
  · exact calls_run hr (Sound.start setup commands) hna
  · rw [hstage] at hknows
    rw [run_append, run_append]
    have hd := distance_run setup hknows.2 later
    have hle := s.actor.control.distance_le
    have hzero : (s.run setup later).1.actor.control.distance = 0 := by omega
    exact own_joined (awaits_run (by rw [hstage]; rfl) later) hzero

/-- A sender that gives up at the first failure. -/
def hasty : Setup Command :=
  setup (.v4 127 0 0 1 9001) (.v4 127 0 0 1 9000) { RetryPolicy.default with maxRetries := some 0 }

/-- Two commands are pushed, and the thread goes on until it has the first in hand. -/
def firstInHand : List Move :=
  List.replicate 2 Move.owner ++ List.replicate 5 (Move.thread 0 .done)

/-- The owner finds the queue empty and asks the thread to stop while the second command
is in its hand, and the socket refuses it. -/
def refused : List Move :=
  firstInHand ++ List.replicate 3 (Move.thread 0 .done) ++ List.replicate 4 Move.owner ++
    [Move.thread 0 (.failed (.ofKind .networkDown)), Move.owner]

/-- An interrupt comes while the first command is in hand. -/
def interrupted : List Move :=
  firstInHand ++ [Move.interrupt] ++ List.replicate 2 (Move.thread 0 .done) ++
    List.replicate 4 Move.owner

theorem run_handOff_refused :
    hasty.config.role = .egress (.v4 127 0 0 1 9000) ∧
    (((start [.input 1, .input 2]).run hasty refused).1.stage =
        .joined true (.gaveUp 1 (.ofKind .networkDown)) ∧
      [Command.input 1, .input 2].map Frame.encode =
        ((start [.input 1, .input 2]).passed hasty refused).map .ok) ∧
    (((start [.input 1, .input 2]).run hasty interrupted).1.handed? = some false ∧
      ∃ (sent : List Command) (c : Command) (rest : List Command),
        [.input 1, .input 2] = sent ++ c :: rest ∧
        ((start [.input 1, .input 2]).run hasty interrupted).1.actor.queue = c :: rest ∧
        sent.map Frame.encode =
          ((start [.input 1, .input 2]).passed hasty interrupted).map .ok) := by
  obtain ⟨htrue, -, -, -⟩ :=
    run_handOff hasty (.v4 127 0 0 1 9000) rfl [.input 1, .input 2] refused
  obtain ⟨-, hfalse, -, -⟩ :=
    run_handOff hasty (.v4 127 0 0 1 9000) rfl [.input 1, .input 2] interrupted
  have hrefused : ((start [.input 1, .input 2]).run hasty refused).1.stage =
      .joined true (.gaveUp 1 (.ofKind .networkDown)) := rfl
  have hinterrupted : ((start [.input 1, .input 2]).run hasty interrupted).1.handed? =
      some false := rfl
  exact ⟨rfl, ⟨hrefused, htrue _ hrefused⟩, hinterrupted, (hfalse hinterrupted).2⟩

end Sender
end Cli
end Tagram
