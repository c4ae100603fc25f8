/-
# What a listener prints

The owner of a receiving endpoint takes all commands off the queue, prints them
and passes them on, and looks again. No command is printed twice or out of
order, and what is passed on is what was printed (`Listener.Sound.run`). So
every command that the endpoint queued is printed, about to be printed, or
still in the queue.

The owner looks whether the thread has ended before it takes what is queued, and
it does not take anything after its loop. What the thread queued since the owner
last took commands stays in the queue when the listener returns
(`Listener.run_listen`), and such commands are never printed
(`Listener.listen_unprinted`).

Key definitions: `Listener.queued`, `Listener.pushed`, `Listener.Stage.unprinted`,
`Listener.Stage.isOver`, `Listener.Sound`.
Key theorems: `Listener.own_cases`, `Listener.Sound.run`, `Listener.extends_run`,
`Listener.run_listen`, `Listener.listen_unprinted`.
-/
import Tagram.Cli.Listener
import Tagram.Proofs.Ingress

namespace Tagram
namespace Cli

open Endpoint

namespace Listener

/-! ### What is queued, printed and passed on -/

/-- What a move adds to the queue of the receiving thread. -/
def queues (l : Listener) : Move → List Command
  | .thread .ingress _ _ => l.ingress.control.pending
  | _ => []

/-- What moves one after another add to the queue of the receiving thread. -/
def queued (setups : Setups) (l : Listener) : List Move → List Command
  | [] => []
  | m :: rest => l.queues m ++ queued setups (l.move setups m).1 rest

/-- What a move pushes to the queue of the forwarding thread. -/
def pushes (l : Listener) : Move → List Command
  | .owner =>
    match l.stage, l.egress with
    | .forwarding c _, some _ => [c]
    | _, _ => []
  | _ => []

/-- What moves one after another push to the queue of the forwarding thread. -/
def pushed (setups : Setups) (l : Listener) : List Move → List Command
  | [] => []
  | m :: rest => l.pushes m ++ pushed setups (l.move setups m).1 rest

namespace Stage

/-- The commands that were taken off the queue and are still to be printed. -/
def unprinted : Stage → List Command
  | .printing rest | .forwarding _ rest => rest
  | _ => []

/-- The command that was printed and is still to be passed on. -/
def unpassed : Stage → List Command
  | .forwarding c _ => [c]
  | _ => []

/-- Whether the owner has left its loop. -/
def isOver : Stage → Bool
  | .stopping | .joining | .stoppingForward _ | .joiningForward _ | .returned _ => true
  | _ => false

/-- How the listener ended. -/
def ending? : Stage → Option Ending
  | .returned ending => some ending
  | _ => none

theorem of_isOver {stage : Stage} (h : stage.isOver = true) :
    stage.unprinted = [] ∧ stage.unpassed = [] := by
  cases stage with
  | stopping | joining | stoppingForward | joiningForward | returned => exact ⟨rfl, rfl⟩
  | _ => cases h

end Stage

/-- The commands that the owner took off the queue. -/
def drawn (l : Listener) : List Command := l.printed ++ l.stage.unprinted

/-- What holds of a listener when `queued` was added to the queue of its receiving
thread and `pushed` to that of its forwarding thread. -/
structure Sound (setups : Setups) (queued pushed : List Command) (l : Listener) : Prop where
  suits : l.ingress.control.suits setups.ingress.config.role = true
  kept : l.drawn ++ l.ingress.queue = queued
  passed : l.egress.isSome = true → pushed ++ l.stage.unpassed = l.printed

section

variable {setups : Setups} {queued pushed : List Command} {l : Listener}

theorem Sound.start (setups : Setups) (forwards : Bool) :
    Sound setups [] [] (Listener.start forwards) :=
  ⟨by cases setups.ingress.config.role <;> rfl, rfl, fun _ => rfl⟩

/-- A move that neither takes commands off the queue nor prints or passes one on. -/
structure Aside (l l' : Listener) : Prop where
  control : l'.ingress.control = l.ingress.control
  queue : l'.ingress.queue = l.ingress.queue
  printed : l'.printed = l.printed
  egress : l'.egress.isSome = l.egress.isSome
  unprinted : l'.stage.unprinted = l.stage.unprinted
  unpassed : l'.stage.unpassed = l.stage.unpassed

theorem Sound.aside (h : Sound setups queued pushed l) {l' : Listener} (ha : Aside l l') :
    Sound setups queued pushed l' := by
  refine ⟨by rw [ha.control]; exact h.suits, ?_, fun he => ?_⟩
  · rw [drawn, ha.printed, ha.unprinted, ha.queue]
    exact h.kept
  · rw [ha.egress] at he
    rw [ha.unpassed, ha.printed]
    exact h.passed he

/-- What a move of the owner does: it takes all commands off the queue, prints the next
one, passes it on, or does none of these. -/
theorem own_cases (l : Listener) :
    (l.stage = .draining ∧
      l.own = { l with stage := .printing l.ingress.queue, ingress.queue := [] }) ∨
    (∃ c rest, l.stage = .printing (c :: rest) ∧
      l.own = { l with stage := .forwarding c rest, printed := l.printed ++ [c] }) ∨
    (∃ c rest, l.stage = .forwarding c rest ∧ l.own.stage = .printing rest ∧
      l.own.ingress = l.ingress ∧ l.own.printed = l.printed ∧
      l.own.egress.isSome = l.egress.isSome) ∨
    (l.stage.unpassed = [] ∧ Aside l l.own) := by
  obtain ⟨stage, interrupted, printed, ingress, egress⟩ := l
  cases stage with
  | looking =>
    refine .inr (.inr (.inr ⟨rfl, ?_⟩))
    cases interrupted <;> exact ⟨rfl, rfl, rfl, rfl, rfl, rfl⟩
  | asking =>
    refine .inr (.inr (.inr ⟨rfl, ?_⟩))
    cases hf : ingress.finished <;> simp only [own, hf] <;> exact ⟨rfl, rfl, rfl, rfl, rfl, rfl⟩
  | draining => exact .inl ⟨rfl, rfl⟩
  | printing rest =>
    cases rest with
    | nil => exact .inr (.inr (.inr ⟨rfl, rfl, rfl, rfl, rfl, rfl, rfl⟩))
    | cons c rest => exact .inr (.inl ⟨c, rest, rfl, rfl⟩)
  | forwarding c rest =>
    exact .inr (.inr (.inl ⟨c, rest, rfl, rfl, rfl, rfl, by cases egress <;> rfl⟩))
  | stopping => exact .inr (.inr (.inr ⟨rfl, rfl, rfl, rfl, rfl, rfl, rfl⟩))
  | joining =>
    refine .inr (.inr (.inr ⟨rfl, ?_⟩))
    cases hc : ingress.control <;> simp only [own, hc] <;>
      exact ⟨by simp [hc], rfl, rfl, rfl, rfl, rfl⟩
  | stoppingForward ending =>
    exact .inr (.inr (.inr ⟨rfl, rfl, rfl, rfl, by cases egress <;> rfl, rfl, rfl⟩))
  | joiningForward ending =>
    refine .inr (.inr (.inr ⟨rfl, ?_⟩))
    cases egress with
    | none => exact ⟨rfl, rfl, rfl, rfl, rfl, rfl⟩
    | some a =>
      cases hc : a.control <;> simp only [own, hc] <;> exact ⟨rfl, rfl, rfl, rfl, rfl, rfl⟩
  | returned ending => exact .inr (.inr (.inr ⟨rfl, rfl, rfl, rfl, rfl, rfl, rfl⟩))

/-- Outside of the owner's moves no command is printed or passed on, and only a step of
the receiving thread touches its queue. -/
theorem aside_move {m : Move} (hm : m ≠ .owner) (hi : ∀ now reply, m ≠ .thread .ingress now reply) :
    Aside l (l.move setups m).1 := by
  cases m with
  | owner => exact absurd rfl hm
  | thread t now reply =>
    cases t with
    | ingress => exact absurd rfl (hi now reply)
    | egress =>
      obtain ⟨stage, interrupted, printed, ingress, egress⟩ := l
      cases hs : setups.egress <;> cases egress <;> simp only [move, hs] <;>
        exact ⟨rfl, rfl, rfl, rfl, rfl, rfl⟩
  | interrupt => exact ⟨rfl, rfl, rfl, rfl, rfl, rfl⟩
  | interruptThread t =>
    cases t with
    | ingress => exact ⟨rfl, rfl, rfl, rfl, rfl, rfl⟩
    | egress => exact ⟨rfl, rfl, rfl, Option.isSome_map, rfl, rfl⟩

/-- A move of the owner takes commands off the queue in order, and loses none. -/
theorem Sound.owner (h : Sound setups queued pushed l) :
    Sound setups queued (pushed ++ l.pushes .owner) l.own := by
  rcases l.own_cases with ⟨hs, hown⟩ | ⟨c, rest, hs, hown⟩ | ⟨c, rest, hs, hstage, hin, hpr, heg⟩ |
    ⟨hu, ha⟩
  · have hpushes : l.pushes .owner = [] := by simp [pushes, hs]
    rw [hpushes, List.append_nil, hown]
    have hkept := h.kept
    have hpassed := h.passed
    rw [drawn, hs] at hkept
    rw [hs] at hpassed
    refine ⟨h.suits, ?_, hpassed⟩
    simpa [drawn, Stage.unprinted] using hkept
  · have hpushes : l.pushes .owner = [] := by simp [pushes, hs]
    rw [hpushes, List.append_nil, hown]
    have hkept := h.kept
    have hpassed := h.passed
    rw [drawn, hs] at hkept
    rw [hs] at hpassed
    refine ⟨h.suits, ?_, fun he => ?_⟩
    · simpa [drawn, Stage.unprinted] using hkept
    · have hall : pushed ++ [] = l.printed := hpassed he
      rw [List.append_nil] at hall
      rw [hall]
      rfl
  · have hkept := h.kept
    rw [drawn, hs] at hkept
    refine ⟨by rw [hin]; exact h.suits, ?_, fun he => ?_⟩
    · rw [drawn, hpr, hstage, hin]
      exact hkept
    · rw [heg] at he
      have hall := h.passed he
      obtain ⟨a, ha⟩ := Option.isSome_iff_exists.1 he
      have hpushes : l.pushes .owner = [c] := by simp [pushes, hs, ha]
      rw [hs] at hall
      rw [hstage, hpr, hpushes, ← hall]
      exact List.append_nil _
  · have hpushes : l.pushes .owner = [] := by
      obtain ⟨stage, interrupted, printed, ingress, egress⟩ := l
      cases stage with
      | forwarding c rest => cases hu
      | _ => rfl
    rw [hpushes, List.append_nil]
    exact h.aside ha

theorem Sound.ingress (hi : setups.ingress.config.role = .ingress)
    (h : Sound setups queued pushed l) (now : Nat) (reply : Reply) :
    Sound setups (queued ++ l.ingress.control.pending) pushed
      (l.move setups (.thread .ingress now reply)).1 := by
  have hs := Actor.stepped setups.ingress now reply l.ingress
  have htakes : l.ingress.takes = [] := by
    apply Actor.takes_of_ne_taking
    intro s hc
    have hsuits := h.suits
    rw [hi, hc] at hsuits
    cases hsuits
  have hqueue := hs.queue
  rw [htakes, List.nil_append] at hqueue
  refine ⟨hs.suits h.suits, ?_, h.passed⟩
  calc l.drawn ++ (l.ingress.step setups.ingress now reply).1.queue
      = l.drawn ++ l.ingress.queue ++ l.ingress.control.pending := by
        rw [hqueue, List.append_assoc]
    _ = queued ++ l.ingress.control.pending := by rw [h.kept]

/-- **Every move keeps the account of the commands.** -/
theorem Sound.move (hi : setups.ingress.config.role = .ingress) (h : Sound setups queued pushed l)
    (m : Move) :
    Sound setups (queued ++ l.queues m) (pushed ++ l.pushes m) (l.move setups m).1 := by
  by_cases hm : m = .owner
  · subst hm
    rw [show l.queues .owner = [] from rfl, List.append_nil]
    exact h.owner
  have hpushes : l.pushes m = [] := by
    cases m with
    | owner => exact absurd rfl hm
    | _ => rfl
  rw [hpushes, List.append_nil]
  by_cases hthread : ∃ now reply, m = .thread .ingress now reply
  · obtain ⟨now, reply, rfl⟩ := hthread
    exact h.ingress hi now reply
  · have hne : ∀ now reply, m ≠ .thread .ingress now reply :=
      fun now reply hm => hthread ⟨now, reply, hm⟩
    have hqueues : l.queues m = [] := by
      cases m with
      | thread t now reply =>
        cases t with
        | ingress => exact absurd rfl (hne now reply)
        | egress => rfl
      | _ => rfl
    rw [hqueues, List.append_nil]
    exact h.aside (aside_move hm hne)

theorem Sound.run (hi : setups.ingress.config.role = .ingress) (h : Sound setups queued pushed l)
    (moves : List Move) :
    Sound setups (queued ++ l.queued setups moves) (pushed ++ l.pushed setups moves)
      (l.run setups moves).1 := by
  induction moves generalizing l queued pushed with
  | nil =>
    rw [Listener.queued, Listener.pushed, List.append_nil, List.append_nil]
    exact h
  | cons m moves ih =>
    rw [Listener.queued, Listener.pushed, ← List.append_assoc, ← List.append_assoc]
    exact ih (h.move hi m)

/-! ### What has been taken is printed -/

/-- From `l` to `l'` commands that were taken off the queue stay taken, in their order,
and there is a forwarding thread as before. -/
structure Extends (l l' : Listener) : Prop where
  drawn : l.drawn <+: l'.drawn
  egress : l'.egress.isSome = l.egress.isSome

theorem Aside.extends {l' : Listener} (ha : Aside l l') : Extends l l' := by
  refine ⟨?_, ha.egress⟩
  rw [drawn, drawn, ha.printed, ha.unprinted]

theorem extends_own (l : Listener) : Extends l l.own := by
  rcases l.own_cases with ⟨hs, hown⟩ | ⟨c, rest, hs, hown⟩ | ⟨c, rest, hs, hstage, -, hpr, heg⟩ |
    ⟨-, ha⟩
  · refine ⟨?_, by rw [hown]⟩
    rw [hown, drawn, drawn, hs]
    exact (List.prefix_append_right_inj _).2 List.nil_prefix
  · refine ⟨?_, by rw [hown]⟩
    rw [hown, drawn, drawn, hs]
    simp [Stage.unprinted]
  · refine ⟨?_, heg⟩
    rw [drawn, drawn, hstage, hpr, hs]
    exact List.prefix_refl _
  · exact ha.extends

theorem extends_move (setups : Setups) (l : Listener) (m : Move) :
    Extends l (l.move setups m).1 := by
  by_cases hm : m = .owner
  · subst hm
    exact l.extends_own
  by_cases hthread : ∃ now reply, m = .thread .ingress now reply
  · obtain ⟨now, reply, rfl⟩ := hthread
    exact ⟨List.prefix_refl _, rfl⟩
  · exact (aside_move hm fun now reply hm => hthread ⟨now, reply, hm⟩).extends

theorem extends_run (setups : Setups) (l : Listener) (moves : List Move) :
    Extends l (l.run setups moves).1 := by
  induction moves generalizing l with
  | nil => exact ⟨List.prefix_refl _, rfl⟩
  | cons m moves ih =>
    have hhead := extends_move setups l m
    have hrest := ih (l.move setups m).1
    exact ⟨hhead.drawn.trans hrest.drawn, hrest.egress.trans hhead.egress⟩

theorem run_append (l : Listener) (moves later : List Move) :
    (l.run setups (moves ++ later)).1 = ((l.run setups moves).1.run setups later).1 := by
  induction moves generalizing l with
  | nil => rfl
  | cons m moves ih => exact ih (l.move setups m).1

end

/-- **What a listener prints is what was queued, up to what it leaves in the queue**, however
the moves of the owner, of the threads and interrupts fall. What is printed is passed on,
and what the owner takes off the queue is printed by the time that it has left its loop. -/
theorem run_listen (setups : Setups) (hi : setups.ingress.config.role = .ingress)
    (forwards : Bool) (moves : List Move) :
    let l := ((start forwards).run setups moves).1
    let queued := (start forwards).queued setups moves
    let pushed := (start forwards).pushed setups moves
    l.printed ++ l.stage.unprinted ++ l.ingress.queue = queued ∧
    (forwards = true → pushed ++ l.stage.unpassed = l.printed) ∧
    (l.stage.isOver = true →
      l.printed ++ l.ingress.queue = queued ∧ (forwards = true → pushed = l.printed)) ∧
    ∀ later, let l' := ((start forwards).run setups (moves ++ Move.owner :: later)).1
      l.stage = .draining → l'.stage.isOver = true → queued <+: l'.printed := by
  intro l queued pushed
  have h : Sound setups queued pushed l := (Sound.start setups forwards).run hi moves
  have hpassed : forwards = true → pushed ++ l.stage.unpassed = l.printed := by
    intro hf
    apply h.passed
    rw [(extends_run setups (start forwards) moves).egress, hf]
    rfl
  refine ⟨h.kept, hpassed, fun hover => ?_, ?_⟩
  · obtain ⟨hunprinted, hunpassed⟩ := Stage.of_isOver hover
    have hkept := h.kept
    rw [drawn, hunprinted, List.append_nil] at hkept
    rw [hunpassed, List.append_nil] at hpassed
    exact ⟨hkept, hpassed⟩
  · intro later l' hstage hover
    have hl' : l' = (l.own.run setups later).1 := run_append ..
    -- Everything queued so far is taken off the queue by this move.
    have hdrawn : l.own.drawn = queued := by
      have hkept := h.kept
      rw [drawn, hstage] at hkept
      rw [← hkept, drawn, own, hstage]
      simp [Stage.unprinted]
    have hprinted : l'.drawn = l'.printed := by
      rw [drawn, (Stage.of_isOver hover).1, List.append_nil]
    rw [← hdrawn, ← hprinted, hl']
    exact (extends_run setups l.own later).drawn

/-- A listener that forwards, and whose threads give up at the first failure. -/
def touchy : Setups :=
  setups (.v4 127 0 0 1 9000) (some (.v4 127 0 0 1 9001, .v4 127 0 0 1 9002))
    { RetryPolicy.default with maxRetries := some 0 }

/-- The receiving thread queues a command and then gives up before the owner has taken
anything off the queue, so that the owner leaves its loop at its first look. -/
def unnoticed : List Move :=
  let go := Move.thread .ingress 0 .done
  let d := Life.inputFrame 1
  List.replicate 4 go ++ [.thread .ingress 0 (.received d d.length), go, go,
    .thread .ingress 0 (.failed (.ofKind .connectionReset))] ++
    List.replicate 5 Move.owner ++ [.owner, .thread .egress 0 .done, .owner]

/-- A listener can return without having printed or passed on a command that was queued,
though nothing interrupts it. -/
theorem listen_unprinted :
    let l := ((start true).run touchy unnoticed).1
    l.stage.ending? = some (.gaveUp 1 (.ofKind .connectionReset)) ∧ l.interrupted = false ∧
      (start true).queued touchy unnoticed = [.input 1] ∧ l.printed = [] ∧
      (start true).pushed touchy unnoticed = [] ∧ l.ingress.queue = [.input 1] := by
  decide +kernel

end Listener
end Cli
end Tagram
