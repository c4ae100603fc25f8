/-
# How a thread counts its failures

After a failure a thread gives up if its policy is exhausted by the count of
failures in a row, and else waits and opens a socket again; the wait depends on
the count only.

A ledger is kept beside a life (`Ledger`): how many datagrams the session that
is on has handled, every session that failed with the count that the thread
showed then, and every wait with the time at which it was over. It is written
from the replies of the socket (`Actor.setback?`, `Actor.handles`), not from
what the thread notes. One invariant ties the ledger to the thread
(`Ledger.Sound`): the count is the tally of the setbacks, and at every point of
the thread the sockets opened, the setbacks and the waits stand to each other in
a fixed way (`Ledger.Standing`).
A wait is cut short only by the stop flag, and then no socket is opened any more
(`Actor.Leaving`).

Key definitions: `Ledger`, `Ledger.after`, `Ledger.Standing`, `Ledger.Sound`.
Key theorems: `Actor.count_opened_step`, `Ledger.Sound.after`,
`Ledger.Sound.gaveUp_iff`, `Ledger.run_failures`.
-/
import Tagram.Proofs.Sessions
import Tagram.Proofs.Tally

namespace Tagram
namespace Endpoint

variable {μ : Type}

/-! ### What is opened -/

namespace Control

/-- The sockets that the next step opens, or fails to open. -/
def opens : Control μ → Nat
  | .opening => 1
  | _ => 0

end Control

/-- A wait that is over. -/
structure Pause where
  delay : Duration
  /-- The time on the clock when the thread went on. -/
  ended : Nat

namespace Actor

/-- The wait that a step ends. -/
def ends? [WireMessage μ] (setup : Setup μ) (now : Nat) (reply : Reply) (a : Actor μ) :
    Option Pause :=
  match a.control, (a.step setup now reply).1.control with
  | .pausing delay _, .idle => some ⟨delay, now⟩
  | _, _ => none

/-- The thread is told to stop and neither in a session nor waiting for one: it opens no
socket any more. -/
structure Leaving (a : Actor μ) : Prop where
  stopping : a.stopping = true
  between : a.control = .idle ∨ ∃ ending, a.control = .ended ending

variable {setup : Setup μ} {reply : Reply} {a : Actor μ}

theorem count_opened_step [WireMessage μ] (setup : Setup μ) (now : Nat) (reply : Reply)
    (a : Actor μ) : (a.step setup now reply).2.count .opened = a.control.opens := by
  obtain ⟨rest, hevents, hnoted⟩ := step_shows setup now reply a
  have hrest : rest.count .opened = 0 := by
    refine List.count_eq_zero.2 fun hm => ?_
    obtain ⟨note, hn⟩ := hnoted _ hm
    cases hn
  rw [hevents, List.count_append, hrest, Nat.add_zero]
  unfold shows
  cases a.control with
  | sending s tag frame => cases setup.config.role <;> cases reply <;> rfl
  | pausing delay deadline =>
    dsimp only
    split_ifs <;> rfl
  | _ => rfl

theorem handles_of_session? (h : a.control.session? = none) : a.handles setup reply = false := by
  obtain ⟨queue, stopping, failures, control⟩ := a
  cases control with
  | idle | opening | arming | pausing | ended => rfl
  | _ => cases h

theorem Course.gaveUp_iff [WireMessage μ] {now : Nat} {b : Actor μ}
    (h : Course setup now reply a b) : (∃ n source, b.control = .ended (.gaveUp n source)) ↔
      ∃ n source, a.control = .ended (.gaveUp n source) := by
  cases h with
  | begun _ ha hb | opened ha hb | armed _ ha hb | waited _ _ _ ha hb | slept _ _ _ _ ha hb =>
    simp [ha, hb]
  | served s s' ha hb _ _ =>
    constructor
    · rintro ⟨n, source, hc⟩
      rw [hc] at hb
      cases hb
    · rintro ⟨n, source, hc⟩
      rw [hc] at ha
      cases ha
  | stopped _ ha hb => rcases ha with ha | ⟨s, ha⟩ <;> simp [ha, hb]
  | aborted _ ha hb =>
    constructor
    · simp [hb]
    · rintro ⟨n, source, hc⟩
      rw [hc] at ha
      cases ha
  | finished ending ha hb => simp [ha, hb]

section

variable [WireMessage μ] {now : Nat}

/-- A wait ends when the thread is told to stop or its deadline has come, and not
before. -/
theorem ends?_eq_some {p : Pause} : a.ends? setup now reply = some p ↔
    ∃ deadline, a.control = .pausing p.delay deadline ∧
      (a.stopping = true ∨ deadline ≤ now) ∧ p.ended = now := by
  obtain ⟨queue, stopping, failures, control⟩ := a
  cases control with
  | pausing delay deadline =>
    by_cases hover : stopping = true ∨ deadline ≤ now
    · have hends : ends? setup now reply ⟨queue, stopping, failures, .pausing delay deadline⟩ =
          some ⟨delay, now⟩ := by
        rw [ends?, step_wake rfl hover]
        rfl
      rw [hends]
      constructor
      · rintro h
        cases h
        exact ⟨deadline, rfl, hover, rfl⟩
      · rintro ⟨deadline', hc, -, hended⟩
        obtain ⟨rfl, -⟩ := Control.pausing.inj hc
        rw [← hended]
    · have hsleep := hover
      rw [not_or, Bool.not_eq_true, Nat.not_le] at hsleep
      have hends : ends? setup now reply ⟨queue, stopping, failures, .pausing delay deadline⟩ =
          none := by
        rw [ends?, step_sleep rfl hsleep.1 hsleep.2]
      rw [hends]
      constructor
      · rintro h
        cases h
      · rintro ⟨deadline', hc, hover', -⟩
        obtain ⟨-, rfl⟩ := Control.pausing.inj hc
        exact absurd hover' hover
  | _ => simp [ends?]

theorem ends?_eq_none (h : ∀ delay deadline, a.control ≠ .pausing delay deadline) :
    a.ends? setup now reply = none := by
  rw [Option.eq_none_iff_forall_not_mem]
  intro p hp
  obtain ⟨deadline, hc, -⟩ := ends?_eq_some.1 hp
  exact h _ _ hc

theorem ends?_of_engaged (h : a.control.engaged = true) : a.ends? setup now reply = none :=
  ends?_eq_none fun delay deadline hc => by
    rw [hc] at h
    cases h

theorem Leaving.step (h : a.Leaving) (setup : Setup μ) (now : Nat) (reply : Reply) :
    (a.step setup now reply).1.Leaving := by
  refine ⟨(stopping_step ..).trans h.stopping, .inr ?_⟩
  rcases h.between with hc | ⟨ending, hc⟩
  · exact ⟨.stopped, by simp [Actor.step, hc, h.stopping, halt, goto]⟩
  · exact ⟨ending, by simp [Actor.step, hc]⟩

end

end Actor

/-! ### The ledger -/

/-- A life, and what is kept of its sessions. -/
structure Ledger (μ : Type) where
  life : Life μ
  /-- How many datagrams the session that is on has handled. -/
  handled : Nat
  /-- The sessions that failed. -/
  setbacks : List Setback
  pauses : List Pause

namespace Ledger

/-- The ledger of a thread that is about to start. -/
def start (queue : List μ) : Ledger μ := ⟨.start queue, 0, [], []⟩

/-- The sockets that the thread opened, or failed to open. -/
def opens (g : Ledger μ) : Nat := g.life.events.count .opened

/-- One move. A session begins at the step that leaves the idle point. -/
def after [WireMessage μ] (setup : Setup μ) (g : Ledger μ) (m : Move μ) : Ledger μ :=
  match m with
  | .step now reply =>
    let a := g.life.actor
    { life := g.life.after setup (.step now reply)
      handled :=
        match a.control with
        | .idle => 0
        | _ => if a.handles setup reply then g.handled + 1 else g.handled
      setbacks := g.setbacks ++ ((a.setback? setup reply).map fun source =>
        ⟨g.handled, source, (a.step setup now reply).1.failures, now⟩).toList
      pauses := g.pauses ++ (a.ends? setup now reply).toList }
  | m => { g with life := g.life.after setup m }

/-- Moves one after another. -/
def run [WireMessage μ] (setup : Setup μ) (g : Ledger μ) (moves : List (Move μ)) : Ledger μ :=
  moves.foldl (after setup) g

/-- How the numbers of a ledger stand to each other, by the point of the thread. -/
def Standing (setup : Setup μ) (g : Ledger μ) : Prop :=
  match g.life.actor.control with
  | .idle => g.pauses.length = g.setbacks.length ∧ g.opens = g.setbacks.length
  | .pausing delay deadline =>
    delay = setup.config.retry.backoff (g.life.actor.failures - 1) ∧
      (∃ s, g.setbacks.getLast? = some s ∧ deadline = s.time + delay.nanos) ∧
      g.pauses.length + 1 = g.setbacks.length ∧ g.opens = g.setbacks.length
  | .ended (.gaveUp n source) =>
    n = g.life.actor.failures ∧ g.setbacks.getLast?.map Setback.source = some source
  | .ended _ => True
  | c => (c.progressed = true ↔ 0 < g.handled) ∧
      g.pauses.length = g.setbacks.length ∧ g.opens + c.opens = g.setbacks.length + 1

/-- What holds of every ledger. -/
structure Sound (setup : Setup μ) (g : Ledger μ) : Prop where
  tallied : Tallied g.setbacks g.life.actor.failures
  standing : g.Standing setup
  /-- The thread has given up just if its policy is exhausted. -/
  verdict : setup.config.retry.exhausted g.life.actor.failures = true ↔
    ∃ n source, g.life.actor.control = .ended (.gaveUp n source)
  /-- No earlier failure exhausted it. -/
  spared : ∀ s ∈ g.setbacks.dropLast, setup.config.retry.exhausted s.count = false
  /-- Every wait was as long as the policy says, unless the stop flag cut it short. -/
  waits : ∀ (i : Nat) (p : Pause), g.pauses[i]? = some p →
    ∃ s : Setback, g.setbacks[i]? = some s ∧ p.delay = setup.config.retry.backoff (s.count - 1) ∧
      (¬ g.life.actor.Leaving → s.time + p.delay.nanos ≤ p.ended)

section

variable {setup : Setup μ} {g : Ledger μ}

theorem standing_idle (hc : g.life.actor.control = .idle) : g.Standing setup ↔
    g.pauses.length = g.setbacks.length ∧ g.opens = g.setbacks.length := by
  unfold Standing
  rw [hc]

theorem standing_pausing {delay : Duration} {deadline : Nat}
    (hc : g.life.actor.control = .pausing delay deadline) :
    g.Standing setup ↔ delay = setup.config.retry.backoff (g.life.actor.failures - 1) ∧
      (∃ s, g.setbacks.getLast? = some s ∧ deadline = s.time + delay.nanos) ∧
      g.pauses.length + 1 = g.setbacks.length ∧ g.opens = g.setbacks.length := by
  unfold Standing
  rw [hc]

theorem standing_gaveUp {n : Nat} {source : Net.SocketError}
    (hc : g.life.actor.control = .ended (.gaveUp n source)) : g.Standing setup ↔
      n = g.life.actor.failures ∧ g.setbacks.getLast?.map Setback.source = some source := by
  unfold Standing
  rw [hc]

theorem standing_engaged (he : g.life.actor.control.engaged = true) : g.Standing setup ↔
    (g.life.actor.control.progressed = true ↔ 0 < g.handled) ∧
      g.pauses.length = g.setbacks.length ∧
      g.opens + g.life.actor.control.opens = g.setbacks.length + 1 := by
  unfold Standing
  cases hc : g.life.actor.control with
  | idle | pausing | ended =>
    rw [hc] at he
    cases he
  | _ => rfl

/-- While the thread has not given up, no failure has exhausted its policy. -/
theorem Sound.unexhausted (h : g.Sound setup)
    (hx : setup.config.retry.exhausted g.life.actor.failures = false) :
    ∀ s ∈ g.setbacks, setup.config.retry.exhausted s.count = false := by
  intro s hs
  have hne : g.setbacks ≠ [] := List.ne_nil_of_mem hs
  rw [← List.dropLast_append_getLast hne, List.mem_append, List.mem_singleton] at hs
  rcases hs with hs | rfl
  · exact h.spared s hs
  · rwa [h.tallied.getLast? (List.getLast?_eq_some_getLast hne)]

theorem Sound.start (setup : Setup μ) (queue : List μ) : (Ledger.start queue).Sound setup where
  tallied := .nil
  standing := ⟨rfl, rfl⟩
  verdict := by
    have hx : setup.config.retry.exhausted 0 = false := by
      unfold RetryPolicy.exhausted
      split <;> simp
    simp [Ledger.start, Life.start, Actor.start, hx]
  spared := by simp [Ledger.start]
  waits := by simp [Ledger.start]

/-- **When a thread gives up**: at the first count over the bound of its policy, and
that count is one over it. -/
theorem Sound.gaveUp_iff (h : g.Sound setup) {m : UInt32}
    (hm : setup.config.retry.maxRetries = some m) (n : Nat) (source : Net.SocketError) :
    g.life.actor.control = .ended (.gaveUp n source) ↔
      n = m.toNat + 1 ∧ ∃ s, g.setbacks.getLast? = some s ∧ m.toNat < s.count ∧
        s.source = source := by
  have hx := RetryPolicy.exhausted_of_some hm
  have hle : g.life.actor.failures ≤ m.toNat + 1 := by
    refine h.tallied.le_succ fun s hs => ?_
    have hspared := h.spared s hs
    rw [hx, decide_eq_false_iff_not] at hspared
    omega
  have hverdict := h.verdict
  rw [hx, decide_eq_true_eq] at hverdict
  constructor
  · intro hc
    have hlt := hverdict.2 ⟨n, source, hc⟩
    obtain ⟨rfl, hlast⟩ := (standing_gaveUp hc).1 h.standing
    obtain ⟨s, hs, hsource⟩ := Option.map_eq_some_iff.1 hlast
    refine ⟨by omega, s, hs, ?_, hsource⟩
    rwa [h.tallied.getLast? hs]
  · rintro ⟨rfl, s, hs, hlt, rfl⟩
    rw [h.tallied.getLast? hs] at hlt
    obtain ⟨n, source, hc⟩ := hverdict.1 hlt
    obtain ⟨rfl, hlast⟩ := (standing_gaveUp hc).1 h.standing
    rw [hs, Option.map_some, Option.some.injEq] at hlast
    rw [hc, hlast]
    congr 2
    omega

/-- Without a bound a thread does not give up, and the largest bound is none. -/
theorem Sound.not_gaveUp (h : g.Sound setup) (hm : setup.config.retry.maxRetries = none ∨
    setup.config.retry.maxRetries = some 4294967295) (n : Nat) (source : Net.SocketError) :
    g.life.actor.control ≠ .ended (.gaveUp n source) := by
  intro hc
  have hx := h.verdict.2 ⟨n, source, hc⟩
  rcases hm with hm | hm
  · simp [RetryPolicy.exhausted, hm] at hx
  · have hlt : 4294967295 < g.life.actor.failures := by
      rw [RetryPolicy.exhausted_of_some hm, decide_eq_true_eq] at hx
      exact hx
    have hmax := h.tallied.le_maxFailures
    unfold maxFailures at hmax
    omega

/-- The wait that is on is for the last failure, and starts with it. -/
theorem Sound.pausing (h : g.Sound setup) {delay : Duration} {deadline : Nat}
    (hc : g.life.actor.control = .pausing delay deadline) : ∃ s : Setback,
      g.setbacks[g.pauses.length]? = some s ∧ delay = setup.config.retry.backoff (s.count - 1) ∧
        deadline = s.time + delay.nanos := by
  obtain ⟨hdelay, ⟨s, hlast, hdeadline⟩, hlength, -⟩ := (standing_pausing hc).1 h.standing
  have hget : g.setbacks[g.pauses.length]? = some s := by
    rw [← hlast, List.getLast?_eq_getElem?, ← hlength, Nat.add_sub_cancel]
  exact ⟨s, hget, by rw [h.tallied.getLast? hlast, hdelay], hdeadline⟩

/-- What a session notes of its progress is right. -/
theorem Sound.progressed_iff (h : g.Sound setup) {s : Session}
    (hs : g.life.actor.control.session? = some s) : s.progressed = true ↔ 0 < g.handled := by
  have hstanding := ((standing_engaged (Control.engaged_of_session? hs)).1 h.standing).1
  unfold Control.progressed at hstanding
  rwa [hs] at hstanding

end

section

variable [WireMessage μ] {setup : Setup μ} {g : Ledger μ}

theorem opens_step (setup : Setup μ) (g : Ledger μ) (now : Nat) (reply : Reply) :
    (g.after setup (.step now reply)).opens = g.opens + g.life.actor.control.opens := by
  have hevents : (g.after setup (.step now reply)).life.events =
      g.life.events ++ (g.life.actor.step setup now reply).2 := rfl
  rw [opens, hevents, List.count_append, Actor.count_opened_step, opens]

theorem handled_step (setup : Setup μ) (now : Nat) (reply : Reply)
    (hc : g.life.actor.control ≠ .idle) : (g.after setup (.step now reply)).handled =
      if g.life.actor.handles setup reply then g.handled + 1 else g.handled := by
  simp only [after]

/-- A step with a setback: the session is entered with the count that follows. -/
theorem Sound.after_setback (h : g.Sound setup) (now : Nat) {reply : Reply}
    {source : Net.SocketError} (hs : g.life.actor.setback? setup reply = some source) :
    (g.after setup (.step now reply)).Sound setup := by
  have he := Actor.engaged_of_setback? hs
  obtain ⟨hp, hpauses, hopens⟩ := (standing_engaged he).1 h.standing
  have hx : setup.config.retry.exhausted g.life.actor.failures = false := by
    rw [← Bool.not_eq_true, h.verdict]
    rintro ⟨n, e, hc⟩
    rw [hc] at he
    cases he
  set b := (g.life.actor.step setup now reply).1 with hb
  obtain ⟨hfailures, hcontrol⟩ := Actor.setback_control now hs hb
  have hactor : (g.after setup (.step now reply)).life.actor = b := rfl
  have hsetbacks : (g.after setup (.step now reply)).setbacks =
      g.setbacks ++ [⟨g.handled, source, b.failures, now⟩] := by
    simp only [after, hs, Option.map_some, Option.toList_some, hb]
  have hpauses' : (g.after setup (.step now reply)).pauses = g.pauses := by
    simp only [after, Actor.ends?_of_engaged he, Option.toList_none, List.append_nil]
  have hopens' := opens_step setup g now reply
  rw [hopens] at hopens'
  exact {
    tallied := by
      rw [hsetbacks, hactor]
      refine .snoc h.tallied ⟨g.handled, source, b.failures, now⟩ ?_
      rw [hfailures]
      simp only [hp]
    standing := by
      split_ifs at hcontrol with hgive hwait
      · refine (standing_gaveUp hcontrol).2 ⟨rfl, ?_⟩
        rw [hsetbacks, List.getLast?_concat]
        rfl
      · refine (standing_pausing hcontrol).2
          ⟨rfl, ⟨⟨g.handled, source, b.failures, now⟩, ?_, rfl⟩, ?_, ?_⟩
        · rw [hsetbacks, List.getLast?_concat]
        · rw [hsetbacks, hpauses', hpauses, List.length_append, List.length_singleton]
        · rw [hsetbacks, hopens', List.length_append, List.length_singleton]
      · unfold Standing
        rw [hactor, hcontrol]
        trivial
    verdict := by
      rw [hactor]
      split_ifs at hcontrol with hgive hwait
      · exact ⟨fun _ => ⟨_, _, hcontrol⟩, fun _ => hgive⟩
      · simp [hgive, hcontrol]
      · simp [hgive, hcontrol]
    spared := by
      rw [hsetbacks, List.dropLast_concat]
      exact h.unexhausted hx
    waits := by
      rw [hsetbacks, hpauses']
      intro i p hi
      obtain ⟨s, hs', hd, hlasted⟩ := h.waits i p hi
      refine ⟨s, ?_, hd, fun _ => hlasted fun hleaving => ?_⟩
      · rw [List.getElem?_append_left (List.getElem?_eq_some_iff.1 hs').1, hs']
      · -- A session was on.
        rcases hleaving.between with hc | ⟨ending, hc⟩
        all_goals
          rw [hc] at he
          cases he }

theorem setbacks_step (now : Nat) {reply : Reply}
    (hs : g.life.actor.setback? setup reply = none) :
    (g.after setup (.step now reply)).setbacks = g.setbacks := by
  simp only [after, hs, Option.map_none, Option.toList_none, List.append_nil]

theorem Standing.after_course (h : g.Standing setup) {now : Nat} {reply : Reply}
    (hs : g.life.actor.setback? setup reply = none)
    (hc : g.life.actor.Course setup now reply (g.life.actor.step setup now reply).1)
    (hf : (g.life.actor.step setup now reply).1.failures = g.life.actor.failures) :
    (g.after setup (.step now reply)).Standing setup := by
  have hactor : (g.after setup (.step now reply)).life.actor =
      (g.life.actor.step setup now reply).1 := rfl
  set b := (g.life.actor.step setup now reply).1
  have hsetbacks := setbacks_step now hs
  have hpauses : (g.after setup (.step now reply)).pauses =
      g.pauses ++ (g.life.actor.ends? setup now reply).toList := rfl
  have hopens := opens_step setup g now reply
  -- A session that was on and stays on.
  have hstay : g.life.actor.control.engaged = true → b.control.engaged = true →
      b.control.opens = 0 → b.control.progressed =
        (g.life.actor.control.progressed || g.life.actor.handles setup reply) →
      (g.after setup (.step now reply)).Standing setup := by
    intro he he' ho hp
    obtain ⟨hprogressed, hlength, hopened⟩ := (standing_engaged he).1 h
    have hne : g.life.actor.control ≠ .idle := by
      intro hidle
      rw [hidle] at he
      cases he
    refine (standing_engaged he').2 ⟨?_, ?_, ?_⟩
    · rw [hactor, hp, handled_step setup now reply hne, Bool.or_eq_true, hprogressed]
      split_ifs with hhandles <;> simp [hhandles]
    · rw [hpauses, Actor.ends?_of_engaged he, Option.toList_none, List.append_nil, hlength,
        hsetbacks]
    · rw [hactor, ho, hopens, hopened, hsetbacks, Nat.add_zero]
  cases hc with
  | begun _ ha hb =>
    obtain ⟨hlength, hopened⟩ := (standing_idle ha).1 h
    have hhandled : (g.after setup (.step now reply)).handled = 0 := by simp only [after, ha]
    rw [ha] at hopens
    refine (standing_engaged (by rw [hactor, hb]; rfl)).2 ⟨?_, ?_, ?_⟩
    · rw [hactor, hb, hhandled]
      exact ⟨fun hp => (nomatch hp), fun hlt => absurd hlt (Nat.lt_irrefl 0)⟩
    · rw [hpauses, Actor.ends?_eq_none (by simp [ha]), Option.toList_none, List.append_nil,
        hlength, hsetbacks]
    · rw [hactor, hb, hopens, hopened, hsetbacks]
      rfl
  | opened ha hb =>
    refine hstay (by rw [ha]; rfl) (by rw [hb]; rfl) (by rw [hb]; rfl) ?_
    rw [ha, hb, Actor.handles_of_session? (by rw [ha]; rfl)]
    rfl
  | armed size ha hb =>
    refine hstay (by rw [ha]; rfl) (by rw [hb]; rfl) (by rw [hb]; rfl) ?_
    rw [ha, hb, Actor.handles_of_session? (by rw [ha]; rfl)]
    rfl
  | served s s' ha hb hp hq =>
    refine hstay (Control.engaged_of_session? ha) (Control.engaged_of_session? hb) ?_ ?_
    · cases hcontrol : b.control with
      | opening =>
        rw [hcontrol] at hb
        cases hb
      | _ => rfl
    · simp only [Control.progressed, ha, hb, Option.map_some, Option.getD_some, hp]
  | waited delay deadline hover ha hb =>
    obtain ⟨-, -, hlength, hopened⟩ := (standing_pausing ha).1 h
    have hends : g.life.actor.ends? setup now reply = some ⟨delay, now⟩ :=
      Actor.ends?_eq_some.2 ⟨deadline, ha, hover, rfl⟩
    rw [ha] at hopens
    refine (standing_idle hb).2 ⟨?_, ?_⟩
    · rw [hpauses, hends, hsetbacks, Option.toList_some, List.length_append]
      exact hlength
    · rw [hopens, hsetbacks]
      exact hopened
  | slept delay deadline hon hearly ha hb =>
    have hends : g.life.actor.ends? setup now reply = none := by
      rw [Option.eq_none_iff_forall_not_mem]
      rintro p hp
      obtain ⟨deadline', hc, hover, -⟩ := Actor.ends?_eq_some.1 hp
      obtain ⟨-, rfl⟩ := Control.pausing.inj (ha.symm.trans hc)
      rcases hover with hstop | hlate
      · rw [hon] at hstop
        cases hstop
      · omega
    obtain ⟨hdelay, hlast, hlength, hopened⟩ := (standing_pausing ha).1 h
    rw [ha] at hopens
    refine (standing_pausing hb).2 ⟨?_, ?_, ?_, ?_⟩
    · rw [hactor, hf, hdelay]
    · rw [hsetbacks]
      exact hlast
    · rw [hpauses, hends, hsetbacks, Option.toList_none, List.append_nil, hlength]
    · rw [hopens, hsetbacks]
      exact hopened
  | stopped _ _ hb | aborted _ _ hb =>
    unfold Standing
    rw [hactor, hb]
    trivial
  | finished ending ha hb =>
    unfold Standing at h ⊢
    rw [ha] at h
    rw [hactor, hb, hsetbacks, hf]
    cases ending <;> exact h

theorem Sound.after_course (h : g.Sound setup) (now : Nat) {reply : Reply}
    (hs : g.life.actor.setback? setup reply = none) :
    (g.after setup (.step now reply)).Sound setup := by
  obtain ⟨hfailures, hstopping, hcourse⟩ := Actor.step_course now hs
  have hactor : (g.after setup (.step now reply)).life.actor =
      (g.life.actor.step setup now reply).1 := rfl
  have hsetbacks := setbacks_step now hs
  exact {
    tallied := by
      rw [hsetbacks, hactor, hfailures]
      exact h.tallied
    standing := h.standing.after_course hs hcourse hfailures
    verdict := by
      rw [hactor, hfailures, hcourse.gaveUp_iff]
      exact h.verdict
    spared := by
      rw [hsetbacks]
      exact h.spared
    waits := by
      rw [hsetbacks]
      intro i p hi
      rcases getElem?_append_toList hi with hold | ⟨rfl, hnew⟩
      · obtain ⟨s, hs', hd, hlasted⟩ := h.waits i p hold
        exact ⟨s, hs', hd, fun hon => hlasted fun hleaving => hon (hleaving.step ..)⟩
      · -- The wait that the step ends: it was not cut short if the flag is not raised.
        obtain ⟨deadline, hc, hover, hended⟩ := Actor.ends?_eq_some.1 hnew
        obtain ⟨s, hs', hd, hdeadline⟩ := h.pausing hc
        refine ⟨s, hs', hd, fun hon => ?_⟩
        have hidle : (g.life.actor.step setup now reply).1.control = .idle := by
          rw [Actor.step_wake hc hover]
          rfl
        have hlate : deadline ≤ now := hover.resolve_left fun hstop =>
          hon ⟨hstopping.trans hstop, .inl hidle⟩
        rw [← hdeadline, hended]
        exact hlate }

/-- **Every move keeps the ledger sound.** -/
theorem Sound.after (h : g.Sound setup) (m : Move μ) : (g.after setup m).Sound setup := by
  cases m with
  | step now reply =>
    rcases hs : g.life.actor.setback? setup reply with _ | source
    · exact h.after_course now hs
    · exact h.after_setback now hs
  | stop =>
    refine ⟨h.tallied, h.standing, h.verdict, h.spared, fun i p hi => ?_⟩
    obtain ⟨s, hs, hd, hlasted⟩ := h.waits i p hi
    exact ⟨s, hs, hd, fun hon => hlasted fun hleaving => hon ⟨rfl, hleaving.between⟩⟩
  | push | pop | drain =>
    refine ⟨h.tallied, h.standing, h.verdict, h.spared, fun i p hi => ?_⟩
    obtain ⟨s, hs, hd, hlasted⟩ := h.waits i p hi
    exact ⟨s, hs, hd, fun hon => hlasted fun hleaving =>
      hon ⟨hleaving.stopping, hleaving.between⟩⟩

theorem Sound.run (h : g.Sound setup) (moves : List (Move μ)) :
    (g.run setup moves).Sound setup := by
  induction moves generalizing g with
  | nil => exact h
  | cons m moves ih => exact ih (h.after m)

theorem life_run (setup : Setup μ) (g : Ledger μ) (moves : List (Move μ)) :
    (g.run setup moves).life = g.life.run setup moves := by
  induction moves generalizing g with
  | nil => rfl
  | cons m moves ih =>
    have hlife : (g.after setup m).life = g.life.after setup m := by cases m <;> rfl
    exact (ih (g.after setup m)).trans (by rw [hlife]; rfl)

/-- A thread that has ended stays as it is and does nothing more. -/
theorem ended_run {ending : Ending} (hc : g.life.actor.control = .ended ending)
    (moves : List (Move μ)) :
    (g.run setup moves).life.actor.control = .ended ending ∧
      (g.run setup moves).life.events = g.life.events := by
  induction moves generalizing g with
  | nil => exact ⟨hc, rfl⟩
  | cons m moves ih =>
    have hkeep : (g.after setup m).life.actor.control = .ended ending ∧
        (g.after setup m).life.events = g.life.events := by
      cases m with
      | step now reply =>
        have hstep : g.life.actor.step setup now reply = (g.life.actor, []) := by
          simp only [Actor.step, hc]
        refine ⟨?_, ?_⟩
        · exact (congrArg (fun r => r.1.control) hstep).trans hc
        · exact (congrArg (fun r => g.life.events ++ r.2) hstep).trans (List.append_nil _)
      | _ => exact ⟨hc, rfl⟩
    obtain ⟨hcontrol, hevents⟩ := ih hkeep.1
    exact ⟨hcontrol, hevents.trans hkeep.2⟩

end

/-- **How a thread counts its failures, waits and gives up**, for every policy, role and
run. The count runs from the last session that had handled a datagram; the thread gives
up at the first count over the bound and does nothing after that. Whenever it opens a
socket it has waited once for every failure before, for as long as the policy says, and
only the stop flag cuts a wait short. -/
theorem run_failures [WireMessage μ] (setup : Setup μ) (queue : List μ) (moves : List (Move μ)) :
    let g := (start queue).run setup moves
    let control := g.life.actor.control
    let retry := setup.config.retry
    (g.life = (Life.start queue).run setup moves ∧
      (∀ (i : Nat) (s : Setback), g.setbacks[i]? = some s →
        (∃ j, IsRestart (g.setbacks.take (i + 1)) j) ∧
        ∀ j, IsRestart (g.setbacks.take (i + 1)) j → s.count = min 4294967295 (i + 1 - j + 1)) ∧
      g.life.actor.failures = (g.setbacks.getLast?.map Setback.count).getD 0) ∧
    (∀ s, control.session? = some s → (s.progressed = true ↔ 0 < g.handled)) ∧
    ((retry.maxRetries = none ∨ retry.maxRetries = some 4294967295 →
        ∀ n source, control ≠ .ended (.gaveUp n source)) ∧
      ∀ m, retry.maxRetries = some m →
        (∀ s ∈ g.setbacks.dropLast, s.count ≤ m.toNat) ∧
        ∀ n source, control = .ended (.gaveUp n source) ↔
          n = m.toNat + 1 ∧ ∃ s, g.setbacks.getLast? = some s ∧ m.toNat < s.count ∧
            s.source = source) ∧
    (∀ ending later, control = .ended ending →
      (g.run setup later).life.actor.control = .ended ending ∧
      (g.run setup later).life.events = g.life.events) ∧
    ((control = .opening →
        g.pauses.length = g.setbacks.length ∧ g.opens = g.setbacks.length) ∧
      ∀ (i : Nat) (p : Pause), g.pauses[i]? = some p →
        ∃ s : Setback, g.setbacks[i]? = some s ∧ p.delay = retry.backoff (s.count - 1) ∧
          p.delay.nanos ≤ retry.maxBackoff.nanos ∧ (0 < s.handled → p.delay = retry.backoff 0) ∧
          (control.engaged = true ∨ g.life.actor.stopping = false →
            s.time + p.delay.nanos ≤ p.ended)) ∧
    ∀ (i j : Nat) (p q : Pause), i ≤ j → g.pauses[i]? = some p → g.pauses[j]? = some q →
      (∀ k s, i < k → k ≤ j → g.setbacks[k]? = some s → s.handled = 0) →
      p.delay.nanos ≤ q.delay.nanos := by
  intro g control retry
  have h : g.Sound setup := (Sound.start setup queue).run moves
  refine ⟨⟨life_run .., fun i s hs => ?_, ?_⟩, fun s hs => h.progressed_iff hs,
    ⟨h.not_gaveUp, fun m hm => ⟨fun s hs => ?_, h.gaveUp_iff hm⟩⟩,
    fun ending later hc => ended_run hc later, ⟨fun hc => ?_, fun i p hi => ?_⟩,
    fun i j p q hij hi hj hidle => ?_⟩
  · have hlength : (g.setbacks.take (i + 1)).length = i + 1 := by
      have hi := (List.getElem?_eq_some_iff.1 hs).1
      rw [List.length_take]
      omega
    refine ⟨exists_isRestart (List.ne_nil_of_length_eq_add_one hlength), fun j hj => ?_⟩
    have hcount := (h.tallied.take hs).count_eq hj
    rwa [hlength] at hcount
  · rcases hlast : g.setbacks.getLast? with _ | s
    · have ht := h.tallied
      rw [List.getLast?_eq_none_iff.1 hlast] at ht
      exact ht.eq_zero
    · exact (h.tallied.getLast? hlast).symm
  · have hspared := h.spared s hs
    rw [RetryPolicy.exhausted_of_some hm, decide_eq_false_iff_not] at hspared
    omega
  · have he : g.life.actor.control.engaged = true := congrArg Control.engaged hc
    obtain ⟨-, hlength, hopens⟩ := (standing_engaged he).1 h.standing
    have hone : g.life.actor.control.opens = 1 := congrArg Control.opens hc
    exact ⟨hlength, by omega⟩
  · obtain ⟨s, hs, hdelay, hlasted⟩ := h.waits i p hi
    refine ⟨s, hs, hdelay, hdelay ▸ retry.nanos_backoff_le _, fun hpos => ?_, fun hon => ?_⟩
    · rw [hdelay, h.tallied.count_eq_one hs hpos]
    · refine hlasted fun hleaving => ?_
      rcases hon with he | hstop
      · have he : g.life.actor.control.engaged = true := he
        rcases hleaving.between with hc | ⟨ending, hc⟩
        all_goals
          rw [hc] at he
          cases he
      · rw [hleaving.stopping] at hstop
        cases hstop
  · obtain ⟨s, hs, hdelay, -⟩ := h.waits i p hi
    obtain ⟨s', hs', hdelay', -⟩ := h.waits j q hj
    rw [hdelay, hdelay']
    apply RetryPolicy.nanos_backoff_mono
    have hmono := h.tallied.count_mono hij hs hs' hidle
    omega

/-- A receiver that gives up at the third failure in a row. -/
def impatient : Setup Command where
  config :=
    { address := .v4 127 0 0 1 9000, role := .ingress, bufferSize := 64,
      retry := { RetryPolicy.default with maxRetries := some 2 } }
  registry := Command.registry

/-- Two sockets cannot be opened, the third receives one byte that is no frame and
then breaks, and two more cannot be opened. The thread looks at the clock once too early
after the first. -/
def outage : List (Move Command) :=
  let go (now : Nat) := Move.step now .done
  let fail (now : Nat) := Move.step now (.failed (.ofKind .addrInUse))
  [[go 0, fail 0, go 40000000, go 50000000, go 50000000, fail 50000000],
    List.replicate 5 (go 150000000),
    [.step 150000000 (.received [0xFF] 1), go 150000000, go 150000000, fail 150000000],
    [go 200000000, go 200000000, fail 200000000],
    [go 300000000, go 300000000, fail 300000000]].flatten

theorem run_failures_outage :
    ((start []).run impatient outage).setbacks.map Setback.count = [1, 2, 1, 2, 3] ∧
    ((start []).run impatient outage).setbacks.map Setback.handled = [0, 0, 1, 0, 0] ∧
    ((start []).run impatient outage).pauses.map (fun p => (p.delay.nanos, p.ended)) =
      [(50000000, 50000000), (100000000, 150000000), (50000000, 200000000),
        (100000000, 300000000)] ∧
    ((start []).run impatient outage).life.actor.control =
      .ended (.gaveUp 3 (.ofKind .addrInUse)) := by
  have h := (run_failures impatient [] outage).2.2.1.2 2 rfl
  refine ⟨by decide +kernel, by decide +kernel, by decide +kernel, (h.2 3 _).2 ⟨rfl, ?_⟩⟩
  exact ⟨⟨0, .ofKind .addrInUse, 3, 300000000⟩, by decide +kernel, by decide, rfl⟩

end Ledger

end Endpoint
end Tagram
