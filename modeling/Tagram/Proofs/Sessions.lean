/-
# The course of a session

A session is on from the moment at which a thread sets out to open a socket. It
goes from one point of the thread to the next until one of three things
happens: it fails, the thread is told to stop, or the thread aborts.

`Actor.setback?` says from the reply of the socket alone what a session fails
with, and `Actor.handles` whether a step handles a datagram. Two theorems say
once what a step does to the session and to the count of failures: with a
setback the step is a failure (`Actor.step_setback`), and without one it goes on
as `Actor.Course` lists. A wait between two sessions ends when the thread is told
to stop or the clock shows its deadline, and not before. A third says what can be
seen of a step apart from its notes (`Actor.step_shows`).

Key definitions: `Call`, `Control.engaged`, `Control.progressed`, `Datagram.crash?`,
`Actor.setback?`, `Actor.handles`, `Actor.Aborts`, `Actor.shows`, `Actor.Course`.
Key theorems: `Actor.step_setback`, `Actor.step_course`, `Actor.step_shows`,
`Actor.closed_cases`.
-/
import Tagram.Proofs.ThreadLife

namespace Tagram

variable {μ : Type}

/-- What a session fails with when a decoder aborts on a datagram. -/
def Datagram.crash? (registry : Registry μ) (d : Bytes) : Option Net.SocketError :=
  match (decode registry d).stop with
  | .aborted reason => some (.custom .other ("decoder panicked: " ++ reason.getD "unknown panic"))
  | _ => none

theorem Datagram.crash?_eq_none {registry : Registry μ} {d : Bytes} :
    crash? registry d = none ↔ ∀ reason, (decode registry d).stop ≠ .aborted reason := by
  unfold crash?
  split
  · rename_i reason h
    simp [h]
  · rename_i h
    simpa using h

theorem Datagram.crash?_eq_some {registry : Registry μ} {d : Bytes} {source : Net.SocketError}
    (h : crash? registry d = some source) : ∃ reason, (decode registry d).stop = .aborted reason ∧
      source = .custom .other ("decoder panicked: " ++ reason.getD "unknown panic") := by
  unfold crash? at h
  split at h
  · rename_i reason hs
    exact ⟨reason, hs, (Option.some.inj h).symm⟩
  · cases h

namespace Endpoint

/-- The calls of a socket. -/
inductive Call where
  | opening
  /-- Setting the read timeout of the socket just opened. -/
  | arming
  | receiving
  | sending
  deriving DecidableEq

namespace Control

/-- The call that the next step makes. -/
def call? : Control μ → Option Call
  | .opening => some .opening
  | .arming => some .arming
  | .receiving _ => some .receiving
  | .sending _ _ _ => some .sending
  | _ => none

/-- Whether a session is on. -/
def engaged : Control μ → Bool
  | .idle | .pausing _ _ | .ended _ => false
  | _ => true

theorem engaged_of_session? {c : Control μ} {s : Session} (h : c.session? = some s) :
    c.engaged = true := by
  cases c with
  | idle | opening | arming | pausing | ended => cases h
  | _ => rfl

/-- Whether the thread notes that the session which is on has handled a datagram. -/
def progressed (c : Control μ) : Bool := (c.session?.map Session.progressed).getD false

end Control

namespace Actor

/-- What a session fails with in a step that gets this reply. -/
def setback? (setup : Setup μ) (reply : Reply) (a : Actor μ) : Option Net.SocketError :=
  match a.control, setup.config.role, reply with
  | .opening, _, .failed e => some e
  | .arming, _, .failed e => some e
  | .receiving _, _, .failed e => if e.isTimeout then none else some e
  | .sending _ _ _, .egress _, .failed e => some e
  | _, _, _ => (a.incoming? reply).bind (Datagram.crash? setup.registry)

/-- Whether a step that gets this reply handles a datagram: one that came in was
decoded and no decoder aborted, or the socket took one. -/
def handles (setup : Setup μ) (reply : Reply) (a : Actor μ) : Bool :=
  match a.control, setup.config.role, reply with
  | .sending _ _ _, .egress _, .done => true
  | .sending _ _ _, .egress _, .received _ _ => true
  | _, _, _ => (a.incoming? reply).any fun d => (Datagram.crash? setup.registry d).isNone

/-- Why a thread aborts. -/
inductive Aborts [WireMessage μ] (setup : Setup μ) (reply : Reply) (a : Actor μ) : Prop where
  /-- A call of the socket aborts. -/
  | call (hc : a.control.call?.isSome = true) (hr : reply = .aborted)
  /-- The receive buffer is too large to be allocated. -/
  | buffer (hc : a.control = .arming) (hi : setup.config.role = .ingress)
    (hs : allocationLimit ≤ setup.config.bufferSize)
  /-- The socket says that it received more than the buffer holds. -/
  | overlong (s : Session) (data : Bytes) (length : Nat) (hc : a.control = .receiving s)
    (hr : reply = .received data length) (hl : s.buffer.size < length)
  /-- Writing the message that the step takes aborts. -/
  | writer (s : Session) (m : μ) (rest : List μ) (hc : a.control = .taking s)
    (hq : a.queue = m :: rest) (hw : WireMessage.aborts m = true)
  /-- The thread is about to send, though it is to receive. -/
  | astray (s : Session) (tag : String) (frame : Bytes) (hc : a.control = .sending s tag frame)
    (hi : setup.config.role = .ingress)

/-- What a step shows besides its notes. -/
def shows (setup : Setup μ) (now : Nat) (reply : Reply) (a : Actor μ) : List Event :=
  match a.control, setup.config.role, reply with
  | .opening, _, _ => [.opened]
  | .arming, _, _ => [.timeoutSet setup.config.poll]
  | .sending _ _ _, .egress _, .aborted => []
  | .sending _ _ frame, .egress peer, .failed _ => [.handed frame peer false]
  | .sending _ _ frame, .egress peer, _ => [.handed frame peer true]
  | .pausing _ deadline, _, _ =>
    if a.stopping || deadline ≤ now then []
    else [.slept (min (deadline - now) setup.config.poll.nanos)]
  | _, _, _ => []

/-- How a step from `a` to `b` at the time `now` goes on without a setback. -/
inductive Course [WireMessage μ] (setup : Setup μ) (now : Nat) (reply : Reply) (a b : Actor μ) :
    Prop where
  /-- A session begins. -/
  | begun (hs : a.stopping = false) (ha : a.control = .idle) (hb : b.control = .opening)
  | opened (ha : a.control = .opening) (hb : b.control = .arming)
  | armed (size : Nat) (ha : a.control = .arming)
    (hb : b.control = .serving ⟨false, .zeroed size⟩)
  /-- The session goes on, and has progressed if the step handled a datagram. The
  messages that are then to be queued are all those of a datagram that came in and
  on which no decoder aborted. -/
  | served (s s' : Session) (ha : a.control.session? = some s) (hb : b.control.session? = some s')
    (hp : s'.progressed = (s.progressed || a.handles setup reply))
    (hq : ∀ s'' messages, b.control = .queueing s'' messages →
      ∃ d, a.incoming? reply = some d ∧ Datagram.crash? setup.registry d = none ∧
        messages = (Datagram.decode setup.registry d).messages)
  /-- The wait after a failure is over, or the thread is told to stop. -/
  | waited (delay : Duration) (deadline : Nat) (ho : a.stopping = true ∨ deadline ≤ now)
    (ha : a.control = .pausing delay deadline) (hb : b.control = .idle)
  /-- The wait goes on. -/
  | slept (delay : Duration) (deadline : Nat) (hs : a.stopping = false) (hd : now < deadline)
    (ha : a.control = .pausing delay deadline) (hb : b.control = .pausing delay deadline)
  /-- The thread is told to stop, before a session or in one. -/
  | stopped (hs : a.stopping = true) (ha : a.control = .idle ∨ ∃ s, a.control = .serving s)
    (hb : b.control = .ended .stopped)
  | aborted (h : a.Aborts setup reply) (ha : a.control.engaged = true)
    (hb : b.control = .ended .aborted)
  | finished (ending : Ending) (ha : a.control = .ended ending) (hb : b.control = .ended ending)

/-! ### What comes in -/

section

variable {setup : Setup μ} {now : Nat} {reply : Reply} {a : Actor μ} {s : Session}
  {data d : Bytes} {length : Nat}

theorem front?_fill_eq_none :
    (s.buffer.fill data).front? length = none ↔ s.buffer.size < length := by
  unfold Buffer.front?
  split_ifs with hle
  · exact ⟨(fun h => nomatch h), fun h => absurd h (Nat.not_lt.2 hle)⟩
  · exact ⟨fun _ => Nat.lt_of_not_le hle, fun _ => rfl⟩

theorem setback?_of_receiving (hc : a.control = .receiving s) (hr : ∀ e, reply ≠ .failed e) :
    a.setback? setup reply = (a.incoming? reply).bind (Datagram.crash? setup.registry) := by
  unfold setback?
  rw [hc]
  cases reply with
  | failed e => exact absurd rfl (hr e)
  | _ => rfl

theorem handles_of_receiving (hc : a.control = .receiving s) :
    a.handles setup reply =
      (a.incoming? reply).any fun d => (Datagram.crash? setup.registry d).isNone := by
  unfold handles
  rw [hc]

theorem Course.of_served [WireMessage μ] {b : Actor μ} {s' : Session}
    (ha : a.control.session? = some s) (hb : b.control.session? = some s')
    (hp : s'.progressed = (s.progressed || a.handles setup reply))
    (hq : ∀ s'' messages, b.control ≠ .queueing s'' messages) : Course setup now reply a b :=
  .served s s' ha hb hp fun s'' messages h => absurd h (hq s'' messages)

theorem engaged_of_setback? {source : Net.SocketError} (h : a.setback? setup reply = some source) :
    a.control.engaged = true := by
  obtain ⟨queue, stopping, failures, control⟩ := a
  cases control with
  | idle | pausing | ended => cases h
  | _ => rfl

theorem takes_of_ne_taking (h : ∀ s, a.control ≠ .taking s) : a.takes = [] := by
  unfold takes
  split
  · rename_i s hs
    exact absurd hs (h s)
  · rfl

theorem receive_of_crash (now : Nat) {source : Net.SocketError}
    (hf : (s.buffer.fill data).front? length = some d)
    (hc : Datagram.crash? setup.registry d = some source) :
    (a.receive setup now s data length).1 = (a.fail setup now source s.progressed).1 := by
  obtain ⟨reason, hs, rfl⟩ := Datagram.crash?_eq_some hc
  rw [receive_of_aborted now hf hs]

/-- What receiving does as long as no decoder aborts. -/
theorem receive_course [WireMessage μ] (now : Nat) (hc : a.control = .receiving s)
    (hin : a.incoming? reply = (s.buffer.fill data).front? length)
    (hover : s.buffer.size < length → a.Aborts setup reply)
    (hsafe : ∀ d, a.incoming? reply = some d → Datagram.crash? setup.registry d = none) :
    (a.receive setup now s data length).1.failures = a.failures ∧
      (a.receive setup now s data length).1.stopping = a.stopping ∧
      Course setup now reply a (a.receive setup now s data length).1 := by
  rcases hf : (s.buffer.fill data).front? length with _ | d
  · rw [receive_of_none now hf]
    exact ⟨rfl, rfl, .aborted (hover (front?_fill_eq_none.1 hf)) (by rw [hc]; rfl) rfl⟩
  · have hcrash := hsafe d (hin.trans hf)
    rw [receive_of_decoded now hf (Datagram.crash?_eq_none.1 hcrash)]
    refine ⟨rfl, rfl, .served s ⟨true, s.buffer.fill data⟩ (by rw [hc]; rfl) rfl ?_ ?_⟩
    · rw [handles_of_receiving hc, hin, hf, Option.any_some, hcrash]
      simp
    · rintro s'' messages hmessages
      cases hmessages
      exact ⟨d, hin.trans hf, hcrash, rfl⟩

end

/-! ### Failing -/

/-- What a failure does to the count, and where the thread stands after it. -/
theorem fail_control (setup : Setup μ) (now : Nat) (a : Actor μ) (source : Net.SocketError)
    (progressed : Bool) {n : Nat}
    (hn : n = min maxFailures ((if progressed then 0 else a.failures) + 1)) :
    (a.fail setup now source progressed).1.failures = n ∧
    (a.fail setup now source progressed).1.control =
      if setup.config.retry.exhausted n then .ended (.gaveUp n source)
      else if reachable now (setup.config.retry.backoff (n - 1)) then
        .pausing (setup.config.retry.backoff (n - 1))
          (now + (setup.config.retry.backoff (n - 1)).nanos)
      else .ended .aborted := by
  subst hn
  unfold fail
  dsimp only
  split_ifs <;> exact ⟨rfl, rfl⟩

theorem stopping_fail (setup : Setup μ) (now : Nat) (a : Actor μ) (source : Net.SocketError)
    (progressed : Bool) : (a.fail setup now source progressed).1.stopping = a.stopping := by
  unfold fail
  dsimp only
  split_ifs <;> rfl

theorem fail_engaged (setup : Setup μ) (now : Nat) (a : Actor μ) (source : Net.SocketError)
    (progressed : Bool) : (a.fail setup now source progressed).1.control.engaged = false := by
  rw [(fail_control setup now a source progressed rfl).2]
  split_ifs <;> rfl

/-! ### Notes -/

theorem noted_fail (setup : Setup μ) (now : Nat) (a : Actor μ) (source : Net.SocketError)
    (progressed : Bool) :
    ∀ e ∈ (a.fail setup now source progressed).2, ∃ note, e = .noted note := by
  unfold fail
  dsimp only
  split_ifs <;> simp

theorem noted_receive (setup : Setup μ) (now : Nat) (a : Actor μ) (s : Session) (data : Bytes)
    (length : Nat) : ∀ e ∈ (a.receive setup now s data length).2, ∃ note, e = .noted note := by
  intro e he
  rcases hf : (s.buffer.fill data).front? length with _ | d
  · rw [receive_of_none now hf] at he
    cases he
  by_cases hs : ∃ reason, (Datagram.decode setup.registry d).stop = .aborted reason
  · obtain ⟨reason, hs⟩ := hs
    rw [receive_of_aborted now hf hs, List.mem_append, List.mem_cons] at he
    rcases he with he | rfl | he
    · obtain ⟨f, -, rfl⟩ := List.mem_map.1 he
      exact ⟨_, rfl⟩
    · exact ⟨_, rfl⟩
    · exact noted_fail _ _ _ _ _ e he
  · rw [receive_of_decoded now hf fun reason h => hs ⟨reason, h⟩, List.mem_append] at he
    rcases he with he | he
    all_goals
      obtain ⟨f, -, rfl⟩ := List.mem_map.1 he
      exact ⟨_, rfl⟩

/-! ### Steps in a session -/

section

variable [WireMessage μ] {setup : Setup μ} {now : Nat} {reply : Reply} {a : Actor μ} {s : Session}

theorem step_listen (hr : setup.config.role = .ingress) (hc : a.control = .serving s)
    (hs : a.stopping = false) : a.step setup now reply = (a.goto (.receiving s), []) := by
  simp [step, hc, hs, hr]

theorem step_turn {peer : Net.Address} (hr : setup.config.role = .egress peer)
    (hc : a.control = .serving s) (hs : a.stopping = false) :
    a.step setup now reply = (a.goto (.taking s), []) := by
  simp [step, hc, hs, hr]

theorem step_expire {e : Net.SocketError} (hc : a.control = .receiving s)
    (ht : e.isTimeout = true) : a.step setup now (.failed e) = (a.goto (.serving s), []) := by
  simp [step, hc, ht]

theorem step_lack (hc : a.control = .taking s) (hq : a.queue = []) :
    a.step setup now reply = (a.goto (.serving s), []) := by
  simp [step, take, hc, hq]

theorem step_spoil {m : μ} {rest : List μ} (hc : a.control = .taking s)
    (hq : a.queue = m :: rest) (hw : WireMessage.aborts m = true) :
    a.step setup now reply = ({ a with queue := rest, control := .ended .aborted }, []) := by
  simp [step, take, hc, hq, hw, abort, goto]

theorem step_drop {m : μ} {rest : List μ} {cause : CodecError} (hc : a.control = .taking s)
    (hq : a.queue = m :: rest) (hw : WireMessage.aborts m = false)
    (he : Frame.encode m = .error cause) :
    a.step setup now reply = ({ a with queue := rest, control := .serving s },
      [.noted (.unwritable (WireMessage.tag m) cause)]) := by
  simp [step, take, hc, hq, hw, he, goto]

theorem step_write {m : μ} {rest : List μ} {frame : Bytes} (hc : a.control = .taking s)
    (hq : a.queue = m :: rest) (hw : WireMessage.aborts m = false)
    (he : Frame.encode m = .ok frame) :
    a.step setup now reply =
      ({ a with queue := rest, control := .sending s (WireMessage.tag m) frame }, []) := by
  simp [step, take, hc, hq, hw, he, goto]

theorem step_wake {delay : Duration} {deadline : Nat} (hc : a.control = .pausing delay deadline)
    (ho : a.stopping = true ∨ deadline ≤ now) : a.step setup now reply = (a.goto .idle, []) := by
  have hover : (a.stopping || decide (deadline ≤ now)) = true := by simpa using ho
  simp only [step, hc, hover, if_true]

theorem step_sleep {delay : Duration} {deadline : Nat} (hc : a.control = .pausing delay deadline)
    (hs : a.stopping = false) (hd : now < deadline) : a.step setup now reply =
      (a, [.slept (min (deadline - now) setup.config.poll.nanos)]) := by
  simp [step, hc, hs, Nat.not_le.2 hd]

variable {tag : String} {frame : Bytes}

theorem step_astray (hr : setup.config.role = .ingress) (hc : a.control = .sending s tag frame) :
    a.step setup now reply = a.abort := by
  simp [step, hc, hr]

variable {peer : Net.Address}

theorem step_send (hr : setup.config.role = .egress peer) (hc : a.control = .sending s tag frame)
    (hf : ∀ e, reply ≠ .failed e) (ha : reply ≠ .aborted) :
    a.step setup now reply = (a.goto (.serving { s with progressed := true }),
      [.handed frame peer true, .noted (.sent tag frame.length peer)]) := by
  cases reply with
  | failed e => exact absurd rfl (hf e)
  | aborted => exact absurd rfl ha
  | _ => simp [step, hc, hr]

theorem step_refuse {e : Net.SocketError} (hr : setup.config.role = .egress peer)
    (hc : a.control = .sending s tag frame) :
    a.step setup now (.failed e) = ((a.fail setup now e s.progressed).1,
      .handed frame peer false :: (a.fail setup now e s.progressed).2) := by
  simp [step, hc, hr]

theorem step_abort (hr : setup.config.role = .egress peer) (hc : a.control = .sending s tag frame) :
    a.step setup now .aborted = a.abort := by
  simp [step, hc, hr]

end

/-! ### Every step -/

section

variable [WireMessage μ] {reply : Reply} {a : Actor μ}

/-- **A setback is a failure**: it is counted, and the thread waits or gives up. -/
theorem step_setback {setup : Setup μ} (now : Nat) {source : Net.SocketError}
    (h : a.setback? setup reply = some source) :
    (a.step setup now reply).1 = (a.fail setup now source a.control.progressed).1 := by
  obtain ⟨queue, stopping, failures, control⟩ := a
  cases control with
  | opening =>
    cases reply with
    | failed e =>
      obtain rfl : e = source := Option.some.inj h
      rfl
    | _ => cases h
  | arming =>
    cases reply with
    | failed e =>
      obtain rfl : e = source := Option.some.inj h
      rfl
    | _ => cases h
  | receiving s =>
    cases reply with
    | failed e =>
      by_cases ht : e.isTimeout = true
      · simp [setback?, ht] at h
      · obtain rfl : e = source := by simpa [setback?, ht] using h
        simp [step, ht, Control.progressed, Control.session?]
    | received data length =>
      rw [setback?_of_receiving rfl (by simp), Option.bind_eq_some_iff] at h
      obtain ⟨d, hd, hc⟩ := h
      exact receive_of_crash now hd hc
    | done =>
      rw [setback?_of_receiving rfl (by simp), Option.bind_eq_some_iff] at h
      obtain ⟨d, hd, hc⟩ := h
      exact receive_of_crash now hd hc
    | aborted => cases h
  | sending s tag frame =>
    cases hr : setup.config.role with
    | ingress => simp [setback?, hr, incoming?] at h
    | egress peer =>
      cases reply with
      | failed e =>
        obtain rfl : e = source := by simpa [setback?, hr] using h
        simp [step, hr, Control.progressed, Control.session?]
      | _ => simp [setback?, hr, incoming?] at h
  | _ => cases h

/-- What a setback comes to: it is counted, and the thread gives up, waits or aborts. -/
theorem setback_control {setup : Setup μ} (now : Nat) {source : Net.SocketError}
    (h : a.setback? setup reply = some source) {b : Actor μ}
    (hb : b = (a.step setup now reply).1) :
    b.failures = min maxFailures ((if a.control.progressed then 0 else a.failures) + 1) ∧
    b.control =
      if setup.config.retry.exhausted b.failures then .ended (.gaveUp b.failures source)
      else if reachable now (setup.config.retry.backoff (b.failures - 1)) then
        .pausing (setup.config.retry.backoff (b.failures - 1))
          (now + (setup.config.retry.backoff (b.failures - 1)).nanos)
      else .ended .aborted := by
  obtain ⟨hfailures, hcontrol⟩ := fail_control setup now a source a.control.progressed rfl
  rw [← step_setback now h, ← hb] at hfailures hcontrol
  rw [← hfailures] at hcontrol
  exact ⟨hfailures, hcontrol⟩

/-- **How a thread goes on without a setback**: the count of failures stays, and
the session begins, goes on or ends, or the wait does, as `Course` lists. -/
theorem step_course {setup : Setup μ} (now : Nat) (h : a.setback? setup reply = none) :
    (a.step setup now reply).1.failures = a.failures ∧
      (a.step setup now reply).1.stopping = a.stopping ∧
      Course setup now reply a (a.step setup now reply).1 := by
  obtain ⟨queue, stopping, failures, control⟩ := a
  cases control with
  | idle =>
    cases stopping with
    | true => exact ⟨rfl, rfl, .stopped rfl (.inl rfl) rfl⟩
    | false => exact ⟨rfl, rfl, .begun rfl rfl rfl⟩
  | opening =>
    cases reply with
    | aborted => exact ⟨rfl, rfl, .aborted (.call rfl rfl) rfl rfl⟩
    | failed e => cases h
    | _ => exact ⟨rfl, rfl, .opened rfl rfl⟩
  | arming =>
    cases reply with
    | aborted => exact ⟨rfl, rfl, .aborted (.call rfl rfl) rfl rfl⟩
    | failed e => cases h
    | _ =>
      refine ⟨rfl, rfl, ?_⟩
      cases hr : setup.config.role with
      | ingress =>
        by_cases hs : setup.config.bufferSize < allocationLimit
        · exact .armed setup.config.bufferSize rfl (by simp [step, goto, hr, hs])
        · exact .aborted (.buffer rfl hr (Nat.le_of_not_lt hs)) rfl (by simp [step, goto, hr, hs])
      | egress peer => exact .armed 0 rfl (by simp [step, goto, hr, allocationLimit])
  | serving s =>
    cases stopping with
    | true => exact ⟨rfl, rfl, .stopped rfl (.inr ⟨s, rfl⟩) rfl⟩
    | false =>
      cases hr : setup.config.role with
      | ingress =>
        rw [step_listen hr rfl rfl]
        exact ⟨rfl, rfl, .of_served rfl rfl (by simp [handles, incoming?]) (by simp [goto])⟩
      | egress peer =>
        rw [step_turn hr rfl rfl]
        exact ⟨rfl, rfl, .of_served rfl rfl (by simp [handles, incoming?]) (by simp [goto])⟩
  | receiving s =>
    cases reply with
    | aborted => exact ⟨rfl, rfl, .aborted (.call rfl rfl) rfl rfl⟩
    | failed e =>
      by_cases ht : e.isTimeout = true
      · rw [step_expire rfl ht]
        exact ⟨rfl, rfl, .of_served rfl rfl (by simp [handles, incoming?]) (by simp [goto])⟩
      · simp [setback?, ht] at h
    | received data length =>
      rw [setback?_of_receiving rfl (by simp), Option.bind_eq_none_iff] at h
      exact receive_course now rfl rfl (fun hl => .overlong s data length rfl rfl hl) h
    | done =>
      rw [setback?_of_receiving rfl (by simp), Option.bind_eq_none_iff] at h
      exact receive_course now rfl rfl (fun hl => absurd hl (Nat.not_lt_zero _)) h
  | queueing s messages =>
    exact ⟨rfl, rfl, .of_served rfl rfl (by simp [handles, incoming?]) (by simp [step])⟩
  | taking s =>
    have hidle : s.progressed = (s.progressed || handles setup reply
        ⟨queue, stopping, failures, .taking s⟩) := by simp [handles, incoming?]
    cases queue with
    | nil =>
      rw [step_lack rfl rfl]
      exact ⟨rfl, rfl, .of_served rfl rfl hidle (by simp [goto])⟩
    | cons m rest =>
      rcases hw : WireMessage.aborts m with _ | _
      swap
      · rw [step_spoil rfl rfl hw]
        exact ⟨rfl, rfl, .aborted (.writer s m rest rfl rfl hw) rfl rfl⟩
      rcases he : Frame.encode m with cause | frame
      · rw [step_drop rfl rfl hw he]
        exact ⟨rfl, rfl, .of_served rfl rfl hidle (by simp)⟩
      · rw [step_write rfl rfl hw he]
        exact ⟨rfl, rfl, .of_served rfl rfl hidle (by simp)⟩
  | sending s tag frame =>
    cases hr : setup.config.role with
    | ingress =>
      rw [step_astray hr rfl]
      exact ⟨rfl, rfl, .aborted (.astray s tag frame rfl hr) rfl rfl⟩
    | egress peer =>
      cases reply with
      | aborted =>
        rw [step_abort hr rfl]
        exact ⟨rfl, rfl, .aborted (.call rfl rfl) rfl rfl⟩
      | failed e => simp [setback?, hr] at h
      | _ =>
        rw [step_send hr rfl (by simp) (by simp)]
        exact ⟨rfl, rfl, .of_served rfl rfl (by simp [handles, hr]) (by simp [goto])⟩
  | pausing delay deadline =>
    by_cases hover : stopping = true ∨ deadline ≤ now
    · rw [step_wake rfl hover]
      exact ⟨rfl, rfl, .waited delay deadline hover rfl rfl⟩
    · rw [not_or, Bool.not_eq_true, Nat.not_le] at hover
      rw [step_sleep rfl hover.1 hover.2]
      exact ⟨rfl, rfl, .slept delay deadline hover.1 hover.2 rfl rfl⟩
  | ended ending => exact ⟨rfl, rfl, .finished ending rfl rfl⟩

/-- A thread does not touch its stop flag. -/
theorem stopping_step (setup : Setup μ) (now : Nat) (reply : Reply) (a : Actor μ) :
    (a.step setup now reply).1.stopping = a.stopping := by
  rcases hs : a.setback? setup reply with _ | source
  · exact (step_course now hs).2.1
  · rw [step_setback now hs]
    exact stopping_fail ..

/-- **What a step shows**, for every point of the thread and every reply. -/
theorem step_shows (setup : Setup μ) (now : Nat) (reply : Reply) (a : Actor μ) :
    ∃ rest, (a.step setup now reply).2 = a.shows setup now reply ++ rest ∧
      ∀ e ∈ rest, ∃ note, e = .noted note := by
  obtain ⟨queue, stopping, failures, control⟩ := a
  cases control with
  | idle =>
    cases stopping with
    | true => exact ⟨[.noted .stopped], rfl, by simp⟩
    | false => exact ⟨[], rfl, by simp⟩
  | opening =>
    cases reply with
    | failed e => exact ⟨_, rfl, noted_fail _ _ _ _ _⟩
    | _ => exact ⟨[], rfl, by simp⟩
  | arming =>
    cases reply with
    | failed e => exact ⟨_, rfl, noted_fail _ _ _ _ _⟩
    | aborted => exact ⟨[], rfl, by simp⟩
    | _ => exact ⟨[.noted .bound], rfl, by simp⟩
  | serving s =>
    cases stopping with
    | true => exact ⟨[.noted .stopped], rfl, by simp⟩
    | false =>
      cases hr : setup.config.role with
      | ingress =>
        rw [step_listen hr rfl rfl]
        exact ⟨[], rfl, by simp⟩
      | egress peer =>
        rw [step_turn hr rfl rfl]
        exact ⟨[], rfl, by simp⟩
  | receiving s =>
    cases reply with
    | failed e =>
      by_cases ht : e.isTimeout = true
      · rw [step_expire rfl ht]
        exact ⟨[], rfl, by simp⟩
      · simp only [step, ht]
        exact ⟨_, rfl, noted_fail _ _ _ _ _⟩
    | received data length => exact ⟨_, rfl, noted_receive _ _ _ _ _ _⟩
    | done => exact ⟨_, rfl, noted_receive _ _ _ _ _ _⟩
    | aborted => exact ⟨[], rfl, by simp⟩
  | taking s =>
    cases queue with
    | nil =>
      rw [step_lack rfl rfl]
      exact ⟨[], rfl, by simp⟩
    | cons m rest =>
      rcases hw : WireMessage.aborts m with _ | _
      swap
      · rw [step_spoil rfl rfl hw]
        exact ⟨[], rfl, by simp⟩
      rcases he : Frame.encode m with cause | frame
      · rw [step_drop rfl rfl hw he]
        exact ⟨_, rfl, by simp⟩
      · rw [step_write rfl rfl hw he]
        exact ⟨[], rfl, by simp⟩
  | sending s tag frame =>
    cases hr : setup.config.role with
    | ingress =>
      rw [step_astray hr rfl]
      exact ⟨[], by simp only [shows, hr]; rfl, by simp⟩
    | egress peer =>
      simp only [shows, hr]
      cases reply with
      | failed e =>
        rw [step_refuse hr rfl]
        exact ⟨_, rfl, noted_fail _ _ _ _ _⟩
      | aborted =>
        rw [step_abort hr rfl]
        exact ⟨[], rfl, by simp⟩
      | _ =>
        rw [step_send hr rfl (by simp) (by simp)]
        exact ⟨[_], rfl, by simp⟩
  | pausing delay deadline =>
    refine ⟨[], ?_, by simp⟩
    simp only [step, shows, List.append_nil]
    split_ifs <;> rfl
  | queueing s messages | ended ending => exact ⟨[], rfl, by simp⟩

/-- What can be seen of a step apart from its notes. -/
theorem filterMap_step {β : Type} {f : Event → Option β} (hf : ∀ note, f (.noted note) = none)
    (setup : Setup μ) (now : Nat) (reply : Reply) (a : Actor μ) :
    (a.step setup now reply).2.filterMap f = (a.shows setup now reply).filterMap f := by
  obtain ⟨rest, hevents, hnoted⟩ := step_shows setup now reply a
  have hrest : rest.filterMap f = [] := by
    refine List.filterMap_eq_nil_iff.2 fun e he => ?_
    obtain ⟨note, rfl⟩ := hnoted e he
    exact hf note
  rw [hevents, List.filterMap_append, hrest, List.append_nil]

/-- **What a session ends with**: a setback, the stop flag, or an abort. -/
theorem closed_cases {setup : Setup μ} (now : Nat) (he : a.control.engaged = true)
    (hoff : (a.step setup now reply).1.control.engaged = false) :
    (∃ source, a.setback? setup reply = some source) ∨
      (∃ s, a.control = .serving s ∧ a.stopping = true) ∨ a.Aborts setup reply := by
  rcases hs : a.setback? setup reply with _ | source
  swap
  · exact .inl ⟨source, rfl⟩
  cases (step_course now hs).2.2 with
  | begun _ ha _ | waited _ _ _ ha _ | slept _ _ _ _ ha _ | finished _ ha _ =>
    rw [ha] at he
    cases he
  | opened _ hb | armed _ _ hb =>
    rw [hb] at hoff
    cases hoff
  | served s s' _ hb _ _ => exact absurd (Control.engaged_of_session? hb) (by simp [hoff])
  | stopped hstop ha _ =>
    rcases ha with ha | ⟨s, ha⟩
    · rw [ha] at he
      cases he
    · exact .inr (.inl ⟨s, ha, hstop⟩)
  | aborted h _ _ => exact .inr (.inr h)

theorem engaged_of_setback {setup : Setup μ} (now : Nat) {source : Net.SocketError}
    (h : a.setback? setup reply = some source) :
    (a.step setup now reply).1.control.engaged = false := by
  rw [step_setback now h]
  exact fail_engaged ..

theorem engaged_of_stopping (setup : Setup μ) (now : Nat) {s : Session}
    (hc : a.control = .serving s) (hs : a.stopping = true) :
    (a.step setup now reply).1.control.engaged = false := by
  simp [step, hc, hs, halt, goto, Control.engaged]

end

end Actor
end Endpoint
end Tagram
