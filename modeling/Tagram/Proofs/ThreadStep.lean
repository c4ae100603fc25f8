/-
# What a step of a thread does

A thread has work in hand at two points of its loop: the messages of a datagram
that it is about to queue, and the frame that it is about to send.
`Actor.stepped` says once, for every point of the thread and every reply of its
socket, what a step does to the queue and to the work in hand. What holds along
a whole run is derived from it.

Key definitions: `Datagram.yield`, `Frame.writable`, `Control.pending`,
`Control.unsent`, `Actor.takes`, `Actor.incoming?`, `Actor.Stepped`.
Key theorems: `Actor.fail_spec`, `Actor.stepped`.
-/
import Mathlib
import Tagram.Endpoint.Actor

namespace Tagram

variable {μ : Type}

/-- The messages that a thread queues for a datagram: none if a decoder aborts
on it. -/
def Datagram.yield (registry : Registry μ) (d : Bytes) : List μ :=
  match (decode registry d).stop with
  | .aborted _ => []
  | _ => (decode registry d).messages

theorem Datagram.yield_of_decoded {registry : Registry μ} {d : Bytes}
    (h : ∀ reason, (decode registry d).stop ≠ .aborted reason) :
    yield registry d = (decode registry d).messages := by
  unfold yield
  split
  · rename_i reason hr
    exact absurd hr (h reason)
  · rfl

/-- The frames of the messages that can be written. -/
def Frame.writable [WireMessage μ] (ms : List μ) : List Bytes :=
  ms.filterMap fun m => (encode m).toOption

theorem Frame.writable_append [WireMessage μ] (ms ns : List μ) :
    writable (ms ++ ns) = writable ms ++ writable ns := List.filterMap_append

theorem Frame.writable_singleton [WireMessage μ] (m : μ) :
    writable [m] = (encode m).toOption.toList := by
  rcases he : (encode m).toOption with _ | frame <;> simp only [writable, List.filterMap, he] <;> rfl

namespace Endpoint

/-! ### What a thread has in hand -/

namespace Control

/-- The messages that the thread is about to queue. -/
def pending : Control μ → List μ
  | .queueing _ messages => messages
  | _ => []

/-- The frame that the thread is about to hand to its socket. -/
def unsent : Control μ → List Bytes
  | .sending _ _ frame => [frame]
  | _ => []

/-- The session that the thread is in. -/
def session? : Control μ → Option Session
  | .serving s | .receiving s | .queueing s _ | .taking s | .sending s _ _ => some s
  | _ => none

/-- Whether a thread of this role can be at this point. -/
def suits : Role → Control μ → Bool
  | .ingress, .taking _ | .ingress, .sending _ _ _ => false
  | .egress _, .receiving _ | .egress _, .queueing _ _ => false
  | _, _ => true

theorem of_session?_eq_none {c : Control μ} (h : c.session? = none) :
    c.pending = [] ∧ c.unsent = [] ∧ ∀ role, c.suits role = true := by
  cases c with
  | idle | opening | arming | pausing | ended => exact ⟨rfl, rfl, fun role => by cases role <;> rfl⟩
  | _ => cases h

theorem pending_of_egress {c : Control μ} {peer : Net.Address} (h : c.suits (.egress peer) = true) :
    c.pending = [] := by
  cases c with
  | queueing => cases h
  | _ => rfl

end Control

/-- The frame that an event hands to the socket, accepted or not. -/
def Event.frame? : Event → Option Bytes
  | .handed frame _ _ => some frame
  | _ => none

/-- Whether an event reports a datagram that could not be decoded to its end. -/
def Event.isDecodeError : Event → Bool
  | .noted (.faulty _ _) | .noted (.decoderAborted _ _) => true
  | _ => false

/-- The frames that events hand to the socket. -/
def framesOf (events : List Event) : List Bytes := events.filterMap Event.frame?

theorem framesOf_append (events later : List Event) :
    framesOf (events ++ later) = framesOf events ++ framesOf later := List.filterMap_append

theorem framesOf_eq_nil {events : List Event} (h : ∀ e ∈ events, e.frame? = none) :
    framesOf events = [] := List.filterMap_eq_nil_iff.2 h

theorem framesOf_handed (frame : Bytes) (peer : Net.Address) (accepted : Bool)
    (events : List Event) :
    framesOf (.handed frame peer accepted :: events) = frame :: framesOf events := rfl

namespace Actor

/-- The messages that the next step takes off the queue. -/
def takes (a : Actor μ) : List μ :=
  match a.control with
  | .taking _ => a.queue.take 1
  | _ => []

/-- The datagram that the next step finds in its buffer after this reply. -/
def incoming? (a : Actor μ) (reply : Reply) : Option Bytes :=
  match a.control, reply with
  | .receiving s, .received data length => (s.buffer.fill data).front? length
  | .receiving s, .done => (s.buffer.fill []).front? 0
  | _, _ => none

/-- Every session has a buffer of the configured size. -/
def Sized (setup : Setup μ) (a : Actor μ) : Prop :=
  ∀ s, a.control.session? = some s → s.buffer.size = setup.config.bufferSize

/-! ### What a step does -/

/-- What a step from `a` to `b` does, as far as the queue and the work in hand
are concerned. -/
structure Stepped [WireMessage μ] (setup : Setup μ) (reply : Reply) (a b : Actor μ)
    (events : List Event) : Prop where
  /-- The step queues what was in hand and takes off what it takes. -/
  queue : a.takes ++ b.queue = a.queue ++ a.control.pending
  /-- In hand are then the messages of the datagram that came in. -/
  pending : b.control.pending =
    (a.incoming? reply).toList.flatMap (Datagram.yield setup.registry)
  /-- A frame in hand is handed over, and a message taken is written; a frame is
  lost only if the thread aborts. -/
  frames : ∃ lost, a.control.unsent ++ Frame.writable a.takes =
    framesOf events ++ b.control.unsent ++ lost ∧ (lost ≠ [] → b.control = .ended .aborted)
  suits : a.control.suits setup.config.role = true → b.control.suits setup.config.role = true
  sized : setup.config.role = .ingress → a.Sized setup → b.Sized setup
  /-- A decoding error is about the datagram that came in. -/
  clean : ∀ e ∈ events, e.isDecodeError = true →
    ∃ d, a.incoming? reply = some d ∧ (Datagram.decode setup.registry d).stop ≠ .incomplete
  ended : ∀ e, a.control = .ended e → b.control = .ended e

/-- Failing closes the session, leaves the queue alone and reports the failure
only. -/
theorem fail_spec (setup : Setup μ) (now : Nat) (a : Actor μ) (source : Net.SocketError)
    (progressed : Bool) :
    (a.fail setup now source progressed).1.queue = a.queue ∧
    (a.fail setup now source progressed).1.control.session? = none ∧
    ∀ e ∈ (a.fail setup now source progressed).2, e.frame? = none ∧ e.isDecodeError = false := by
  unfold fail
  dsimp only
  split_ifs <;> simp [goto, Control.session?, Event.frame?, Event.isDecodeError]

section

variable [WireMessage μ] {setup : Setup μ} {reply : Reply} {a b : Actor μ} {events : List Event}

/-- A step that finds no work in hand and takes no message. -/
theorem Stepped.of_free (ht : a.takes = []) (hp : a.control.pending = [])
    (hu : a.control.unsent = []) (hq : b.queue = a.queue)
    (hb : b.control.pending = (a.incoming? reply).toList.flatMap (Datagram.yield setup.registry))
    (hbu : b.control.unsent = [])
    (hsu : a.control.suits setup.config.role = true → b.control.suits setup.config.role = true)
    (hsz : setup.config.role = .ingress → a.Sized setup → b.Sized setup)
    (hf : ∀ e ∈ events, e.frame? = none)
    (hcl : ∀ e ∈ events, e.isDecodeError = true →
      ∃ d, a.incoming? reply = some d ∧ (Datagram.decode setup.registry d).stop ≠ .incomplete)
    (hend : ∀ e, a.control = .ended e → b.control = .ended e) :
    Stepped setup reply a b events where
  queue := by rw [ht, hp, hq, List.nil_append, List.append_nil]
  pending := hb
  frames := ⟨[], by rw [hu, ht, hbu, framesOf_eq_nil hf]; rfl,
    fun h => absurd rfl h⟩
  suits := hsu
  sized := hsz
  clean := hcl
  ended := hend

/-- A step that closes the session, or stays between two sessions. -/
theorem Stepped.of_closed (hin : a.incoming? reply = none) (ht : a.takes = [])
    (hp : a.control.pending = []) (hu : a.control.unsent = []) (hq : b.queue = a.queue)
    (hb : b.control.session? = none)
    (he : ∀ e ∈ events, e.frame? = none ∧ e.isDecodeError = false)
    (hend : ∀ e, a.control = .ended e → b.control = .ended e) :
    Stepped setup reply a b events := by
  obtain ⟨h1, h2, h3⟩ := Control.of_session?_eq_none hb
  refine .of_free ht hp hu hq (by rw [h1, hin]; rfl) h2 (fun _ => h3 _)
    (fun _ _ s h => ?_) (fun e hm => (he e hm).1) (fun e hm herr => ?_) hend
  · rw [hb] at h
    cases h
  · rw [(he e hm).2] at herr
    cases herr

end

/-! ### Receiving -/

/-- What is traced of the frames of a datagram. -/
def traces (report : Datagram.Report μ) : List Event :=
  report.frames.map fun p => .noted (.decoded p.trace)

theorem traces_quiet (report : Datagram.Report μ) :
    ∀ e ∈ traces report, e.frame? = none ∧ e.isDecodeError = false := by
  simp [traces, Event.frame?, Event.isDecodeError]

theorem reportNotes_quiet (report : Datagram.Report μ) :
    ∀ e ∈ (reportNotes report).map Event.noted,
      e.frame? = none ∧ (e.isDecodeError = true → report.fault? ≠ none) := by
  unfold reportNotes
  rcases report.fault? with _ | cause
  · by_cases ht : 0 < report.trailing <;> simp [ht, Event.frame?, Event.isDecodeError]
  · simp [Event.frame?, Event.isDecodeError]

section

variable {setup : Setup μ} {a : Actor μ} {s : Session} {data d : Bytes} {length : Nat}

theorem receive_of_none (now : Nat) (h : (s.buffer.fill data).front? length = none) :
    a.receive setup now s data length = a.abort := by
  simp only [receive, h]

theorem receive_of_aborted (now : Nat) {reason : Option String}
    (h : (s.buffer.fill data).front? length = some d)
    (hs : (Datagram.decode setup.registry d).stop = .aborted reason) :
    a.receive setup now s data length =
      let text := reason.getD "unknown panic"
      let failed := a.fail setup now (.custom .other ("decoder panicked: " ++ text)) s.progressed
      (failed.1, traces (Datagram.decode setup.registry d) ++
        .noted (.decoderAborted length text) :: failed.2) := by
  simp only [receive, h, hs, traces]

theorem receive_of_decoded (now : Nat) (h : (s.buffer.fill data).front? length = some d)
    (hs : ∀ reason, (Datagram.decode setup.registry d).stop ≠ .aborted reason) :
    a.receive setup now s data length =
      (a.goto (.queueing ⟨true, s.buffer.fill data⟩ (Datagram.decode setup.registry d).messages),
        traces (Datagram.decode setup.registry d) ++
          (reportNotes (Datagram.decode setup.registry d)).map Event.noted) := by
  simp only [receive, h, traces]

/-- The work in hand when the socket says that it received a datagram. -/
theorem stepped_receive [WireMessage μ] {reply : Reply} (now : Nat) (hc : a.control = .receiving s)
    (hin : a.incoming? reply = (s.buffer.fill data).front? length) :
    Stepped setup reply a (a.receive setup now s data length).1
      (a.receive setup now s data length).2 := by
  have ht : a.takes = [] := by rw [takes, hc]
  have hp : a.control.pending = [] := by rw [hc]; rfl
  have hu : a.control.unsent = [] := by rw [hc]; rfl
  have hend : ∀ (c : Control μ) e, a.control = .ended e → c = .ended e := by simp [hc]
  rcases hf : (s.buffer.fill data).front? length with _ | d
  · rw [receive_of_none now hf]
    exact .of_closed (hin.trans hf) ht hp hu rfl rfl (by simp [abort]) (hend _)
  rw [hf] at hin
  by_cases hs : ∃ reason, (Datagram.decode setup.registry d).stop = .aborted reason
  · obtain ⟨reason, hs⟩ := hs
    rw [receive_of_aborted now hf hs]
    obtain ⟨hq, hses, hev⟩ := fail_spec setup now a
      (.custom .other ("decoder panicked: " ++ reason.getD "unknown panic")) s.progressed
    obtain ⟨h1, h2, h3⟩ := Control.of_session?_eq_none hses
    have hy : Datagram.yield setup.registry d = [] := by rw [Datagram.yield, hs]
    refine .of_free ht hp hu hq (by rw [hin, h1]; simp [hy]) h2 (fun _ => h3 _)
      (fun _ _ s h => ?_) (fun e he => ?_) (fun _ _ _ => ⟨d, hin, by rw [hs]; simp⟩) (hend _)
    · rw [hses] at h
      cases h
    · rcases List.mem_append.1 he with he | he
      · exact (traces_quiet _ e he).1
      · rcases List.mem_cons.1 he with rfl | he
        · rfl
        · exact (hev e he).1
  · have hs' : ∀ reason, (Datagram.decode setup.registry d).stop ≠ .aborted reason :=
      fun reason h => hs ⟨reason, h⟩
    rw [receive_of_decoded now hf hs']
    refine .of_free ht hp hu rfl ?_ rfl (fun h => ?_) (fun _ hz s' h => ?_) (fun e he => ?_)
      (fun e he herr => ⟨d, hin, fun hstop => ?_⟩) (hend _)
    · rw [hin, Option.toList_some, List.flatMap_singleton, Datagram.yield_of_decoded hs']
      rfl
    · rw [hc] at h
      cases hr : setup.config.role with
      | ingress => rfl
      | egress peer => rw [hr] at h; cases h
    · cases h
      exact hz s (by rw [hc]; rfl)
    · rcases List.mem_append.1 he with he | he
      · exact (traces_quiet _ e he).1
      · exact (reportNotes_quiet _ e he).1
    · rcases List.mem_append.1 he with he | he
      · rw [(traces_quiet _ e he).2] at herr
        cases herr
      · exact (reportNotes_quiet _ e he).2 herr (by rw [Datagram.Report.fault?, hstop])

end

/-! ### Every step -/

section

variable [WireMessage μ] {a : Actor μ} {s : Session}

/-- A message that is taken is written and then in hand, or dropped, unless writing it
aborts the thread. -/
theorem stepped_take (setup : Setup μ) (reply : Reply) (hc : a.control = .taking s) :
    Stepped setup reply a (a.take s).1 (a.take s).2 := by
  obtain ⟨queue, stopping, failures, control⟩ := a
  obtain rfl : control = .taking s := hc
  have hsuits : (Control.taking s : Control μ).suits setup.config.role = true →
      (Control.serving s : Control μ).suits setup.config.role = true ∧
      ∀ tag frame, (Control.sending s tag frame : Control μ).suits setup.config.role = true := by
    cases setup.config.role <;> simp [Control.suits]
  cases queue with
  | nil =>
    refine .of_free rfl rfl rfl rfl rfl rfl (fun h => (hsuits h).1) (fun _ h => h) ?_ ?_ ?_
    all_goals simp [take]
  | cons m rest =>
    have hw : Frame.writable (takes ⟨m :: rest, stopping, failures, .taking s⟩) =
        (Frame.encode m).toOption.toList := Frame.writable_singleton m
    rcases ha : WireMessage.aborts m with _ | _
    swap
    · have ht : (⟨m :: rest, stopping, failures, .taking s⟩ : Actor μ).take s =
          (⟨rest, stopping, failures, .ended .aborted⟩, []) := by
        simp [take, ha, abort, goto]
      rw [ht]
      exact {
        queue := (List.append_nil _).symm
        pending := rfl
        frames := ⟨(Frame.encode m).toOption.toList, hw, fun _ => rfl⟩
        suits := fun _ => by cases setup.config.role <;> rfl
        sized := fun _ _ _ h => nomatch h
        clean := fun _ h => nomatch h
        ended := fun _ h => nomatch h }
    rcases he : Frame.encode m with cause | frame
    · have ht : (⟨m :: rest, stopping, failures, .taking s⟩ : Actor μ).take s =
          (⟨rest, stopping, failures, .serving s⟩,
            [.noted (.unwritable (WireMessage.tag m) cause)]) := by
        simp [take, ha, he, goto]
      rw [ht]
      exact {
        queue := (List.append_nil _).symm
        pending := rfl
        frames := ⟨[], by rw [hw, he]; rfl, fun h => absurd rfl h⟩
        suits := fun h => (hsuits h).1
        sized := fun _ h => h
        clean := by simp [Event.isDecodeError]
        ended := fun _ h => nomatch h }
    · have ht : (⟨m :: rest, stopping, failures, .taking s⟩ : Actor μ).take s =
          (⟨rest, stopping, failures, .sending s (WireMessage.tag m) frame⟩, []) := by
        simp [take, ha, he, goto]
      rw [ht]
      exact {
        queue := (List.append_nil _).symm
        pending := rfl
        frames := ⟨[], by rw [hw, he]; rfl, fun h => absurd rfl h⟩
        suits := fun h => (hsuits h).2 _ _
        sized := fun _ h => h
        clean := fun _ h => nomatch h
        ended := fun _ h => nomatch h }

/-- A frame in hand is handed over, unless the thread aborts. -/
theorem stepped_sending (setup : Setup μ) (now : Nat) (reply : Reply) {tag : String} {frame : Bytes}
    (hc : a.control = .sending s tag frame) :
    Stepped setup reply a (a.step setup now reply).1 (a.step setup now reply).2 := by
  obtain ⟨queue, stopping, failures, control⟩ := a
  obtain rfl : control = .sending s tag frame := hc
  set a : Actor μ := ⟨queue, stopping, failures, .sending s tag frame⟩ with ha
  have habort : Stepped setup reply a a.abort.1 a.abort.2 := {
    queue := (List.append_nil _).symm
    pending := rfl
    frames := ⟨[frame], rfl, fun _ => rfl⟩
    suits := fun _ => by cases setup.config.role <;> rfl
    sized := fun _ _ _ h => nomatch h
    clean := fun _ h => nomatch h
    ended := fun _ h => nomatch h }
  cases hr : setup.config.role with
  | ingress =>
    have hstep : a.step setup now reply = a.abort := by simp only [step, ha, hr]
    rw [hstep]
    exact habort
  | egress peer =>
    have hdone : Stepped setup reply a (a.goto (.serving { s with progressed := true }))
        [.handed frame peer true, .noted (.sent tag frame.length peer)] := {
      queue := (List.append_nil _).symm
      pending := rfl
      frames := ⟨[], rfl, fun h => absurd rfl h⟩
      suits := fun _ => by rw [hr]; rfl
      sized := fun hi => by rw [hr] at hi; cases hi
      clean := by simp [Event.isDecodeError]
      ended := fun _ h => nomatch h }
    cases reply with
    | aborted =>
      have hstep : a.step setup now .aborted = a.abort := by simp only [step, ha, hr]
      rw [hstep]
      exact habort
    | failed e =>
      have hstep : a.step setup now (.failed e) = ((a.fail setup now e s.progressed).1,
          .handed frame peer false :: (a.fail setup now e s.progressed).2) := by
        simp only [step, ha, hr]
      obtain ⟨hq, hses, hev⟩ := fail_spec setup now a e s.progressed
      obtain ⟨h1, h2, h3⟩ := Control.of_session?_eq_none hses
      have hf := framesOf_eq_nil fun e he => (hev e he).1
      rw [hstep]
      exact {
        queue := by rw [hq]; exact (List.append_nil _).symm
        pending := h1
        frames := ⟨[], by rw [framesOf_handed, hf, h2]; rfl, fun h => absurd rfl h⟩
        suits := fun _ => h3 _
        sized := fun _ _ _ h => by rw [hses] at h; cases h
        clean := fun e' he herr => by
          rcases List.mem_cons.1 he with rfl | he
          · cases herr
          · rw [(hev e' he).2] at herr
            cases herr
        ended := fun _ h => nomatch h }
    | _ => simpa only [step, ha, hr] using hdone

/-- A session starts with a fresh buffer, for an ingress thread one of the
configured size. -/
theorem stepped_armed (setup : Setup μ) (reply : Reply) (timeout : Duration) {c : Control μ}
    (ha : a.control = .arming) (hc : c = .ended .aborted ∨ ∃ size, c = .serving ⟨false, .zeroed size⟩ ∧
      (setup.config.role = .ingress → size = setup.config.bufferSize)) :
    Stepped setup reply a (a.goto c) [.timeoutSet timeout, .noted .bound] := by
  obtain ⟨queue, stopping, failures, control⟩ := a
  obtain rfl : control = .arming := ha
  have hev : ∀ e ∈ [Event.timeoutSet timeout, .noted .bound],
      e.frame? = none ∧ e.isDecodeError = false := by simp [Event.frame?, Event.isDecodeError]
  rcases hc with rfl | ⟨size, rfl, hsize⟩
  · exact .of_closed rfl rfl rfl rfl rfl rfl hev (fun _ h => nomatch h)
  · refine .of_free rfl rfl rfl rfl rfl rfl (fun _ => by cases setup.config.role <;> rfl)
      (fun hi _ s h => ?_) (fun e he => (hev e he).1) (fun e he herr => ?_) (fun _ h => nomatch h)
    · cases h
      exact hsize hi
    · rw [(hev e he).2] at herr
      cases herr

/-- **What a step does**, at every point of the thread and for every reply. -/
theorem stepped (setup : Setup μ) (now : Nat) (reply : Reply) (a : Actor μ) :
    Stepped setup reply a (a.step setup now reply).1 (a.step setup now reply).2 := by
  obtain ⟨queue, stopping, failures, control⟩ := a
  cases control with
  | idle =>
    cases stopping with
    | true =>
      exact .of_closed rfl rfl rfl rfl rfl rfl
        (by simp [step, halt, Event.frame?, Event.isDecodeError]) (fun _ h => nomatch h)
    | false => exact .of_closed rfl rfl rfl rfl rfl rfl (by simp [step]) (fun _ h => nomatch h)
  | opening =>
    cases reply with
    | failed e =>
      obtain ⟨hq, hs, he⟩ := fail_spec setup now ⟨queue, stopping, failures, .opening⟩ e false
      exact .of_closed rfl rfl rfl rfl hq hs (List.forall_mem_cons.2 ⟨⟨rfl, rfl⟩, he⟩)
        (fun _ h => nomatch h)
    | _ =>
      exact .of_closed rfl rfl rfl rfl rfl rfl
        (by simp [step, Event.frame?, Event.isDecodeError]) (fun _ h => nomatch h)
  | arming =>
    cases reply with
    | aborted =>
      exact .of_closed rfl rfl rfl rfl rfl rfl
        (by simp [step, Event.frame?, Event.isDecodeError]) (fun _ h => nomatch h)
    | failed e =>
      obtain ⟨hq, hs, he⟩ := fail_spec setup now ⟨queue, stopping, failures, .arming⟩ e false
      exact .of_closed rfl rfl rfl rfl hq hs (List.forall_mem_cons.2 ⟨⟨rfl, rfl⟩, he⟩)
        (fun _ h => nomatch h)
    | _ =>
      refine stepped_armed setup _ _ rfl ?_
      by_cases hr : setup.config.role = .ingress
      · simp only [hr]
        split_ifs
        · exact .inr ⟨_, rfl, fun _ => rfl⟩
        · exact .inl rfl
      · split_ifs
        · exact .inr ⟨_, rfl, fun h => absurd h hr⟩
        · exact .inl rfl
  | serving s =>
    cases stopping with
    | true =>
      exact .of_closed rfl rfl rfl rfl rfl rfl
        (by simp [step, halt, Event.frame?, Event.isDecodeError]) (fun _ h => nomatch h)
    | false =>
      cases hr : setup.config.role with
      | ingress =>
        have hstep : step setup now reply ⟨queue, false, failures, .serving s⟩ =
            (⟨queue, false, failures, .receiving s⟩, []) := by simp [step, hr, goto]
        rw [hstep]
        exact .of_free rfl rfl rfl rfl rfl rfl (fun _ => by rw [hr]; rfl) (fun _ h => h)
          (fun _ h => nomatch h) (fun _ h => nomatch h) (fun _ h => nomatch h)
      | egress peer =>
        have hstep : step setup now reply ⟨queue, false, failures, .serving s⟩ =
            (⟨queue, false, failures, .taking s⟩, []) := by simp [step, hr, goto]
        rw [hstep]
        exact .of_free rfl rfl rfl rfl rfl rfl (fun _ => by rw [hr]; rfl) (fun _ h => h)
          (fun _ h => nomatch h) (fun _ h => nomatch h) (fun _ h => nomatch h)
  | receiving s =>
    cases reply with
    | aborted =>
      exact .of_closed rfl rfl rfl rfl rfl rfl (by simp [step, abort]) (fun _ h => nomatch h)
    | failed e =>
      by_cases ht : e.isTimeout = true
      · have hstep : step setup now (.failed e) ⟨queue, stopping, failures, .receiving s⟩ =
            (⟨queue, stopping, failures, .serving s⟩, []) := by simp [step, ht, goto]
        rw [hstep]
        exact .of_free rfl rfl rfl rfl rfl rfl (fun _ => by cases setup.config.role <;> rfl)
          (fun _ h => h) (fun _ h => nomatch h) (fun _ h => nomatch h) (fun _ h => nomatch h)
      · have hstep : step setup now (.failed e) ⟨queue, stopping, failures, .receiving s⟩ =
            fail setup now ⟨queue, stopping, failures, .receiving s⟩ e s.progressed := by
          simp [step, ht]
        rw [hstep]
        obtain ⟨hq, hs, he⟩ := fail_spec setup now ⟨queue, stopping, failures, .receiving s⟩ e
          s.progressed
        exact .of_closed rfl rfl rfl rfl hq hs he (fun _ h => nomatch h)
    | received data length => exact stepped_receive now rfl rfl
    | done => exact stepped_receive now rfl rfl
  | queueing s messages =>
    exact {
      queue := rfl
      pending := rfl
      frames := ⟨[], rfl, fun h => absurd rfl h⟩
      suits := fun _ => by cases setup.config.role <;> rfl
      sized := fun _ h => h
      clean := fun _ h => nomatch h
      ended := fun _ h => nomatch h }
  | taking s => exact stepped_take setup reply rfl
  | sending s tag frame => exact stepped_sending setup now reply rfl
  | pausing delay deadline =>
    by_cases hover : (stopping || decide (deadline ≤ now)) = true
    · have hstep : step setup now reply ⟨queue, stopping, failures, .pausing delay deadline⟩ =
          (⟨queue, stopping, failures, .idle⟩, []) := by simp only [step, hover, if_true, goto]
      rw [hstep]
      exact .of_closed rfl rfl rfl rfl rfl rfl (by simp) (fun _ h => nomatch h)
    · have hstep : step setup now reply ⟨queue, stopping, failures, .pausing delay deadline⟩ =
          (⟨queue, stopping, failures, .pausing delay deadline⟩,
            [.slept (min (deadline - now) setup.config.poll.nanos)]) := by
        simp only [step, hover, if_false, Bool.false_eq_true]
      rw [hstep]
      exact .of_closed rfl rfl rfl rfl rfl rfl (by simp [Event.frame?, Event.isDecodeError])
        (fun _ h => nomatch h)
  | ended e => exact .of_closed rfl rfl rfl rfl rfl rfl (by simp [step]) (fun _ h => h)

end

end Actor

end Endpoint
end Tagram
