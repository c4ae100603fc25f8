/-
# What a thread does about a failure

A thread that fails gives up, or waits and goes on: when its wait is over it
opens another socket, or it ends well because it was asked to stop. The count of
failures in a row is at least one by then and stays within 32 bits, and the wait
is never longer than the longest one. There is one more way out. The thread
computes when its wait is over, and if the clock cannot show that time the
thread aborts, even if it was asked to stop and would not have waited at all
(`Life.retry_aborts`).

Which threads are safe from this is a question of time: before a failure number
`n` in a row the thread has sat out the `n - 1` waits before it, unless the clock
goes back (`Life.Paced`), and it can fail as soon as that (`Life.idle_outages`).
So failures up to the time `time` never abort it exactly if no failure that can
have happened by then asks for a wait that ends, from then on, at a time that the
clock cannot show (`Life.run_retry`).

Key definitions: `RetryPolicy.spent`, `Life.Resumes`, `Life.Ticks`, `Life.Paced`,
`Life.outages`, `Life.Handled`, `Life.Safe`.
Key theorems: `Life.resumes_run`, `Life.Paced.run`, `Life.idle_outages`,
`Life.run_retry`, `Life.retry_aborts`.
-/
import Tagram.Proofs.Tally
import Tagram.Proofs.Turns

namespace Tagram

/-! ### Waits in a row -/

namespace RetryPolicy

variable {p : RetryPolicy}

/-- How long the waits after the first `n` failures in a row take together. -/
def spent (p : RetryPolicy) : Nat → Nat
  | 0 => 0
  | n + 1 => p.spent n + (p.backoff n).nanos

theorem spent_mono {n m : Nat} (h : n ≤ m) : p.spent n ≤ p.spent m :=
  monotone_nat_of_le_succ (fun n => Nat.le_add_right (p.spent n) _) h

theorem exhausted_mono {n m : Nat} (h : n ≤ m) (hm : p.exhausted m = false) :
    p.exhausted n = false := by
  unfold exhausted at hm ⊢
  split at hm
  · rw [decide_eq_false_iff_not] at hm ⊢
    omega
  · rfl

/-- After the 33rd failure in a row the wait does not grow any more. -/
theorem nanos_backoff_of_lt {n : Nat} (h : 32 < n) :
    (p.backoff (n - 1)).nanos = (p.backoff n).nanos := by
  rw [nanos_backoff, nanos_backoff, if_neg (by omega), if_neg (by omega)]

end RetryPolicy

namespace Endpoint

variable {μ : Type}

theorem reachable_iff {now : Nat} {delay : Duration} :
    reachable now delay = true ↔ now + delay.nanos < 2 ^ 63 * 10 ^ 9 := by
  unfold reachable
  rw [decide_eq_true_eq]
  norm_num

/-- The turn finds that a wait is not over. -/
def Turn.early (deadline : Nat) (t : Turn μ) : Bool := !t.actor.stopping && t.now < deadline

theorem Turn.early_eq_false {deadline : Nat} {t : Turn μ} :
    t.early deadline = false ↔ t.actor.stopping = true ∨ deadline ≤ t.now := by
  cases h : t.actor.stopping <;> simp [Turn.early, h]

/-- The time on the clock after a move, if it was `now` before. -/
def Move.clock (now : Nat) : Move μ → Nat
  | .step later _ => later
  | _ => now

namespace Life

/-! ### A clock that does not go back -/

/-- The clock does not go back in the moves: it shows `since` before them and at most `time`
after them. -/
def Ticks (since : Nat) : List (Move μ) → (time : Nat) → Prop
  | [], time => since ≤ time
  | m :: moves, time => since ≤ m.clock since ∧ Ticks (m.clock since) moves time

theorem Ticks.of_le {since mid time : Nat} {moves : List (Move μ)} (hle : since ≤ mid)
    (h : Ticks mid moves time) : Ticks since moves time := by
  induction moves generalizing since mid with
  | nil => exact Nat.le_trans hle h
  | cons m moves ih =>
    cases m with
    | step now reply => exact ⟨Nat.le_trans hle h.1, h.2⟩
    | _ => exact ⟨Nat.le_refl since, ih hle h.2⟩

theorem ticks_append {since time : Nat} {moves later : List (Move μ)} :
    Ticks since (moves ++ later) time ↔ ∃ mid, Ticks since moves mid ∧ Ticks mid later time := by
  induction moves generalizing since with
  | nil =>
    exact ⟨fun h => ⟨since, Nat.le_refl since, h⟩, fun ⟨mid, hle, h⟩ => h.of_le hle⟩
  | cons m moves ih =>
    constructor
    · rintro ⟨hle, h⟩
      obtain ⟨mid, hmoves, hlater⟩ := ih.1 h
      exact ⟨mid, ⟨hle, hmoves⟩, hlater⟩
    · rintro ⟨mid, ⟨hle, hmoves⟩, hlater⟩
      exact ⟨hle, ih.2 ⟨mid, hmoves, hlater⟩⟩

/-! ### Failures in a row -/

/-- A thread that started at the time `since` has sat out all its waits for the failures in
a row by the time `clock`, or will have at the end of the wait that is on. A wait that
the stop flag cut short is the last one. -/
def Paced (retry : RetryPolicy) (since clock : Nat) (a : Actor μ) : Prop :=
  match a.control with
  | .idle => a.stopping = true ∨ since + retry.spent a.failures ≤ clock
  | .pausing _ deadline => since + retry.spent a.failures ≤ deadline
  | .ended _ => True
  | _ => since + retry.spent a.failures ≤ clock

theorem paced_iff_of_engaged {retry : RetryPolicy} {since clock : Nat} {a : Actor μ}
    (he : a.control.engaged = true) :
    Paced retry since clock a ↔ since + retry.spent a.failures ≤ clock := by
  unfold Paced
  cases hc : a.control with
  | idle | pausing | ended =>
    rw [hc] at he
    cases he
  | _ => rfl

/-- A failure number `n` in a row comes after the waits for those before it. -/
theorem Paced.fails {retry : RetryPolicy} {since clock now : Nat} {a : Actor μ}
    (h : Paced retry since clock a) (he : a.control.engaged = true) (hle : clock ≤ now)
    {n : Nat} (hn : n ≤ a.failures) : since + retry.spent n ≤ now := by
  have hspent : retry.spent n ≤ retry.spent a.failures := RetryPolicy.spent_mono hn
  have hpast := (paced_iff_of_engaged he).1 h
  omega

/-- So many sockets cannot be opened, one after another, the first at the time `since` and
each of the others as soon as the wait before it is over. -/
def outages (retry : RetryPolicy) (since : Nat) : Nat → List (Move μ)
  | 0 => []
  | n + 1 => outages retry since n ++
      [.step (since + retry.spent n) .done,
        .step (since + retry.spent n) (.failed (.ofKind .addrInUse)),
        .step (since + retry.spent (n + 1)) .done]

theorem ticks_outages (retry : RetryPolicy) (since n : Nat) :
    Ticks since (outages retry since n : List (Move μ)) (since + retry.spent n) := by
  induction n with
  | zero => exact Nat.le_refl since
  | succ n ih =>
    have hle : since + retry.spent n ≤ since + retry.spent (n + 1) :=
      Nat.add_le_add_left (RetryPolicy.spent_mono (Nat.le_succ n)) since
    exact ticks_append.2 ⟨_, ih, Nat.le_refl _, Nat.le_refl _, hle, Nat.le_refl _⟩

variable [WireMessage μ] {setup : Setup μ} {l : Life μ}

/-! ### The wait and what follows -/

/-- A thread that waits after a failure, some turns later. It waits through the turns that
are too early. The next turn ends the wait, and the one after that looks at the flag. -/
def Resumes (delay : Duration) (deadline : Nat) (past : List (Turn μ)) (l : Life μ) : Prop :=
  match past.dropWhile (Turn.early deadline) with
  | [] => l.actor.control = .pausing delay deadline
  | [t] => l.actor.control = .idle ∧ (l.actor.stopping = true ∨ deadline ≤ t.now)
  | [t, u] =>
    l.actor.control = .opening ∧ deadline ≤ t.now ∧ u.actor.stopping = false ∨
      l.actor.control = .ended .stopped ∧ u.actor.stopping = true
  | _ => True

theorem Resumes.step {delay : Duration} {deadline : Nat} {past : List (Turn μ)}
    (h : Resumes delay deadline past l) (now : Nat) (reply : Reply) :
    Resumes delay deadline (past ++ [⟨l.actor, now, reply⟩])
      (l.after setup (.step now reply)) := by
  unfold Resumes at h ⊢
  rw [List.dropWhile_append]
  rcases hp : past.dropWhile (Turn.early deadline) with _ | ⟨t, _ | ⟨u, rest⟩⟩ <;> rw [hp] at h
  · -- The thread is still waiting.
    rw [List.isEmpty_nil, if_pos rfl]
    rcases hearly : Turn.early deadline (⟨l.actor, now, reply⟩ : Turn μ) with _ | _
    · rw [List.dropWhile_cons_of_neg (by simp [hearly]), after,
        Actor.step_wake h (Turn.early_eq_false.1 hearly)]
      exact ⟨rfl, Turn.early_eq_false.1 hearly⟩
    · obtain ⟨hstop, hbefore⟩ : l.actor.stopping = false ∧ now < deadline := by
        simpa [Turn.early] using hearly
      rw [List.dropWhile_cons_of_pos hearly, List.dropWhile_nil, after,
        Actor.step_sleep h hstop hbefore]
      exact h
  · -- The wait is over.
    obtain ⟨hcontrol, hover⟩ := h
    rcases hs : l.actor.stopping with _ | _
    · have hstep : l.actor.step setup now reply = (l.actor.goto .opening, []) := by
        simp [Actor.step, hcontrol, hs]
      refine .inl ⟨?_, hover.resolve_left (by simp [hs]), hs⟩
      rw [after, hstep]
      rfl
    · have hstep : l.actor.step setup now reply = l.actor.halt := by
        simp [Actor.step, hcontrol, hs]
      refine .inr ⟨?_, hs⟩
      rw [after, hstep]
      rfl
  · cases rest <;> trivial

theorem Resumes.other {delay : Duration} {deadline : Nat} {past : List (Turn μ)}
    (h : Resumes delay deadline past l) {m : Move μ} (hm : m.turn? l.actor = none) :
    Resumes delay deadline past (l.after setup m) := by
  have ha : Aside l (l.after setup m) := aside_after hm
  unfold Resumes at h ⊢
  split at h
  · exact ha.control.trans h
  · exact ⟨ha.control.trans h.1, h.2.imp_left ha.stopping⟩
  · rw [ha.control]
    exact h
  · trivial

/-- **When its wait is over a thread opens another socket, or ends well** because it was
asked to stop, whatever others do in between. -/
theorem resumes_run {delay : Duration} {deadline : Nat}
    (hcontrol : l.actor.control = .pausing delay deadline) (moves : List (Move μ)) :
    Resumes delay deadline (l.turns setup moves) (l.run setup moves) := by
  have hrun : Resumes delay deadline ([] ++ l.turns setup moves) (l.run setup moves) :=
    run_turns (P := Resumes delay deadline) (fun _ _ now reply h => h.step now reply)
      (fun _ _ _ hm h => h.other hm) moves hcontrol
  rwa [List.nil_append] at hrun

/-! ### Failures take time -/

section

variable {since clock now : Nat} {a : Actor μ}

theorem Paced.step (h : Paced setup.config.retry since clock a) (hle : clock ≤ now)
    (reply : Reply) : Paced setup.config.retry since now (a.step setup now reply).1 := by
  rcases hs : a.setback? setup reply with _ | source
  · obtain ⟨hfailures, hstopping, hcourse⟩ := Actor.step_course now hs
    -- A session that is on stays on, or ends.
    have hstay : a.control.engaged = true → (a.step setup now reply).1.control.engaged = true →
        Paced setup.config.retry since now (a.step setup now reply).1 := by
      intro he he'
      rw [paced_iff_of_engaged he', hfailures]
      exact h.fails he hle (Nat.le_refl _)
    cases hcourse with
    | begun hon ha hb =>
      unfold Paced at h
      rw [ha] at h
      rw [paced_iff_of_engaged (by rw [hb]; rfl), hfailures]
      exact (h.resolve_left (by simp [hon])).trans hle
    | opened ha hb | armed _ ha hb => exact hstay (by rw [ha]; rfl) (by rw [hb]; rfl)
    | served s s' ha hb _ _ =>
      exact hstay (Control.engaged_of_session? ha) (Control.engaged_of_session? hb)
    | waited delay deadline hover ha hb =>
      unfold Paced at h ⊢
      rw [ha] at h
      rw [hb, hstopping, hfailures]
      exact hover.imp_right h.trans
    | slept delay deadline _ _ ha hb =>
      unfold Paced at h ⊢
      rw [ha] at h
      rw [hb, hfailures]
      exact h
    | stopped _ _ hb | aborted _ _ hb | finished _ _ hb =>
      unfold Paced
      rw [hb]
      trivial
  · set b := (a.step setup now reply).1 with hb
    obtain ⟨hfailures, hcontrol⟩ := Actor.setback_control now hs hb
    unfold Paced
    split_ifs at hcontrol with hmany hsoon
    · rw [hcontrol]
      trivial
    · obtain ⟨n, hn⟩ : ∃ n, b.failures = n + 1 :=
        Nat.exists_eq_succ_of_ne_zero (by rw [hfailures]; unfold maxFailures; omega)
      have hle' : n ≤ a.failures := by
        split_ifs at hfailures <;> omega
      have hbefore := h.fails (Actor.engaged_of_setback? hs) hle hle'
      rw [hcontrol, hn, Nat.add_sub_cancel, RetryPolicy.spent]
      exact (Nat.add_assoc ..).symm.le.trans (Nat.add_le_add_right hbefore _)
    · rw [hcontrol]
      trivial

end

theorem Paced.other {retry : RetryPolicy} {since clock : Nat} (h : Paced retry since clock l.actor)
    {m : Move μ} (hm : m.turn? l.actor = none) :
    Paced retry since clock (l.after setup m).actor := by
  have ha : Aside l (l.after setup m) := aside_after hm
  unfold Paced at h ⊢
  rw [ha.control, ha.failures]
  split at h
  · exact h.imp_left ha.stopping
  all_goals exact h

/-- **A failure comes no earlier than after all the waits before it**, in every life whose
clock does not go back. -/
theorem Paced.run {since clock time : Nat} {moves : List (Move μ)}
    (h : Paced setup.config.retry since clock l.actor) (ht : Ticks clock moves time) :
    ∃ late ≤ time, Paced setup.config.retry since late (l.run setup moves).actor := by
  induction moves generalizing l clock with
  | nil => exact ⟨clock, ht, h⟩
  | cons m moves ih =>
    obtain ⟨hle, ht⟩ := ht
    cases m with
    | step now reply => exact ih (h.step hle reply) ht
    | _ => exact ih (h.other rfl) ht

/-! ### The earliest failures in a row -/

theorem run_append (setup : Setup μ) (l : Life μ) (moves later : List (Move μ)) :
    l.run setup (moves ++ later) = (l.run setup moves).run setup later :=
  List.foldl_append

theorem idle_outages (setup : Setup μ) (queue : List μ) (since n : Nat) (hle : n ≤ maxFailures)
    (hexhausted : setup.config.retry.exhausted n = false)
    (hreachable : ∀ k < n, reachable (since + setup.config.retry.spent k)
      (setup.config.retry.backoff k) = true) :
    ((start queue).run setup (outages setup.config.retry since n)).actor =
      ⟨queue, false, n, .idle⟩ := by
  induction n with
  | zero => rfl
  | succ n ih =>
    have hidle := ih (by omega) (RetryPolicy.exhausted_mono (Nat.le_succ n) hexhausted)
      fun k hk => hreachable k (by omega)
    have hcount : min maxFailures (n + 1) = n + 1 := Nat.min_eq_right hle
    have hwait := hreachable n (Nat.lt_succ_self n)
    rw [outages, run_append]
    simp only [run, List.foldl_cons, List.foldl_nil, after] at hidle ⊢
    rw [hidle]
    simp [Actor.step, Actor.goto, Actor.fail, hcount, hexhausted, hwait, RetryPolicy.spent,
      Nat.add_assoc]

theorem setback_outages (setup : Setup μ) (queue : List μ) (since time n : Nat)
    (hidle : ((start queue).run setup (outages setup.config.retry since n)).actor =
      ⟨queue, false, n, .idle⟩) {l : Life μ}
    (hl : l = (start queue).run setup
      (outages setup.config.retry since n ++ [.step time .done])) :
    l.actor = ⟨queue, false, n, .opening⟩ ∧
    l.actor.setback? setup (.failed (.ofKind .addrInUse)) = some (.ofKind .addrInUse) := by
  have hactor : l.actor = ⟨queue, false, n, .opening⟩ := by
    rw [hl, run_append]
    simp only [run, List.foldl_cons, List.foldl_nil, after] at hidle ⊢
    rw [hidle]
    rfl
  rw [hactor]
  exact ⟨rfl, rfl⟩

/-- If a failure after `n` others can happen by the time `time` and asks then for a wait that
is out of reach, some number of failures in a row aborts the thread. -/
theorem exists_aborted (setup : Setup μ) (queue : List μ) {since time : Nat}
    (hfar : ∃ n, setup.config.retry.exhausted (n + 1) = false ∧
      since + setup.config.retry.spent n ≤ time ∧
      reachable time (setup.config.retry.backoff n) = false) :
    ∃ moves, let l := (start queue).run setup moves
      let reply : Reply := .failed (.ofKind .addrInUse)
      Ticks since (moves ++ [.step time reply]) time ∧
        l.actor.setback? setup reply = some (.ofKind .addrInUse) ∧
        (l.after setup (.step time reply)).actor.control = .ended .aborted := by
  classical
  -- The first such failure: all the waits before it are within reach.
  let n := Nat.find hfar
  obtain ⟨hexhausted, hspent, hout⟩ : setup.config.retry.exhausted (n + 1) = false ∧
      since + setup.config.retry.spent n ≤ time ∧
      reachable time (setup.config.retry.backoff n) = false := Nat.find_spec hfar
  have hearlier : ∀ k < n, reachable time (setup.config.retry.backoff k) = true := by
    intro k hk
    have hspentk : setup.config.retry.spent k ≤ setup.config.retry.spent n :=
      RetryPolicy.spent_mono hk.le
    have hnot := Nat.find_min hfar hk
    by_contra hnear
    exact hnot ⟨RetryPolicy.exhausted_mono (by omega) hexhausted, by omega, by simpa using hnear⟩
  have hn : n ≤ 32 := by
    by_contra hlt
    have hbefore := reachable_iff.1 (hearlier (n - 1) (by omega))
    rw [RetryPolicy.nanos_backoff_of_lt (by omega), ← reachable_iff, hout] at hbefore
    cases hbefore
  have hidle := idle_outages setup queue since n (by unfold maxFailures; omega)
    (RetryPolicy.exhausted_mono (by omega) hexhausted) fun k hk => by
      have hspentk : setup.config.retry.spent k ≤ setup.config.retry.spent n :=
        RetryPolicy.spent_mono hk.le
      have hnear := reachable_iff.1 (hearlier k hk)
      exact reachable_iff.2 (by omega)
  obtain ⟨hactor, hs⟩ := setback_outages setup queue since time n hidle rfl
  refine ⟨outages setup.config.retry since n ++ [.step time .done], ?_, hs, ?_⟩
  · rw [List.append_assoc]
    exact ticks_append.2 ⟨_, ticks_outages _ since n, hspent, Nat.le_refl _, Nat.le_refl _⟩
  · have hcount : min maxFailures (n + 1) = n + 1 :=
      Nat.min_eq_right (by unfold maxFailures; omega)
    show (Actor.step setup time _ _).1.control = _
    rw [hactor] at hs ⊢
    obtain ⟨hfailures, hcontrol⟩ := Actor.setback_control time hs rfl
    rw [hcontrol, hfailures.trans hcount, hexhausted, Nat.add_sub_cancel, hout]
    rfl

/-! ### Every failure of every life -/

/-- What becomes of a thread that fails at the time `now`. -/
structure Handled (setup : Setup μ) (now : Nat) (source : Net.SocketError) (l l' : Life μ) :
    Prop where
  counted : l'.actor.failures =
    min 4294967295 ((if l.actor.control.progressed then 0 else l.actor.failures) + 1)
  positive : 0 < l'.actor.failures
  bounded : (setup.config.retry.backoff (l'.actor.failures - 1)).nanos ≤
    setup.config.retry.maxBackoff.nanos
  gaveUp_iff : l'.actor.control = .ended (.gaveUp l'.actor.failures source) ↔
    setup.config.retry.exhausted l'.actor.failures = true
  aborted_iff : l'.actor.control = .ended .aborted ↔
    setup.config.retry.exhausted l'.actor.failures = false ∧
      2 ^ 63 * 10 ^ 9 ≤ now + (setup.config.retry.backoff (l'.actor.failures - 1)).nanos
  /-- Otherwise it waits until the wait is over, and then opens another socket or ends
  well. -/
  resumes : let delay := setup.config.retry.backoff (l'.actor.failures - 1)
    setup.config.retry.exhausted l'.actor.failures = false →
    now + delay.nanos < 2 ^ 63 * 10 ^ 9 →
    ∀ later, Resumes delay (now + delay.nanos) (l'.turns setup later) (l'.run setup later)

theorem handled_after {reply : Reply} {source : Net.SocketError}
    (hs : l.actor.setback? setup reply = some source) (now : Nat) :
    Handled setup now source l (l.after setup (.step now reply)) := by
  obtain ⟨hfailures, hcontrol⟩ :=
    Actor.setback_control now hs (b := (l.after setup (.step now reply)).actor) rfl
  generalize l.after setup (.step now reply) = l' at hfailures hcontrol
  have hpos : 0 < l'.actor.failures := by
    rw [hfailures]
    exact Nat.lt_min.2 ⟨by decide, Nat.succ_pos _⟩
  refine ⟨hfailures, hpos, setup.config.retry.nanos_backoff_le _, ?_, ?_,
    fun hfew hsoon later => ?_⟩
  · rw [hcontrol]
    split_ifs with hmany hsoon <;> simp [hmany]
  · rw [← Nat.not_lt, ← reachable_iff, hcontrol]
    split_ifs with hmany hsoon
    · simp [hmany]
    · simp [hsoon]
    · simp [hmany, hsoon]
  · rw [hfew, if_neg Bool.false_ne_true, if_pos (reachable_iff.2 hsoon)] at hcontrol
    exact resumes_run hcontrol later

/-- No failure up to the time `time` aborts a thread that starts at the time `since`, as
long as its clock does not go back. -/
def Safe (setup : Setup μ) (queue : List μ) (since time : Nat) : Prop :=
  ∀ moves now reply source, let l := (start queue).run setup moves
    Ticks since (moves ++ [.step now reply]) time →
    l.actor.setback? setup reply = some source →
      (l.after setup (.step now reply)).actor.control ≠ .ended .aborted

/-- **What every failure of every thread comes to, and which threads are safe.** A failure
is counted without wrapping around, and the thread gives up, waits and goes on, or aborts
because the clock cannot show when the wait is over. Failures up to some time never abort
it exactly if that clock can show the end of every wait that can begin then: one after
`n` failures in a row that left time for the waits before. -/
theorem run_retry (setup : Setup μ) (queue : List μ) :
    (∀ moves now reply source, let l := (start queue).run setup moves
      l.actor.setback? setup reply = some source →
        Handled setup now source l (l.after setup (.step now reply))) ∧
    ∀ since time, Safe setup queue since time ↔
      ∀ n, setup.config.retry.exhausted (n + 1) = false →
        since + setup.config.retry.spent n ≤ time →
        time + (setup.config.retry.backoff n).nanos < 2 ^ 63 * 10 ^ 9 := by
  refine ⟨?_, fun since time => ⟨?_, ?_⟩⟩
  · intro moves now reply source l hs
    exact handled_after hs now
  · intro hsafe n hfew hspent
    rw [← reachable_iff]
    by_contra hfar
    rw [Bool.not_eq_true] at hfar
    obtain ⟨moves, ht, hs, haborted⟩ := exists_aborted setup queue ⟨n, hfew, hspent, hfar⟩
    exact hsafe moves time _ _ ht hs haborted
  · intro hnear moves now reply source l ht hs haborted
    obtain ⟨mid, hmoves, hlate, htime⟩ := ticks_append.1 ht
    have hh := handled_after hs now
    obtain ⟨hfew, hfar⟩ := hh.aborted_iff.1 haborted
    have hpos := hh.positive
    have hstart : Paced setup.config.retry since since (start queue).actor :=
      .inr (Nat.le_refl since)
    obtain ⟨late, hle, hpaced⟩ := hstart.run hmoves
    have hspent := hpaced.fails (Actor.engaged_of_setback? hs) (hle.trans hlate)
      (show (l.after setup (.step now reply)).actor.failures - 1 ≤ l.actor.failures by
        have hcounted := hh.counted
        split_ifs at hcounted <;> omega)
    have hend := hnear _ (by rwa [Nat.sub_add_cancel hpos]) (hspent.trans htime)
    have hnow : now ≤ time := htime
    omega

/-- A receiver that first waits for 2^61 seconds, and gives up after so many retries. -/
def lingering (retries : UInt32) : Setup Command where
  config :=
    { address := .v4 127 0 0 1 4000, role := .ingress,
      retry := { RetryPolicy.default with
        initialBackoff := ⟨2305843009213693952000000000, by decide⟩,
        maxBackoff := ⟨18446744073709551615999999999, by decide⟩,
        maxRetries := some retries } }
  registry := Command.registry

/-- The second wait of such a receiver is for 2^62 seconds. The receiver is safe from it
until just before the clock shows as many, and no longer. -/
theorem run_retry_lingering :
    Safe (lingering 3) [] 0 4611686018427387903999999999 ∧
    ¬ Safe (lingering 3) [] 0 4611686018427387904000000000 ∧
    (let time := 2305843009213693952000000000
      let l := (start []).run (lingering 3)
        (outages (lingering 3).config.retry 0 1 ++ [.step time .done])
      let l' := l.after (lingering 3) (.step time (.failed (.ofKind .addrInUse)))
      l.actor.setback? (lingering 3) (.failed (.ofKind .addrInUse)) =
        some (.ofKind .addrInUse) ∧
      l'.actor.failures = 2 ∧ l'.actor.control ≠ .ended .aborted) := by
  refine ⟨((run_retry (lingering 3) []).2 0 _).2 ?_, fun hsafe => ?_, ?_⟩
  · intro n hfew hspent
    have hlt : n < 3 := by
      rw [RetryPolicy.exhausted_of_some rfl, decide_eq_false_iff_not] at hfew
      exact Nat.lt_of_succ_le (Nat.not_lt.1 hfew)
    interval_cases n
    · decide +kernel
    · decide +kernel
    · exact absurd hspent (by decide +kernel)
  · have hnear := ((run_retry (lingering 3) []).2 0 _).1 hsafe 1 (by decide) (by decide +kernel)
    exact absurd hnear (by decide +kernel)
  · intro time l l'
    have hs : l.actor.setback? (lingering 3) (.failed (.ofKind .addrInUse)) =
        some (.ofKind .addrInUse) := by decide +kernel
    have hh : Handled (lingering 3) time _ l l' := (run_retry (lingering 3) []).1 _ time _ _ hs
    have hcount : l'.actor.failures = 2 := hh.counted.trans (by decide +kernel)
    refine ⟨hs, hcount, fun haborted => ?_⟩
    have hfar := (hh.aborted_iff.1 haborted).2
    rw [hcount] at hfar
    exact absurd hfar (by decide +kernel)

/-- A receiver that waits as long as can be said after every failure. -/
def patient : Setup Command where
  config :=
    { address := .v4 127 0 0 1 4000, role := .ingress,
      retry := { RetryPolicy.default with
        initialBackoff := ⟨18446744073709551615999999999, by decide⟩,
        maxBackoff := ⟨18446744073709551615999999999, by decide⟩ } }
  registry := Command.registry

/-- A thread aborts over the first socket that cannot be opened, though its policy never
gives up, and though it was asked to stop by then and has nothing to wait for. -/
theorem retry_aborts :
    let l := (start []).run patient [.step 0 .done, .stop]
    let failed := l.after patient (.step 0 (.failed (.ofKind .addrInUse)))
    l.actor.stopping = true ∧
      l.actor.setback? patient (.failed (.ofKind .addrInUse)) = some (.ofKind .addrInUse) ∧
      patient.config.retry.exhausted 1 = false ∧ failed.actor.failures = 1 ∧
      failed.actor.control = .ended .aborted := by
  exact ⟨rfl, rfl, rfl, rfl, rfl⟩

end Life

end Endpoint
end Tagram
