/-
# A call that aborts while it adds items

The items of an `extend` come from code of the caller, and that code can abort.
The items that came before the abort stay in the queue, in order, as if the call
had been for just these items (`Crew.extendAborted_extend`). Two things differ.
The wake-ups that the items would have been due are never issued, and the lock is
tainted.

So the rule that no wake-up is lost holds but for the orphans, the items of calls
that aborted (`Crew.reached_orphans`). A consumer can stay parked with an item in
front of it, and only a wake-up for no reason helps it (`Crew.forsaken_parked`).
Under a tainted lock a wait without limit can end without an item
(`Crew.jilted_stray`).

Key definitions: `Crew.replan`.
Key theorems: `Crew.extendAborted_extend`, `Crew.reached_orphans`,
`Crew.forsaken_parked`, `Crew.jilted_stray`.
-/
import Tagram.Proofs.QueueThreads

namespace Tagram
namespace Queue

variable {α : Type}

theorem act_extend (q : Queue α) (xs : List α) :
    q.act (.extend xs) = some ({ q with
      items := q.items ++ xs
      oneDue := q.oneDue + (Action.extend xs).promises false
      allDue := q.allDue + (Action.extend xs).promises true }, []) := by
  match xs with
  | [] => rfl
  | [x] => rfl
  | x :: y :: xs => rfl

theorem promises_extend_eq_zero {xs : List α}
    (h : ∀ all, (Action.extend xs).promises all = 0) : xs = [] := by
  match xs with
  | [] => rfl
  | [x] => exact absurd (h false) Nat.one_ne_zero
  | x :: y :: xs => exact absurd (h true) Nat.one_ne_zero

namespace Crew

variable {n : Nat} {plan : Plan α n} {c : Crew α n} {t : Fin n} {h place : Nat}

/-- The same crew, with other calls ahead of a thread. -/
def replan (c : Crew α n) (t : Fin n) (calls : List (Nat × Call α)) : Crew α n :=
  { c with ahead := Function.update c.ahead t calls }

theorem exists_perform (hplace : c.pool.handles[h]? = some place)
    (hcount : place < c.pool.cells.length) {a : Action α} {r : Queue α} {taken : List α}
    (hact : (c.queueAt place).act a = some (r, taken)) (next : Queue α → List α → Phase) :
    ∃ d, c.perform t h a next = some d ∧ d.queueAt place = r ∧
      d.phase = Function.update c.phase t (next r taken) := by
  have hcell : c.pool.cells[place]? = some (c.queueAt place) := by
    rw [queueAt, List.getElem?_eq_getElem hcount, Option.getD_some]
  have hget : c.pool.get? h = some (c.queueAt place) := by
    rw [Pool.get?, hplace, Option.bind_some, hcell]
  have hd : ∃ d, c.perform t h a next = some d := by
    simp [perform, hplace, hget, hact]
  obtain ⟨d, hd⟩ := hd
  obtain ⟨k, r', taken', hk, hs⟩ := stepped_perform hd
  obtain rfl : place = k := Option.some.inj (hplace.symm.trans hk)
  obtain ⟨rfl, rfl⟩ := Prod.mk.inj (Option.some.inj (hact.symm.trans hs.act))
  exact ⟨d, hd, by rw [hs.queues, Function.update_self], hs.phase⟩

theorem exists_step_call (hphase : c.phase t = .ready) {call : Call α}
    {later : List (Nat × Call α)} (hahead : c.ahead t = (h, call) :: later)
    (hplace : c.pool.handles[h]? = some place) (hcount : place < c.pool.cells.length)
    (expired : Bool) {r : Queue α} {taken : List α}
    (hact : (c.queueAt place).act (call.action t expired) = some (r, taken)) :
    ∃ d, c.step (.call t expired) = some d ∧ d.queueAt place = r ∧
      d.phase = Function.update c.phase t (call.next t h r taken) := by
  obtain ⟨d, hd, hqueue, hnext⟩ := exists_perform hplace hcount hact (call.next t h)
  refine ⟨{ d with
    made := Function.update d.made t (d.made t ++ [(h, call)])
    ahead := Function.update d.ahead t later }, ?_, hqueue, hnext⟩
  simp only [step, hphase, hahead, hd, Option.map_some]

/-- **A call that aborts, beside one for the items that came before.** In every crew that
can be reached both can be made. They leave the same items, and the same consumers parked
and awake. But the call that aborts makes no wake-up due and taints the lock, so the two
leave the same queue only if there was no item and the lock was tainted before. -/
theorem extendAborted_extend (hc : Reached plan c) (hphase : c.phase t = .ready) {xs : List α}
    {later : List (Nat × Call α)} (hahead : c.ahead t = (h, .extendAborted xs) :: later)
    (hplace : plan.handles[h]? = some place) (hcount : place < plan.queues) (expired : Bool) :
    ∃ d e, c.step (.call t expired) = some d ∧
      (c.replan t ((h, .extend xs) :: later)).step (.call t expired) = some e ∧
      (d.queueAt place).items = (c.queueAt place).items ++ xs ∧
      (d.queueAt place).items = (e.queueAt place).items ∧
      (d.queueAt place).parked = (e.queueAt place).parked ∧
      (d.queueAt place).woken = (e.queueAt place).woken ∧
      (∀ all, (e.queueAt place).due all =
        (d.queueAt place).due all + (Action.extend xs).promises all) ∧
      (d.queueAt place).tainted = true ∧
      (e.queueAt place).tainted = (c.queueAt place).tainted ∧
      (d.queueAt place = e.queueAt place ↔ xs = [] ∧ (c.queueAt place).tainted = true) := by
  have hs := hc.sound
  have hhandle : c.pool.handles[h]? = some place := by rwa [hs.handles]
  have hcell : place < c.pool.cells.length := by rwa [hs.count]
  have hact : (c.queueAt place).act (.extendAborted xs) =
      some ({ c.queueAt place with items := (c.queueAt place).items ++ xs, tainted := true }, []) :=
    rfl
  obtain ⟨d, hd, hdq, -⟩ := exists_step_call hphase hahead hhandle hcell expired hact
  obtain ⟨e, he, heq, -⟩ := exists_step_call (c := c.replan t ((h, .extend xs) :: later)) hphase
    (Function.update_self ..) hhandle hcell expired (act_extend (c.queueAt place) xs)
  have hdue : ∀ all, (e.queueAt place).due all =
      (d.queueAt place).due all + (Action.extend xs).promises all := by
    intro all
    rw [hdq, heq]
    cases all <;> rfl
  refine ⟨d, e, hd, he, by rw [hdq], by rw [hdq, heq], by rw [hdq, heq], by rw [hdq, heq], hdue,
    by rw [hdq], by rw [heq], fun hsame => ⟨?_, ?_⟩, fun ⟨hnil, htainted⟩ => ?_⟩
  · refine promises_extend_eq_zero fun all => ?_
    have hall := hdue all
    rw [hsame] at hall
    omega
  · rw [hdq, heq] at hsame
    exact (congrArg Queue.tainted hsame).symm
  · rw [hdq, heq, hnil, htainted]
    rfl

/-- **No wake-up is lost, but for the orphans.** Whether or not calls abort, a parked
consumer has a wake-up for all to come, or there are at most as many items as consumers
awake, wake-ups for one to come, and items that calls have added before they aborted. A
lock is tainted exactly if a call on it has aborted, and a wait without limit ends
without an item only if a lock is tainted. -/
theorem reached_orphans (hc : Reached plan c) (place : Nat) :
    ((c.queueAt place).parked ≠ [] → 0 < (c.queueAt place).allDue ∨
      (c.queueAt place).size ≤
        (c.queueAt place).woken.length + (c.queueAt place).oneDue + c.orphans plan place) ∧
    ((c.queueAt place).tainted = true ↔
      ∃ t, ∃ call ∈ c.made t, plan.handles[call.1]? = some place ∧ call.2.aborts = true) ∧
    ∀ t, c.phase t = .stray → ∃ k, (c.queueAt k).tainted = true :=
  ⟨hc.roused place, hc.sound.tainted place, hc.sound.steady⟩

/-- A thread adds an item and aborts, and another waits for one. -/
def forsaking : Plan Nat 2 where
  queues := 1
  handles := [0]
  calls := ![[(0, .extendAborted [7])], [(0, .popBlocking)]]

/-- The consumer is parked before the item comes. -/
def forsaken : Crew Nat 2 := run forsaking [.call 1 false, .call 0 false]

/-- A consumer stays parked with an item in front of it. Nobody is awake, no wake-up is
due, and nothing can happen any more, unless the consumer wakes for no reason. -/
theorem forsaken_parked :
    Reached forsaking forsaken ∧ (forsaken.queueAt 0).items = [7] ∧
    (forsaken.queueAt 0).parked = [1] ∧ (forsaken.queueAt 0).woken = [] ∧
    (∀ all, (forsaken.queueAt 0).due all = 0) ∧
    ∀ m, (forsaken.step m).isSome = true → m = .wake 1 := by
  refine ⟨⟨_, rfl⟩, by decide, by decide, by decide, by decide, fun m hm => ?_⟩
  cases m with
  | call t expired =>
    have hnone : ∀ t expired, (forsaken.step (.call t expired)).isSome = false := by decide
    exact absurd hm (by rw [hnone t expired]; simp)
  | notify t target =>
    have hphase : ∀ t h all, forsaken.phase t ≠ .waking h all := by
      intro t h all
      fin_cases t <;> exact fun heq => by cases heq
    simp only [step] at hm
    split at hm
    · rename_i h all heq
      exact absurd heq (hphase t h all)
    · cases hm
  | wake t =>
    fin_cases t
    · exact absurd hm (by decide)
    · rfl
  | resume t expired =>
    have hnone : ∀ t expired, (forsaken.step (.resume t expired)).isSome = false := by decide
    exact absurd hm (by rw [hnone t expired]; simp)

/-- One thread makes a call that adds nothing, and that may abort, and then adds an item.
The other takes an item if there is one, and then waits for one without limit. -/
def jilting (aborts : Bool) : Plan Nat 2 where
  queues := 1
  handles := [0]
  calls := ![[(0, if aborts then .extendAborted [] else .extend []), (0, .push 5)],
    [(0, .tryPop), (0, .popBlocking)]]

/-- The item is taken before the wake-up for it is issued, and the wake-up goes to the
thread that waits for the next one. -/
def jilted (aborts : Bool) : Crew Nat 2 :=
  run (jilting aborts) [.call 0 false, .call 0 false, .call 1 false, .call 1 false, .notify 0 1,
    .resume 1 false]

/-- After a call that has added nothing and aborted, a wait without limit ends without an
item; without that call it goes on. -/
theorem jilted_stray :
    Reached (jilting true) (jilted true) ∧ (jilted true).phase 1 = .stray ∧
    Reached (jilting false) (jilted false) ∧ (jilted false).phase 1 = .waiting 0 false :=
  ⟨⟨_, rfl⟩, by decide, ⟨_, rfl⟩, by decide⟩

end Crew
end Queue
end Tagram
