/-
# What one action does to a queue

`Queue.act` computes what happens at one moment. `Acts` lists the ways in which
that can go, each with what it needs and what it leaves. Everything else about a
single action follows from this list: which wake-ups become due and which are
issued (`Acts.due`), which consumers are inside a wait (`Acts.consumers_enter`,
`Acts.consumers_resume`, `Acts.mem_consumers`), and that no consumer is forgotten
(`Roused.act`).

A queue is *roused* when a parked consumer has nothing to wait for that somebody
else will not see to: a wake-up for all is still to come, or there are at most as
many items as consumers that are awake or about to be woken. Adding items before
waking anybody keeps this. Adding items and never waking anybody does not: they
are orphans, and the queue is roused but for them.

Key definitions: `Queue.Acts`, `Queue.consumers`, `Queue.due`, `Queue.Roused`.
Key theorems: `Queue.acts_of_act`, `Queue.Acts.tainted`, `Queue.Acts.due`,
`Queue.Acts.mem_consumers`, `Queue.Roused.act`.
-/
import Mathlib
import Tagram.Queue

namespace Tagram
namespace Queue

variable {α : Type}

/-! ### The ways of an action -/

/-- What an action can do: the queue after it and the items it takes. -/
inductive Acts (q : Queue α) : Action α → Queue α → List α → Prop where
  | push (x : α) :
    Acts q (.push x) { q with items := q.items ++ [x], oneDue := q.oneDue + 1 } []
  | extendNone : Acts q (.extend []) q []
  | extendOne (x : α) :
    Acts q (.extend [x]) { q with items := q.items ++ [x], oneDue := q.oneDue + 1 } []
  | extendMany (x y : α) (xs : List α) :
    Acts q (.extend (x :: y :: xs))
      { q with items := q.items ++ x :: y :: xs, allDue := q.allDue + 1 } []
  | extendAborted (xs : List α) :
    Acts q (.extendAborted xs) { q with items := q.items ++ xs, tainted := true } []
  | tryPopNone (hitems : q.items = []) : Acts q .tryPop q []
  | tryPop {x : α} {items : List α} (hitems : q.items = x :: items) :
    Acts q .tryPop { q with items := items } [x]
  | drain : Acts q .drain { q with items := [] } q.items
  /-- There is no item for the consumer, which parks. -/
  | park {t : Nat} (ht : t ∉ q.parked ++ q.woken) (hitems : q.items = []) :
    Acts q (.enter t) { q with parked := q.parked ++ [t] } []
  /-- There is an item for the consumer. -/
  | enter {t : Nat} {x : α} {items : List α} (ht : t ∉ q.parked ++ q.woken)
    (hitems : q.items = x :: items) : Acts q (.enter t) { q with items := items } [x]
  /-- The wake-up finds nobody parked. -/
  | notifyNone {t : Nat} (hdue : 0 < q.oneDue) (hparked : q.parked = []) :
    Acts q (.notifyOne t) { q with oneDue := q.oneDue - 1 } []
  | notifyOne {t : Nat} (hdue : 0 < q.oneDue) (ht : t ∈ q.parked) :
    Acts q (.notifyOne t)
      { q with
        oneDue := q.oneDue - 1, parked := q.parked.erase t, woken := q.woken ++ [t] } []
  | notifyAll (hdue : 0 < q.allDue) :
    Acts q .notifyAll
      { q with allDue := q.allDue - 1, parked := [], woken := q.woken ++ q.parked } []
  | wake {t : Nat} (ht : t ∈ q.parked) :
    Acts q (.wake t) { q with parked := q.parked.erase t, woken := q.woken ++ [t] } []
  /-- There is still no item, and the wait has run out or the lock is tainted. -/
  | leave {t : Nat} {expired : Bool} (ht : t ∈ q.woken) (hitems : q.items = [])
    (hend : expired = true ∨ q.tainted = true) :
    Acts q (.resume t expired) { q with woken := q.woken.erase t } []
  /-- There is still no item, and the wait goes on. -/
  | parkAgain {t : Nat} (ht : t ∈ q.woken) (hitems : q.items = []) (hsound : q.tainted = false) :
    Acts q (.resume t false)
      { q with woken := q.woken.erase t, parked := q.parked ++ [t] } []
  /-- There is an item for the consumer that was woken. -/
  | resume {t : Nat} {expired : Bool} {x : α} {items : List α} (ht : t ∈ q.woken)
    (hitems : q.items = x :: items) :
    Acts q (.resume t expired) { q with woken := q.woken.erase t, items := items } [x]

theorem takeOldest_of_nil {q : Queue α} (h : q.items = []) : q.takeOldest = (q, []) := by
  rw [takeOldest, h]

theorem takeOldest_of_cons {q : Queue α} {x : α} {items : List α} (h : q.items = x :: items) :
    q.takeOldest = ({ q with items := items }, [x]) := by
  rw [takeOldest, h]

variable {q r : Queue α} {a : Action α} {taken : List α}

/-- **Every action goes one of these ways.** -/
theorem acts_of_act (h : q.act a = some (r, taken)) : Acts q a r taken := by
  cases a with
  | push x =>
    obtain ⟨rfl, rfl⟩ := Prod.mk.inj (Option.some.inj h)
    exact .push x
  | extend xs =>
    match xs with
    | [] =>
      simp only [act, List.append_nil] at h
      obtain ⟨rfl, rfl⟩ := Prod.mk.inj (Option.some.inj h)
      exact .extendNone
    | [x] =>
      obtain ⟨rfl, rfl⟩ := Prod.mk.inj (Option.some.inj h)
      exact .extendOne x
    | x :: y :: xs =>
      obtain ⟨rfl, rfl⟩ := Prod.mk.inj (Option.some.inj h)
      exact .extendMany x y xs
  | extendAborted xs =>
    obtain ⟨rfl, rfl⟩ := Prod.mk.inj (Option.some.inj h)
    exact .extendAborted xs
  | tryPop =>
    have h : q.takeOldest = (r, taken) := Option.some.inj h
    rcases hitems : q.items with _ | ⟨x, items⟩
    · rw [takeOldest_of_nil hitems] at h
      obtain ⟨rfl, rfl⟩ := Prod.mk.inj h
      exact .tryPopNone hitems
    · rw [takeOldest_of_cons hitems] at h
      obtain ⟨rfl, rfl⟩ := Prod.mk.inj h
      exact .tryPop hitems
  | drain =>
    obtain ⟨rfl, rfl⟩ := Prod.mk.inj (Option.some.inj h)
    exact .drain
  | enter t =>
    simp only [act] at h
    split_ifs at h with ht hitems
    · obtain ⟨rfl, rfl⟩ := Prod.mk.inj (Option.some.inj h)
      exact .park (by simpa using ht) hitems
    · obtain ⟨x, items, hitems⟩ := List.exists_cons_of_ne_nil hitems
      rw [takeOldest_of_cons hitems] at h
      obtain ⟨rfl, rfl⟩ := Prod.mk.inj (Option.some.inj h)
      exact .enter (by simpa using ht) hitems
  | notifyOne t =>
    simp only [act] at h
    split_ifs at h with hdue hparked ht
    · obtain ⟨rfl, rfl⟩ := Prod.mk.inj (Option.some.inj h)
      exact .notifyNone (Nat.pos_of_ne_zero hdue) hparked
    · obtain ⟨rfl, rfl⟩ := Prod.mk.inj (Option.some.inj h)
      exact .notifyOne (Nat.pos_of_ne_zero hdue) ht
  | notifyAll =>
    simp only [act] at h
    split_ifs at h with hdue
    obtain ⟨rfl, rfl⟩ := Prod.mk.inj (Option.some.inj h)
    exact .notifyAll (Nat.pos_of_ne_zero hdue)
  | wake t =>
    simp only [act] at h
    split_ifs at h with ht
    obtain ⟨rfl, rfl⟩ := Prod.mk.inj (Option.some.inj h)
    exact .wake ht
  | resume t expired =>
    simp only [act] at h
    split_ifs at h with ht hitems hend
    · obtain ⟨rfl, rfl⟩ := Prod.mk.inj (Option.some.inj h)
      exact .leave ht hitems (Bool.or_eq_true_iff.1 hend)
    · obtain ⟨rfl, hsound⟩ : expired = false ∧ q.tainted = false := by simpa using hend
      obtain ⟨rfl, rfl⟩ := Prod.mk.inj (Option.some.inj h)
      exact .parkAgain ht hitems hsound
    · obtain ⟨x, items, hitems⟩ := List.exists_cons_of_ne_nil hitems
      have htake : ({ q with woken := q.woken.erase t } : Queue α).takeOldest =
          ({ q with woken := q.woken.erase t, items := items }, [x]) := takeOldest_of_cons hitems
      rw [htake] at h
      obtain ⟨rfl, rfl⟩ := Prod.mk.inj (Option.some.inj h)
      exact .resume ht hitems

/-! ### The lock -/

/-- Whether an action taints the lock. -/
def Action.taints : Action α → Bool
  | .extendAborted _ => true
  | _ => false

/-- **A tainted lock stays tainted**, and only an action that aborts taints it. -/
theorem Acts.tainted (h : Acts q a r taken) : r.tainted = (q.tainted || a.taints) := by
  cases h <;> simp [Action.taints]

/-! ### Wake-ups that are due -/

/-- The wake-ups for one consumer, or for all, that are still to be issued. -/
def due (q : Queue α) (all : Bool) : Nat := if all then q.allDue else q.oneDue

/-- The wake-ups that an action makes due: none, one for one item, one for all
consumers for more. -/
def Action.promises (all : Bool) : Action α → Nat
  | .push _ | .extend [_] => if all then 0 else 1
  | .extend (_ :: _ :: _) => if all then 1 else 0
  | _ => 0

/-- The wake-ups that an action issues. -/
def Action.issues (all : Bool) : Action α → Nat
  | .notifyOne _ => if all then 0 else 1
  | .notifyAll => if all then 1 else 0
  | _ => 0

/-- **A wake-up is due from the action that promises it to the one that issues
it.** -/
theorem Acts.due (h : Acts q a r taken) (all : Bool) :
    r.due all + a.issues all = q.due all + a.promises all := by
  cases all <;> cases h <;> simp [Queue.due, Action.issues, Action.promises] <;> omega

/-! ### Consumers inside a wait -/

/-- The consumers that are inside a wait, parked or awake. -/
def consumers (q : Queue α) : List Nat := q.parked ++ q.woken

theorem perm_wake {parked woken : List Nat} {t : Nat} (h : t ∈ parked) :
    (parked.erase t ++ (woken ++ [t])).Perm (parked ++ woken) := by
  have hfront : (parked.erase t ++ (woken ++ [t])).Perm (t :: (parked.erase t ++ woken)) := by
    rw [← List.append_assoc]
    exact List.perm_append_singleton t _
  exact hfront.trans ((List.perm_cons_erase h).symm.append_right woken)

/-- The consumer that an action may bring into a wait or out of one. -/
def Action.consumer? : Action α → Option Nat
  | .enter t | .resume t _ => some t
  | _ => none

/-- Waking a consumer, by whatever cause, leaves it inside its wait. -/
theorem Acts.consumers_other (h : Acts q a r taken) (ha : a.consumer? = none) :
    r.consumers.Perm q.consumers := by
  cases h with
  | notifyOne _ ht => exact perm_wake ht
  | notifyAll _ =>
    show (q.woken ++ q.parked).Perm (q.parked ++ q.woken)
    exact List.perm_append_comm
  | wake ht => exact perm_wake ht
  | park => cases ha
  | enter => cases ha
  | leave => cases ha
  | parkAgain => cases ha
  | resume => cases ha
  | _ => exact .refl _

/-- A consumer that asks for an item parks, or takes one and does not wait. -/
theorem Acts.consumers_enter {t : Nat} (h : Acts q (.enter t) r taken) :
    t ∉ q.consumers ∧
      ((t ∈ r.parked ∧ r.consumers.Perm (t :: q.consumers)) ∨
        (t ∉ r.parked ∧ r.consumers = q.consumers ∧ taken ≠ [])) := by
  cases h with
  | park ht hitems =>
    refine ⟨ht, Or.inl ⟨by simp, ?_⟩⟩
    show (q.parked ++ [t] ++ q.woken).Perm (t :: (q.parked ++ q.woken))
    rw [List.append_assoc]
    exact List.perm_middle
  | enter ht hitems =>
    refine ⟨ht, Or.inr ⟨fun h => ht (List.mem_append_left _ h), rfl, by simp⟩⟩

/-- A consumer that was woken parks again, or leaves its wait: with an item, or
because its time has run out or the lock is tainted. -/
theorem Acts.consumers_resume {t : Nat} {expired : Bool} (h : Acts q (.resume t expired) r taken) :
    t ∈ q.consumers ∧
      ((t ∈ r.parked ∧ r.consumers.Perm q.consumers) ∨
        (q.consumers.Perm (t :: r.consumers) ∧
          (expired = true ∨ r.tainted = true ∨ taken ≠ []))) := by
  have hleft : ∀ {t : Nat}, t ∈ q.woken →
      (q.parked ++ q.woken).Perm (t :: (q.parked ++ q.woken.erase t)) := by
    intro t ht
    exact ((List.perm_cons_erase ht).append_left q.parked).trans List.perm_middle
  cases h with
  | leave ht hitems hend =>
    exact ⟨List.mem_append_right _ ht, Or.inr ⟨hleft ht, hend.imp_right Or.inl⟩⟩
  | parkAgain ht hitems hsound =>
    refine ⟨List.mem_append_right _ ht, Or.inl ⟨by simp, ?_⟩⟩
    show (q.parked ++ [t] ++ q.woken.erase t).Perm (q.parked ++ q.woken)
    rw [List.append_assoc]
    exact (List.perm_cons_erase ht).symm.append_left q.parked
  | resume ht hitems =>
    exact ⟨List.mem_append_right _ ht, Or.inr ⟨hleft ht, Or.inr (Or.inr (by simp))⟩⟩

theorem Acts.nodup (h : Acts q a r taken) (hq : q.consumers.Nodup) : r.consumers.Nodup := by
  cases a with
  | enter t =>
    obtain ⟨ht, ⟨-, hperm⟩ | ⟨-, heq, -⟩⟩ := h.consumers_enter
    · exact hperm.nodup_iff.2 (List.nodup_cons.2 ⟨ht, hq⟩)
    · rwa [heq]
  | resume t expired =>
    obtain ⟨-, ⟨-, hperm⟩ | ⟨hperm, -⟩⟩ := h.consumers_resume
    · exact hperm.nodup_iff.2 hq
    · exact (List.nodup_cons.1 (hperm.nodup_iff.1 hq)).2
  | _ => exact (h.consumers_other rfl).nodup_iff.2 hq

theorem Acts.mem_consumers (h : Acts q a r taken) {k : Nat} (hk : a.consumer? ≠ some k) :
    k ∈ r.consumers ↔ k ∈ q.consumers := by
  cases a with
  | enter t =>
    have hne : k ≠ t := fun heq => hk (by rw [heq]; rfl)
    obtain ⟨-, ⟨-, hperm⟩ | ⟨-, heq, -⟩⟩ := h.consumers_enter
    · rw [hperm.mem_iff, List.mem_cons, or_iff_right hne]
    · rw [heq]
  | resume t expired =>
    have hne : k ≠ t := fun heq => hk (by rw [heq]; rfl)
    obtain ⟨-, ⟨-, hperm⟩ | ⟨hperm, -⟩⟩ := h.consumers_resume
    · exact hperm.mem_iff
    · rw [hperm.mem_iff, List.mem_cons, or_iff_right hne]
  | _ => exact (h.consumers_other rfl).mem_iff

/-! ### Nobody is forgotten -/

/-- The items that an action adds and never wakes anybody for. -/
def Action.orphans : Action α → Nat
  | .extendAborted xs => xs.length
  | _ => 0

/-- While a consumer is parked, a wake-up for all is still to come, or there are at
most as many items, but for so many orphans, as consumers awake and wake-ups for one
to come. -/
def Roused (orphans : Nat) (q : Queue α) : Prop :=
  q.parked ≠ [] → 0 < q.allDue ∨ q.items.length ≤ q.woken.length + q.oneDue + orphans

theorem Roused.empty : Roused 0 (Queue.empty : Queue α) := fun h => absurd rfl h

/-- **Every action leaves the queue roused**, but for the items that it adds before it
aborts. -/
theorem Roused.act {orphans : Nat} (hq : Roused orphans q) (h : Acts q a r taken) :
    Roused (orphans + a.orphans) r := by
  unfold Roused Action.orphans at *
  cases h with
  | push x =>
    intro hparked
    have := hq hparked
    simp only [List.length_append, List.length_singleton]
    omega
  | extendNone => exact hq
  | extendOne x =>
    intro hparked
    have := hq hparked
    simp only [List.length_append, List.length_singleton]
    omega
  | extendMany x y xs => exact fun _ => Or.inl (Nat.succ_pos _)
  | extendAborted xs =>
    intro hparked
    have := hq hparked
    simp only [List.length_append]
    omega
  | tryPopNone hitems => exact hq
  | tryPop hitems =>
    intro hparked
    have := hq hparked
    rw [hitems, List.length_cons] at this
    simp only
    omega
  | drain => exact fun _ => Or.inr (Nat.zero_le _)
  | park ht hitems => exact fun _ => Or.inr (by simp [hitems])
  | enter ht hitems =>
    intro hparked
    have := hq hparked
    rw [hitems, List.length_cons] at this
    simp only
    omega
  | notifyNone hdue hparked => exact fun h => absurd hparked h
  | notifyOne hdue ht =>
    -- The wake-up that was to come is now a consumer that is awake.
    intro _
    have := hq (List.ne_nil_of_mem ht)
    simp only [List.length_append, List.length_singleton]
    omega
  | notifyAll hdue => exact fun h => absurd rfl h
  | wake ht =>
    intro _
    have := hq (List.ne_nil_of_mem ht)
    simp only [List.length_append, List.length_singleton]
    omega
  | leave ht hitems hend => exact fun _ => Or.inr (by simp [hitems])
  | parkAgain ht hitems hsound => exact fun _ => Or.inr (by simp [hitems])
  | resume ht hitems =>
    -- One consumer fewer is awake, and it takes one item with it.
    intro hparked
    have := hq hparked
    have hwoken := List.length_erase_of_mem ht
    have hpos := List.length_pos_of_mem ht
    rw [hitems, List.length_cons] at this
    simp only
    omega

end Queue
end Tagram
