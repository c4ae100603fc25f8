/-
# The message queue

A queue that any number of threads share. Adding and taking happen under a
lock, so each takes effect at one moment. A consumer that finds the queue
empty parks until it is woken; it then takes the lock again and looks again.
A producer wakes consumers only after it has released the lock: one for one
item, all of them for more. A producer whose items come from code that aborts
keeps the items added before that, and wakes nobody. It also taints the lock:
the lock can still be taken, but from then on a consumer that wakes up leaves
its wait, whether or not there is an item.

The queue is a machine with one action for each such moment. A parked consumer
can also wake for no reason, or because its wait ran out.

Key definitions: `Queue`, `Queue.Action`, `Queue.act`, `Queue.apply`,
`Queue.exchange`.
Key theorems: `Queue.act_items`.
-/

namespace Tagram

/-- The items, and the threads and wake-ups around them. -/
structure Queue (α : Type) where
  /-- The items, oldest first. -/
  items : List α
  /-- The consumers that wait to be woken. -/
  parked : List Nat
  /-- The consumers that are awake and wait for the lock. -/
  woken : List Nat
  /-- The wake-ups for one consumer that are still to be issued. -/
  oneDue : Nat
  /-- The wake-ups for all consumers that are still to be issued. -/
  allDue : Nat
  /-- Whether a thread has aborted while it held the lock. -/
  tainted : Bool
  deriving DecidableEq

namespace Queue

variable {α : Type}

/-- The queue without items and threads. -/
def empty : Queue α := ⟨[], [], [], 0, 0, false⟩

/-- The number of items. -/
def size (q : Queue α) : Nat := q.items.length

/-- Whether there is no item. -/
def isEmpty (q : Queue α) : Bool := q.items.isEmpty

/-- What happens at one moment. -/
inductive Action (α : Type) where
  /-- Add an item. -/
  | push (x : α)
  /-- Add items in order. -/
  | extend (xs : List α)
  /-- Add items in order, and abort after the last. -/
  | extendAborted (xs : List α)
  /-- Take the oldest item if there is one. -/
  | tryPop
  /-- Take all items. -/
  | drain
  /-- Consumer `t` asks for an item, and parks if there is none. -/
  | enter (t : Nat)
  /-- Issue a wake-up for one consumer; it goes to `t` unless none is parked. -/
  | notifyOne (t : Nat)
  /-- Issue a wake-up for all consumers. -/
  | notifyAll
  /-- Consumer `t` wakes for no reason, or because its wait ran out. -/
  | wake (t : Nat)
  /-- Consumer `t`, awake, takes the lock and looks again. If there is still no
  item it leaves when its wait has run out or the lock is tainted, and parks
  otherwise. -/
  | resume (t : Nat) (expired : Bool)
  deriving DecidableEq

/-- Takes the oldest item if there is one. -/
def takeOldest (q : Queue α) : Queue α × List α :=
  match q.items with
  | [] => (q, [])
  | x :: items => ({ q with items := items }, [x])

/-- The action at one moment: the queue after it and the items taken, in order.
`none` if the action is not possible at this moment. -/
def act (q : Queue α) : Action α → Option (Queue α × List α)
  | .push x => some ({ q with items := q.items ++ [x], oneDue := q.oneDue + 1 }, [])
  | .extend xs =>
    let q := { q with items := q.items ++ xs }
    match xs with
    | [] => some (q, [])
    | [_] => some ({ q with oneDue := q.oneDue + 1 }, [])
    | _ => some ({ q with allDue := q.allDue + 1 }, [])
  | .extendAborted xs => some ({ q with items := q.items ++ xs, tainted := true }, [])
  | .tryPop => some q.takeOldest
  | .drain => some ({ q with items := [] }, q.items)
  | .enter t =>
    if t ∈ q.parked ∨ t ∈ q.woken then none
    else if q.items = [] then some ({ q with parked := q.parked ++ [t] }, [])
    else some q.takeOldest
  | .notifyOne t =>
    if q.oneDue = 0 then none
    else if q.parked = [] then some ({ q with oneDue := q.oneDue - 1 }, [])
    else if t ∈ q.parked then
      some ({ q with
        oneDue := q.oneDue - 1, parked := q.parked.erase t, woken := q.woken ++ [t] }, [])
    else none
  | .notifyAll =>
    if q.allDue = 0 then none
    else
      some ({ q with
        allDue := q.allDue - 1, parked := [], woken := q.woken ++ q.parked }, [])
  | .wake t =>
    if t ∈ q.parked then
      some ({ q with parked := q.parked.erase t, woken := q.woken ++ [t] }, [])
    else none
  | .resume t expired =>
    if t ∈ q.woken then
      let q := { q with woken := q.woken.erase t }
      if q.items = [] then
        some (if expired || q.tainted then q else { q with parked := q.parked ++ [t] }, [])
      else some q.takeOldest
    else none

/-- The items that an action adds. -/
def Action.added : Action α → List α
  | .push x => [x]
  | .extend xs | .extendAborted xs => xs
  | _ => []

theorem takeOldest_items (q : Queue α) : q.takeOldest.2 ++ q.takeOldest.1.items = q.items := by
  unfold takeOldest
  split <;> simp_all

/-- **Nothing is lost and nothing is made up**: what an action takes and what it
leaves is what was there and what it added, in order. -/
theorem act_items {q r : Queue α} {a : Action α} {taken : List α} (h : q.act a = some (r, taken)) :
    taken ++ r.items = q.items ++ a.added := by
  have ht := takeOldest_items q
  cases a with
  | extend xs =>
    simp only [act] at h
    split at h <;> simp_all [Action.added] <;> grind
  | resume t expired =>
    have hw := takeOldest_items { q with woken := q.woken.erase t }
    simp only [act] at h
    grind [Action.added]
  | _ =>
    simp only [act] at h
    grind [Action.added]

/-! ### Whole operations -/

/-- The actions in turn, those that are not possible left out. -/
def apply (q : Queue α) : List (Action α) → Queue α × List α
  | [] => (q, [])
  | a :: as =>
    match q.act a with
    | none => q.apply as
    | some (q, taken) =>
      let (q, later) := q.apply as
      (q, taken ++ later)

/-- Adds an item, and wakes a consumer. -/
def push (q : Queue α) (x : α) : Queue α := (q.apply [.push x, .notifyOne (q.parked.headD 0)]).1

/-- Adds items, and wakes consumers. -/
def extend (q : Queue α) (xs : List α) : Queue α :=
  (q.apply [.extend xs, .notifyOne (q.parked.headD 0), .notifyAll]).1

/-- Adds the items that come before an abort. -/
def extendAborted (q : Queue α) (xs : List α) : Queue α := (q.apply [.extendAborted xs]).1

/-- Takes the oldest item if there is one. -/
def tryPop (q : Queue α) : Queue α × Option α :=
  let (q, taken) := q.apply [.tryPop]
  (q, taken.head?)

/-- Takes all items. -/
def drain (q : Queue α) : Queue α × List α := q.apply [.drain]

/-- Consumer `t` asks for an item, and gives up when its wait runs out. -/
def popTimeout (q : Queue α) (t : Nat) : Queue α × Option α :=
  let (q, taken) := q.apply [.enter t, .wake t, .resume t true]
  (q, taken.head?)

/-- Consumer `t` takes up to `n` items one by one, until it parks. -/
def popWhile (t : Nat) : (n : Nat) → Queue α → Queue α × List α
  | 0, q => (q, [])
  | n + 1, q =>
    let (q, taken) := q.apply [.enter t]
    if taken.isEmpty then (q, [])
    else
      let (q, later) := popWhile t n q
      (q, taken ++ later)

/-- Consumer `t` takes `n` items while another thread makes the additions of
`produce`: first what is there, and after the additions the rest. -/
def exchange (q : Queue α) (t n : Nat) (produce : Queue α → Queue α) : Queue α × List α :=
  let (q, first) := popWhile t n q
  let (q, second) := (produce q).apply [.resume t false]
  let (q, third) := popWhile t (n - first.length - second.length) q
  (q, first ++ second ++ third)

end Queue
end Tagram
