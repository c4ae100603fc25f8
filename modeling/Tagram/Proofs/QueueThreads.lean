/-
# Threads that share queues

Any number of threads make calls to queues that they share through handles. A
thread is between two calls, or about to wake the consumers of a queue it has
added to, or inside a wait. It moves on by one action at a time, and the threads
take turns in any order. A crew is all of them with their queues, and it keeps
what each action added and took.

A queue counts the wake-ups that are due and lists the consumers that wait. In a
crew these are facts about the threads: the wake-ups due are those that threads
are about to issue, and the consumers are the threads inside a wait
(`Crew.Sound`). So two results about queues become results about threads:
items leave in the order in which they came, whoever adds and takes
(`Crew.reached_fifo`), and no thread stays parked while there is an item that
nobody is about to see to (`Crew.reached_roused`).

Key definitions: `Call`, `Phase`, `Plan`, `Crew`, `Crew.step`, `Crew.run`,
`Crew.Sound`, `Crew.Reached`.
Key theorems: `Crew.step_cases`, `Crew.Sound.step`, `Crew.reached_fifo`,
`Crew.reached_roused`.
-/
import Tagram.Pool
import Tagram.Proofs.QueueAction

namespace Tagram
namespace Queue

variable {α : Type}

/-! ### Calls -/

/-- A call that a thread makes to a queue. -/
inductive Call (α : Type) where
  | push (x : α)
  | extend (xs : List α)
  /-- The items come from code that aborts after the last of them. -/
  | extendAborted (xs : List α)
  | tryPop
  | drain
  /-- Wait for an item, for a limited time. -/
  | popTimeout
  /-- Wait for an item. -/
  | popBlocking
  deriving DecidableEq

/-- Where a thread is. -/
inductive Phase where
  /-- Between two calls. -/
  | ready
  /-- It has released the lock of the queue behind handle `h`, and is about to wake
  one consumer or all. -/
  | waking (h : Nat) (all : Bool)
  /-- It waits for an item of the queue behind handle `h`. -/
  | waiting (h : Nat) (timed : Bool)
  /-- It left a wait without limit, and there was no item. -/
  | stray
  deriving DecidableEq

/-- The handle that a thread is using. -/
def Phase.handle? : Phase → Option Nat
  | .waking h _ | .waiting h _ => some h
  | _ => none

/-- Where thread `t` is after it has looked for an item. -/
def Phase.looked (t h : Nat) (timed : Bool) (q : Queue α) (taken : List α) : Phase :=
  if t ∈ q.parked then .waiting h timed
  else if timed || !taken.isEmpty then .ready
  else .stray

namespace Call

/-- The items that a call adds. -/
def added : Call α → List α
  | .push x => [x]
  | .extend xs | .extendAborted xs => xs
  | _ => []

/-- Whether a call aborts. -/
def aborts : Call α → Bool
  | .extendAborted _ => true
  | _ => false

/-- The action with which thread `t` makes a call. Where the time for a wait has run
out already there is no wait. -/
def action (t : Nat) (expired : Bool) : Call α → Action α
  | .push x => .push x
  | .extend xs => .extend xs
  | .extendAborted xs => .extendAborted xs
  | .tryPop => .tryPop
  | .drain => .drain
  | .popTimeout => if expired then .tryPop else .enter t
  | .popBlocking => .enter t

/-- Where thread `t` is after the action of a call through handle `h`, which left
the queue `q` and took some items. -/
def next (t h : Nat) (call : Call α) (q : Queue α) (taken : List α) : Phase :=
  match call with
  | .push _ | .extend [_] => .waking h false
  | .extend (_ :: _ :: _) => .waking h true
  | .popTimeout => .looked t h true q taken
  | .popBlocking => .looked t h false q taken
  | _ => .ready

/-- The items that a call adds and never wakes anybody for. -/
def orphans : Call α → Nat
  | .extendAborted xs => xs.length
  | _ => 0

theorem orphans_action (call : Call α) (t : Nat) (expired : Bool) :
    (call.action t expired).orphans = call.orphans := by
  cases call <;> cases expired <;> rfl

theorem taints_action (call : Call α) (t : Nat) (expired : Bool) :
    (call.action t expired).taints = call.aborts := by
  cases call <;> cases expired <;> rfl

theorem added_action (call : Call α) (t : Nat) (expired : Bool) :
    (call.action t expired).added = call.added := by
  cases call <;> cases expired <;> rfl

end Call

/-! ### Crews -/

/-- How many queues there are, which of them each handle is for, and what each
thread calls, each time through a handle. -/
structure Plan (α : Type) (n : Nat) where
  queues : Nat
  handles : List Nat
  calls : Fin n → List (Nat × Call α)

/-- What a thread's action added to a queue and took from it. -/
structure Entry (α : Type) (n : Nat) where
  thread : Fin n
  added : List α
  taken : List α

/-- Threads and the queues that they share. -/
structure Crew (α : Type) (n : Nat) where
  pool : Pool (Queue α)
  phase : Fin n → Phase
  /-- The calls that a thread has made. -/
  made : Fin n → List (Nat × Call α)
  /-- The calls that a thread still has to make. -/
  ahead : Fin n → List (Nat × Call α)
  /-- The actions on each queue so far. -/
  log : Nat → List (Entry α n)

namespace Crew

variable {n : Nat}

/-- What happens: a thread makes its next call, issues the wake-up that it owes,
wakes by itself inside a wait, or takes the lock again after it was woken. -/
inductive Move (n : Nat) where
  | call (t : Fin n) (expired : Bool)
  | notify (t : Fin n) (target : Nat)
  | wake (t : Fin n)
  | resume (t : Fin n) (expired : Bool)

/-- Nothing has happened yet. -/
def start (plan : Plan α n) : Crew α n where
  pool := ⟨List.replicate plan.queues .empty, plan.handles⟩
  phase _ := .ready
  made _ := []
  ahead := plan.calls
  log _ := []

/-- Thread `t` acts on the queue behind a handle and is then where `next` says.
`none` if the action is not possible. -/
def perform (c : Crew α n) (t : Fin n) (h : Nat) (a : Action α)
    (next : Queue α → List α → Phase) : Option (Crew α n) := do
  let place ← c.pool.handles[h]?
  let q ← c.pool.get? h
  let (r, taken) ← q.act a
  return { c with
    pool := c.pool.modify h fun _ => r
    phase := Function.update c.phase t (next r taken)
    log := Function.update c.log place (c.log place ++ [⟨t, a.added, taken⟩]) }

/-- One move, or `none` if it is not possible. -/
def step (c : Crew α n) : Move n → Option (Crew α n)
  | .call t expired =>
    match c.phase t, c.ahead t with
    | .ready, (h, call) :: later =>
      (c.perform t h (call.action t expired) (call.next t h)).map fun d =>
        { d with
          made := Function.update d.made t (d.made t ++ [(h, call)])
          ahead := Function.update d.ahead t later }
    | _, _ => none
  | .notify t target =>
    match c.phase t with
    | .waking h all =>
      c.perform t h (if all then .notifyAll else .notifyOne target) fun _ _ => .ready
    | _ => none
  | .wake t =>
    match c.phase t with
    | .waiting h timed => c.perform t h (.wake t) fun _ _ => .waiting h timed
    | _ => none
  | .resume t expired =>
    match c.phase t with
    | .waiting h timed => c.perform t h (.resume t (timed && expired)) (.looked t h timed)
    | _ => none

/-- One move; one that is not possible changes nothing. -/
def move (c : Crew α n) (m : Move n) : Crew α n := (c.step m).getD c

/-- Moves one after another. -/
def run (plan : Plan α n) (moves : List (Move n)) : Crew α n := moves.foldl move (start plan)

/-- The handle through which a move acts. -/
def through? (c : Crew α n) : Move n → Option Nat
  | .call t _ => (c.ahead t).head?.map (·.1)
  | .notify t _ | .wake t | .resume t _ => (c.phase t).handle?

/-- The queue at a place of the pool. -/
def queueAt (c : Crew α n) (place : Nat) : Queue α := (c.pool.cells[place]?).getD .empty

/-- What was added to a queue, in order. -/
def added (c : Crew α n) (place : Nat) : List α := (c.log place).flatMap (·.added)

/-- What was removed from a queue, in order. -/
def removed (c : Crew α n) (place : Nat) : List α := (c.log place).flatMap (·.taken)

/-! ### What a step does -/

/-- What a thread does in a step, through which handle: the action, where it brings
the thread, and the call that it makes with it, if any. -/
inductive Deed (c : Crew α n) (t : Fin n) (h : Nat) :
    Action α → (Queue α → List α → Phase) → List (Nat × Call α) → Prop where
  | call {call : Call α} {later : List (Nat × Call α)} (expired : Bool)
    (hphase : c.phase t = .ready) (hahead : c.ahead t = (h, call) :: later) :
    Deed c t h (call.action t expired) (call.next t h) [(h, call)]
  | notify {all : Bool} (target : Nat) (hphase : c.phase t = .waking h all) :
    Deed c t h (if all then .notifyAll else .notifyOne target) (fun _ _ => .ready) []
  | wake {timed : Bool} (hphase : c.phase t = .waiting h timed) :
    Deed c t h (.wake t) (fun _ _ => .waiting h timed) []
  | resume {timed : Bool} (expired : Bool) (hphase : c.phase t = .waiting h timed) :
    Deed c t h (.resume t (timed && expired)) (.looked t h timed) []

/-- What an action of thread `t` on the queue at a place changes in the crew. -/
structure Stepped (c d : Crew α n) (t : Fin n) (place : Nat) (a : Action α) (r : Queue α)
    (taken : List α) (p : Phase) (calls : List (Nat × Call α)) : Prop where
  act : (c.queueAt place).act a = some (r, taken)
  handles : d.pool.handles = c.pool.handles
  count : d.pool.cells.length = c.pool.cells.length
  queues : d.queueAt = Function.update c.queueAt place r
  phase : d.phase = Function.update c.phase t p
  log : d.log = Function.update c.log place (c.log place ++ [⟨t, a.added, taken⟩])
  made : d.made = Function.update c.made t (c.made t ++ calls)
  ahead : c.ahead = Function.update d.ahead t (calls ++ d.ahead t)

variable {c d : Crew α n} {m : Move n} {t : Fin n} {h place : Nat} {a : Action α}
  {next : Queue α → List α → Phase} {r : Queue α} {taken : List α}

theorem queueAt_modify {q : Queue α} (hplace : c.pool.handles[h]? = some place)
    (hq : c.pool.cells[place]? = some q) (r : Queue α) (k : Nat) :
    (((c.pool.modify h fun _ => r).cells[k]?).getD .empty) =
      Function.update c.queueAt place r k := by
  have hmodify : (c.pool.modify h fun _ => r).cells = c.pool.cells.modify place fun _ => r := by
    simp only [Pool.modify, hplace]
  rw [hmodify, List.getElem?_modify]
  by_cases hk : k = place
  · subst hk
    simp [hq]
  · simp [Ne.symm hk, Function.update_of_ne hk, queueAt]

theorem stepped_perform (hp : c.perform t h a next = some d) :
    ∃ place r taken, c.pool.handles[h]? = some place ∧
      Stepped c d t place a r taken (next r taken) [] := by
  simp only [perform, Option.bind_eq_bind, Option.bind_eq_some_iff, Option.pure_def,
    Option.some.injEq] at hp
  obtain ⟨place, hplace, q, hget, ⟨r, taken⟩, hact, rfl⟩ := hp
  have hcell : c.pool.cells[place]? = some q := by
    rwa [Pool.get?, hplace, Option.bind_some] at hget
  have hqueue : c.queueAt place = q := by rw [queueAt, hcell, Option.getD_some]
  refine ⟨place, r, taken, hplace, ?_⟩
  exact
    { act := by rwa [hqueue]
      handles := by simp only [Pool.modify, hplace]
      count := by simp only [Pool.modify, hplace, List.length_modify]
      queues := funext (queueAt_modify hplace hcell r)
      phase := rfl
      log := rfl
      made := by rw [List.append_nil, Function.update_eq_self]
      ahead := by rw [List.nil_append, Function.update_eq_self] }

/-- **Every step is one deed of one thread**, an action on the queue behind a
handle. -/
theorem step_cases (hstep : c.step m = some d) :
    ∃ t h place a next r taken calls, Deed c t h a next calls ∧ c.through? m = some h ∧
      c.pool.handles[h]? = some place ∧ Stepped c d t place a r taken (next r taken) calls := by
  cases m with
  | call t expired =>
    simp only [step] at hstep
    split at hstep
    · rename_i h call later hphase hahead
      obtain ⟨e, hperform, rfl⟩ := Option.map_eq_some_iff.1 hstep
      obtain ⟨place, r, taken, hplace, hs⟩ := stepped_perform hperform
      have hthrough : c.through? (.call t expired) = some h := by rw [through?, hahead]; rfl
      refine ⟨t, h, place, _, _, r, taken, _, .call expired hphase hahead, hthrough, hplace, ?_⟩
      have hmade : e.made = c.made := by
        rw [hs.made, List.append_nil, Function.update_eq_self]
      have hsame : e.ahead = c.ahead := by
        rw [hs.ahead, List.nil_append, Function.update_eq_self]
      exact
        { act := hs.act
          handles := hs.handles
          count := hs.count
          queues := hs.queues
          phase := hs.phase
          log := hs.log
          made := by rw [hmade]
          ahead := by
            simp only [hsame, Function.update_self, Function.update_idem, List.singleton_append,
              ← hahead, Function.update_eq_self] }
    · cases hstep
  | notify t target =>
    simp only [step] at hstep
    split at hstep
    · rename_i h all hphase
      obtain ⟨place, r, taken, hplace, hs⟩ := stepped_perform hstep
      have hthrough : c.through? (.notify t target) = some h := by rw [through?, hphase]; rfl
      exact ⟨t, h, place, _, _, r, taken, _, .notify target hphase, hthrough, hplace, hs⟩
    · cases hstep
  | wake t =>
    simp only [step] at hstep
    split at hstep
    · rename_i h timed hphase
      obtain ⟨place, r, taken, hplace, hs⟩ := stepped_perform hstep
      have hthrough : c.through? (.wake t) = some h := by rw [through?, hphase]; rfl
      exact ⟨t, h, place, _, _, r, taken, _, .wake hphase, hthrough, hplace, hs⟩
    · cases hstep
  | resume t expired =>
    simp only [step] at hstep
    split at hstep
    · rename_i h timed hphase
      obtain ⟨place, r, taken, hplace, hs⟩ := stepped_perform hstep
      have hthrough : c.through? (.resume t expired) = some h := by rw [through?, hphase]; rfl
      exact ⟨t, h, place, _, _, r, taken, _, .resume expired hphase, hthrough, hplace, hs⟩
    · cases hstep

end Crew

/-! ### Wake-ups and waits, by thread -/

namespace Phase

/-- Whether a thread is about to wake one consumer, or all, of the queue at a place. -/
def wakes (handles : List Nat) (place : Nat) (all : Bool) : Phase → Bool
  | .waking h b => b == all && handles[h]? == some place
  | _ => false

/-- Whether a thread waits for an item of the queue at a place. -/
def waits (handles : List Nat) (place : Nat) : Phase → Bool
  | .waiting h _ => handles[h]? == some place
  | _ => false

variable {handles : List Nat} {h place : Nat}

/-- A thread that uses a handle for one queue has nothing to do with another. -/
theorem elsewhere {p : Phase} (hp : ∀ k ∈ p.handle?, k = h) (hplace : handles[h]? = some place)
    {k : Nat} (hk : k ≠ place) :
    (∀ all, p.wakes handles k all = false) ∧ p.waits handles k = false := by
  have hne : handles[h]? ≠ some k := by
    rw [hplace]
    exact fun heq => hk (Option.some.inj heq).symm
  cases p with
  | waking h' b =>
    obtain rfl : h' = h := hp h' rfl
    simp [wakes, waits, hne]
  | waiting h' timed =>
    obtain rfl : h' = h := hp h' rfl
    simp [wakes, waits, hne]
  | _ => exact ⟨fun _ => rfl, rfl⟩

theorem handle?_looked {t : Nat} {timed : Bool} {q : Queue α} {taken : List α} :
    ∀ k ∈ (looked t h timed q taken).handle?, k = h := by
  unfold looked
  split_ifs <;> simp [handle?]

theorem wakes_looked {t : Nat} {timed all : Bool} {q : Queue α} {taken : List α} :
    (looked t h timed q taken).wakes handles place all = false := by
  unfold looked
  split_ifs <;> rfl

/-- After it has looked for an item a thread waits if it is parked. Otherwise it has
an item, or its time has run out, and it strays only if the lock is tainted. -/
theorem waits_looked {t : Nat} {timed : Bool} {q : Queue α} {taken : List α}
    (hplace : handles[h]? = some place)
    (hq : t ∈ q.parked ∨
      t ∉ q.consumers ∧ (timed = true ∨ q.tainted = true ∨ taken ≠ [])) :
    (t ∈ q.consumers ↔ (looked t h timed q taken).waits handles place = true) ∧
      (looked t h timed q taken = .stray → q.tainted = true) := by
  unfold looked
  rcases hq with hparked | ⟨hout, hend⟩
  · have hin : t ∈ q.consumers := List.mem_append_left _ hparked
    simp [hparked, hin, waits, hplace]
  · have hparked : t ∉ q.parked := fun hin => hout (List.mem_append_left _ hin)
    rw [if_neg hparked]
    split_ifs with hready
    · simp [hout, waits]
    · simp only [Bool.or_eq_true, Bool.not_eq_true', List.isEmpty_eq_false_iff, not_or] at hready
      refine ⟨by simp [hout, waits], fun _ => ?_⟩
      exact (hend.resolve_left hready.1).resolve_right hready.2

end Phase

namespace Call

variable {handles : List Nat} {h place : Nat}

/-- After a call a thread owes the wake-ups that the call has promised. -/
theorem wakes_next (hplace : handles[h]? = some place) (call : Call α) (t : Nat)
    (expired all : Bool) (q : Queue α) (taken : List α) :
    ((call.next t h q taken).wakes handles place all).toNat =
      (call.action t expired).promises all := by
  match call with
  | .push x => cases all <;> simp [next, Phase.wakes, hplace, action, Action.promises]
  | .extend [] => rfl
  | .extend [x] => cases all <;> simp [next, Phase.wakes, hplace, action, Action.promises]
  | .extend (x :: y :: xs) =>
    cases all <;> simp [next, Phase.wakes, hplace, action, Action.promises]
  | .extendAborted xs => rfl
  | .tryPop => rfl
  | .drain => rfl
  | .popTimeout =>
    rw [next, Phase.wakes_looked]
    cases expired <;> rfl
  | .popBlocking =>
    rw [next, Phase.wakes_looked]
    rfl

theorem issues_action (call : Call α) (t : Nat) (expired all : Bool) :
    (call.action t expired).issues all = 0 := by
  cases call <;> cases expired <;> rfl

theorem handle?_next (call : Call α) (t : Nat) (q : Queue α) (taken : List α) :
    ∀ k ∈ (call.next t h q taken).handle?, k = h := by
  match call with
  | .push x | .extend [x] | .extend (x :: y :: xs) => simp [next, Phase.handle?]
  | .extend [] | .extendAborted xs | .tryPop | .drain => simp [next, Phase.handle?]
  | .popTimeout | .popBlocking => exact Phase.handle?_looked

/-- **A call ends, goes on to a wake-up, or waits**, and a thread that waits is
among the consumers. -/
theorem waits_next (hplace : handles[h]? = some place) (call : Call α) {t : Nat} {expired : Bool}
    {q r : Queue α} {taken : List α} (hact : Acts q (call.action t expired) r taken)
    (ht : t ∉ q.consumers) :
    (t ∈ r.consumers ↔ (call.next t h r taken).waits handles place = true) ∧
      (call.next t h r taken = .stray → r.tainted = true) := by
  -- A call without a wait leaves the consumers as they are.
  have hout : (call.action t expired).consumer? = none → t ∉ r.consumers := fun hnone => by
    rw [(hact.consumers_other hnone).mem_iff]
    exact ht
  have hlook : ∀ timed, call.action t expired = .enter t →
      t ∈ r.parked ∨ t ∉ r.consumers ∧ (timed = true ∨ r.tainted = true ∨ taken ≠ []) := by
    intro timed henter
    rw [henter] at hact
    obtain ⟨-, ⟨hparked, -⟩ | ⟨-, heq, htaken⟩⟩ := hact.consumers_enter
    · exact Or.inl hparked
    · exact Or.inr ⟨heq ▸ ht, Or.inr (Or.inr htaken)⟩
  match call with
  | .push x | .extend [x] | .extend (x :: y :: xs) => simp [next, Phase.waits, hout rfl]
  | .extend [] | .extendAborted xs | .tryPop | .drain => simp [next, Phase.waits, hout rfl]
  | .popTimeout =>
    cases expired with
    | true => exact Phase.waits_looked hplace (Or.inr ⟨hout rfl, Or.inl rfl⟩)
    | false => exact Phase.waits_looked hplace (hlook true rfl)
  | .popBlocking => exact Phase.waits_looked hplace (hlook false rfl)

end Call

namespace Crew

variable {n : Nat} {c d : Crew α n} {m : Move n} {t : Fin n} {h place : Nat} {a : Action α}
  {next : Queue α → List α → Phase} {r : Queue α} {taken : List α} {calls : List (Nat × Call α)}

/-- The number of threads that are about to wake one consumer, or all, of a queue. -/
def owed (c : Crew α n) (place : Nat) (all : Bool) : Nat :=
  (Finset.univ.filter fun t => (c.phase t).wakes c.pool.handles place all = true).card

theorem card_update (f : Phase → Bool) (phase : Fin n → Phase) (t : Fin n) (p : Phase) :
    (Finset.univ.filter fun u => f (Function.update phase t p u) = true).card +
        (f (phase t)).toNat =
      (Finset.univ.filter fun u => f (phase u) = true).card + (f p).toNat := by
  have hrest : ∑ u ∈ Finset.univ.erase t, (if f (Function.update phase t p u) = true then 1 else 0) =
      ∑ u ∈ Finset.univ.erase t, (if f (phase u) = true then 1 else 0) := by
    refine Finset.sum_congr rfl fun u hu => ?_
    rw [Function.update_of_ne (Finset.ne_of_mem_erase hu)]
  rw [Finset.card_filter, Finset.card_filter, ← Finset.add_sum_erase _ _ (Finset.mem_univ t), hrest,
    ← Finset.add_sum_erase (Finset.univ : Finset (Fin n)) (fun u => if f (phase u) = true then 1 else 0)
      (Finset.mem_univ t), Function.update_self]
  cases f p <;> cases f (phase t) <;> simp <;> omega

namespace Deed

theorem added (hd : Deed c t h a next calls) : a.added = calls.flatMap (·.2.added) := by
  cases hd with
  | @call call later expired _ _ => simp [Call.added_action]
  | @notify all target _ => cases all <;> rfl
  | wake => rfl
  | resume => rfl

theorem orphans (hd : Deed c t h a next calls) : a.orphans = (calls.map (·.2.orphans)).sum := by
  cases hd with
  | @call call later expired _ _ => simp [Call.orphans_action]
  | @notify all target _ => cases all <;> rfl
  | wake => rfl
  | resume => rfl

theorem taints (hd : Deed c t h a next calls) : a.taints = calls.any (·.2.aborts) := by
  cases hd with
  | @call call later expired _ _ => simp [Call.taints_action]
  | @notify all target _ => cases all <;> rfl
  | wake => rfl
  | resume => rfl

theorem through (hd : Deed c t h a next calls) : ∀ call ∈ calls, call.1 = h := by
  cases hd <;> simp

theorem handle? (hd : Deed c t h a next calls) (r : Queue α) (taken : List α) :
    (∀ k ∈ (c.phase t).handle?, k = h) ∧ ∀ k ∈ (next r taken).handle?, k = h := by
  cases hd with
  | @call call later expired hphase _ =>
    rw [hphase]
    exact ⟨by simp [Phase.handle?], call.handle?_next t r taken⟩
  | notify target hphase =>
    rw [hphase]
    simp [Phase.handle?]
  | wake hphase =>
    rw [hphase]
    simp [Phase.handle?]
  | resume expired hphase =>
    rw [hphase]
    exact ⟨by simp [Phase.handle?], Phase.handle?_looked⟩

variable {handles : List Nat}

/-- **A thread owes a wake-up from the action that promises it to the one that
issues it.** -/
theorem wakes (hd : Deed c t h a next calls) (hplace : handles[h]? = some place) (all : Bool)
    (r : Queue α) (taken : List α) :
    ((c.phase t).wakes handles place all).toNat + a.promises all =
      ((next r taken).wakes handles place all).toNat + a.issues all := by
  cases hd with
  | @call call later expired hphase _ =>
    rw [hphase, Call.wakes_next hplace call t expired, Call.issues_action]
    exact Nat.zero_add _
  | @notify b target hphase =>
    rw [hphase]
    cases b <;> cases all <;> simp [Phase.wakes, Action.promises, Action.issues, hplace]
  | wake hphase =>
    rw [hphase]
    rfl
  | resume expired hphase =>
    rw [hphase, Phase.wakes_looked]
    rfl

/-- **A thread is among the consumers exactly while it waits**, and no other thread
comes or goes with it. -/
theorem waits (hd : Deed c t h a next calls) (hplace : handles[h]? = some place) {q : Queue α}
    (hact : Acts q a r taken) (hq : q.consumers.Nodup)
    (ht : t.val ∈ q.consumers ↔ (c.phase t).waits handles place = true) :
    (∀ k, k ≠ t.val → (k ∈ r.consumers ↔ k ∈ q.consumers)) ∧
      (t.val ∈ r.consumers ↔ (next r taken).waits handles place = true) ∧
      (next r taken = .stray → r.tainted = true) := by
  cases hd with
  | @call call later expired hphase _ =>
    rw [hphase] at ht
    have hout : t.val ∉ q.consumers := fun hin => absurd (ht.1 hin) (by simp [Phase.waits])
    refine ⟨fun k hk => hact.mem_consumers ?_, call.waits_next hplace hact hout⟩
    cases call <;> cases expired <;> simp [Call.action, Action.consumer?, Ne.symm hk]
  | @notify all target hphase =>
    have hnone : (if all then .notifyAll else .notifyOne target : Action α).consumer? = none := by
      cases all <;> rfl
    rw [hphase] at ht
    have hperm := hact.consumers_other hnone
    refine ⟨fun k _ => hperm.mem_iff, ?_, by simp⟩
    rw [hperm.mem_iff, ht]
    rfl
  | wake hphase =>
    rw [hphase] at ht
    have hperm := hact.consumers_other rfl
    exact ⟨fun k _ => hperm.mem_iff, by rw [hperm.mem_iff, ht], by simp⟩
  | @resume timed expired hphase =>
    refine ⟨fun k hk => hact.mem_consumers (by simpa [Action.consumer?] using Ne.symm hk), ?_⟩
    refine Phase.waits_looked hplace ?_
    obtain ⟨-, ⟨hparked, -⟩ | ⟨hperm, hend⟩⟩ := hact.consumers_resume
    · exact Or.inl hparked
    · refine Or.inr ⟨(List.nodup_cons.1 (hperm.nodup_iff.1 hq)).1, ?_⟩
      exact hend.imp_left fun hboth => (Bool.and_eq_true_iff.1 hboth).1

end Deed

/-! ### The books of a crew -/

/-- The lots of items that a thread has added to a queue, each by one action. -/
def batches (c : Crew α n) (place : Nat) (t : Fin n) : List (List α) :=
  (((c.log place).filter fun e => e.thread = t).map (·.added)).filter fun xs => !xs.isEmpty

end Crew

/-- The lots of items that calls add to a queue. -/
def Plan.batches {n : Nat} (plan : Plan α n) (place : Nat) (calls : List (Nat × Call α)) :
    List (List α) :=
  ((calls.filter fun call => plan.handles[call.1]? = some place).map (·.2.added)).filter
    fun xs => !xs.isEmpty

/-- The items that calls add to a queue and never wake anybody for. -/
def Plan.orphans {n : Nat} (plan : Plan α n) (place : Nat) (calls : List (Nat × Call α)) : Nat :=
  ((calls.filter fun call => plan.handles[call.1]? = some place).map (·.2.orphans)).sum

theorem Plan.orphans_append {n : Nat} (plan : Plan α n) (place : Nat)
    (calls later : List (Nat × Call α)) :
    plan.orphans place (calls ++ later) = plan.orphans place calls + plan.orphans place later := by
  simp [Plan.orphans]

namespace Crew

variable {plan : Plan α n}

/-- What holds of a crew that has followed its plan so far. -/
structure Sound (plan : Plan α n) (c : Crew α n) : Prop where
  handles : c.pool.handles = plan.handles
  count : c.pool.cells.length = plan.queues
  course : ∀ t, plan.calls t = c.made t ++ c.ahead t
  kept : ∀ place, c.removed place ++ (c.queueAt place).items = c.added place
  batches : ∀ place t, c.batches place t = plan.batches place (c.made t)
  /-- The wake-ups that are due are those that threads are about to issue. -/
  due : ∀ place all, (c.queueAt place).due all = c.owed place all
  apart : ∀ place, (c.queueAt place).consumers.Nodup
  /-- The consumers are the threads inside a wait. -/
  waits : ∀ place k, k ∈ (c.queueAt place).consumers ↔
    ∃ t : Fin n, t.val = k ∧ (c.phase t).waits plan.handles place = true
  /-- A lock is tainted from the first call on it that aborts. -/
  tainted : ∀ place, (c.queueAt place).tainted = true ↔
    ∃ t, ∃ call ∈ c.made t, plan.handles[call.1]? = some place ∧ call.2.aborts = true
  /-- A wait without limit ends without an item only under a tainted lock. -/
  steady : ∀ t, c.phase t = .stray → ∃ place, (c.queueAt place).tainted = true

theorem queueAt_start (plan : Plan α n) (place : Nat) : (start plan).queueAt place = .empty := by
  unfold queueAt start
  rw [List.getElem?_replicate]
  split_ifs <;> rfl

theorem Sound.start (plan : Plan α n) : Sound plan (start plan) where
  handles := rfl
  count := List.length_replicate
  course _ := rfl
  kept place := by
    rw [queueAt_start]
    rfl
  batches _ _ := rfl
  due place all := by
    rw [queueAt_start, owed]
    cases all <;> simp [Queue.due, Queue.empty, Crew.start, Phase.wakes]
  apart place := by
    rw [queueAt_start]
    exact List.nodup_nil
  waits place k := by
    rw [queueAt_start]
    simp [Queue.consumers, Queue.empty, Crew.start, Phase.waits]
  tainted place := by
    rw [queueAt_start]
    simp [Queue.empty, Crew.start]
  steady _ := by simp [Crew.start]

section

variable {p : Phase}

/-- **Nothing is lost and nothing is made up**, whichever queue a step acts on. -/
theorem Stepped.kept (hs : Stepped c d t place a r taken p calls)
    (hkept : ∀ k, c.removed k ++ (c.queueAt k).items = c.added k) (k : Nat) :
    d.removed k ++ (d.queueAt k).items = d.added k := by
  unfold removed added at hkept ⊢
  rw [hs.log, hs.queues]
  by_cases hk : k = place
  · subst hk
    have hact := act_items hs.act
    simp only [Function.update_self, List.flatMap_append, List.flatMap_singleton]
    rw [List.append_assoc, hact, ← List.append_assoc, hkept]
  · simp only [Function.update_of_ne hk, hkept]

theorem batches_deed (hd : Deed c t h a next calls) (hplace : plan.handles[h]? = some place)
    (k : Nat) :
    plan.batches k calls = if k = place then [a.added].filter fun xs => !xs.isEmpty else [] := by
  have hadded := hd.added
  cases hd with
  | call expired hphase hahead =>
    rw [hadded]
    by_cases hk : k = place
    · simp [Plan.batches, hplace, hk]
    · simp [Plan.batches, hplace, hk, Ne.symm hk]
  | _ =>
    rw [hadded]
    simp [Plan.batches]

/-- **The lots that a thread has added are those of its calls, in the order of its
calls.** -/
theorem Stepped.batches (hs : Stepped c d t place a r taken p calls)
    (hd : Deed c t h a next calls) (hplace : plan.handles[h]? = some place)
    (hbatches : ∀ k u, c.batches k u = plan.batches k (c.made u)) (k : Nat) (u : Fin n) :
    d.batches k u = plan.batches k (d.made u) := by
  have hnew := batches_deed hd hplace k
  have hmade : plan.batches k (d.made u) =
      plan.batches k (c.made u) ++ if u = t then plan.batches k calls else [] := by
    rw [hs.made]
    by_cases hu : u = t
    · subst hu
      simp [Plan.batches]
    · simp [hu]
  rw [hmade, ← hbatches, hnew, Crew.batches, Crew.batches, hs.log]
  by_cases hk : k = place
  · subst hk
    by_cases hu : u = t
    · subst hu
      simp [List.filter_append]
    · simp [List.filter_append, hu, Ne.symm hu]
  · simp [hk]

theorem Stepped.due (hs : Stepped c d t place a r taken (next r taken) calls)
    (hd : Deed c t h a next calls) (hplace : c.pool.handles[h]? = some place)
    (hdue : ∀ k all, (c.queueAt k).due all = c.owed k all) (k : Nat) (all : Bool) :
    (d.queueAt k).due all = d.owed k all := by
  have hcount := card_update (Phase.wakes c.pool.handles k all) c.phase t (next r taken)
  have hbefore := hdue k all
  rw [owed] at hbefore
  rw [owed, hs.handles, hs.phase, hs.queues]
  by_cases hk : k = place
  · subst hk
    have hacts := (acts_of_act hs.act).due all
    have howes := hd.wakes hplace all r taken
    rw [Function.update_self]
    omega
  · obtain ⟨hp, hp'⟩ := hd.handle? r taken
    have h1 := (Phase.elsewhere hp hplace hk).1 all
    have h2 := (Phase.elsewhere hp' hplace hk).1 all
    rw [h1, h2] at hcount
    rw [Function.update_of_ne hk, hbefore]
    exact (Nat.add_right_cancel hcount).symm

/-- A lock stays tainted from the first call on it that aborts. -/
theorem Stepped.tainted (hs : Stepped c d t place a r taken p calls)
    (hd : Deed c t h a next calls) (hplace : plan.handles[h]? = some place)
    (htainted : ∀ k, (c.queueAt k).tainted = true ↔
      ∃ u, ∃ call ∈ c.made u, plan.handles[call.1]? = some k ∧ call.2.aborts = true) (k : Nat) :
    (d.queueAt k).tainted = true ↔
      ∃ u, ∃ call ∈ d.made u, plan.handles[call.1]? = some k ∧ call.2.aborts = true := by
  -- The calls of the step count for the queue that it acts on.
  have hnew : (∃ call ∈ calls, plan.handles[call.1]? = some k ∧ call.2.aborts = true) ↔
      k = place ∧ a.taints = true := by
    rw [hd.taints, List.any_eq_true]
    constructor
    · rintro ⟨call, hmem, hk, haborts⟩
      rw [hd.through call hmem, hplace] at hk
      exact ⟨(Option.some.inj hk).symm, call, hmem, haborts⟩
    · rintro ⟨rfl, call, hmem, haborts⟩
      exact ⟨call, hmem, by rw [hd.through call hmem, hplace], haborts⟩
  have hmade : (∃ u, ∃ call ∈ d.made u, plan.handles[call.1]? = some k ∧ call.2.aborts = true) ↔
      (c.queueAt k).tainted = true ∨ k = place ∧ a.taints = true := by
    rw [htainted, ← hnew, hs.made]
    constructor
    · rintro ⟨u, call, hmem, hcall⟩
      by_cases hu : u = t
      · subst hu
        rw [Function.update_self, List.mem_append] at hmem
        exact hmem.imp (fun hmem => ⟨u, call, hmem, hcall⟩) fun hmem => ⟨call, hmem, hcall⟩
      · rw [Function.update_of_ne hu] at hmem
        exact Or.inl ⟨u, call, hmem, hcall⟩
    · rintro (⟨u, call, hmem, hcall⟩ | ⟨call, hmem, hcall⟩)
      · refine ⟨u, call, ?_, hcall⟩
        by_cases hu : u = t
        · subst hu
          rw [Function.update_self]
          exact List.mem_append_left _ hmem
        · rwa [Function.update_of_ne hu]
      · refine ⟨t, call, ?_, hcall⟩
        rw [Function.update_self]
        exact List.mem_append_right _ hmem
  rw [hmade, hs.queues]
  by_cases hk : k = place
  · subst hk
    rw [Function.update_self, (acts_of_act hs.act).tainted, Bool.or_eq_true_iff]
    simp
  · rw [Function.update_of_ne hk]
    simp [hk]

/-- The consumers stay the threads inside a wait, and a thread strays only under a tainted
lock. -/
theorem Stepped.waits (hs : Stepped c d t place a r taken (next r taken) calls)
    (hd : Deed c t h a next calls) (hplace : plan.handles[h]? = some place) (hc : Sound plan c) :
    (∀ k i, i ∈ (d.queueAt k).consumers ↔
      ∃ u : Fin n, u.val = i ∧ (d.phase u).waits plan.handles k = true) ∧
    ∀ u, d.phase u = .stray → ∃ k, (d.queueAt k).tainted = true := by
  -- A thread is among the consumers of a queue if it waits for an item of it.
  have hself : ∀ k (u : Fin n), u.val ∈ (c.queueAt k).consumers ↔
      (c.phase u).waits plan.handles k = true := by
    intro k u
    rw [hc.waits]
    exact ⟨fun ⟨v, hv, hw⟩ => Fin.ext hv ▸ hw, fun hw => ⟨u, rfl, hw⟩⟩
  obtain ⟨hothers, hin, hsteady⟩ :=
    hd.waits hplace (acts_of_act hs.act) (hc.apart place) (hself place t)
  refine ⟨fun k i => ?_, fun u hstray => ?_⟩
  · rw [hs.queues, hs.phase]
    by_cases hk : k = place
    · subst hk
      rw [Function.update_self]
      by_cases hi : i = t.val
      · subst hi
        rw [hin]
        constructor
        · intro hw
          exact ⟨t, rfl, by rwa [Function.update_self]⟩
        · rintro ⟨u, hu, hw⟩
          rwa [Fin.ext hu, Function.update_self] at hw
      · rw [hothers i hi, hc.waits]
        refine exists_congr fun u => and_congr_right fun hu => ?_
        rw [Function.update_of_ne fun heq => hi (by rw [← hu, heq])]
    · obtain ⟨hp, hp'⟩ := hd.handle? r taken
      rw [Function.update_of_ne hk, hc.waits]
      refine exists_congr fun u => and_congr_right fun _ => ?_
      by_cases hu : u = t
      · rw [hu, Function.update_self, (Phase.elsewhere hp hplace hk).2,
          (Phase.elsewhere hp' hplace hk).2]
      · rw [Function.update_of_ne hu]
  · rw [hs.phase] at hstray
    rw [hs.queues]
    by_cases hu : u = t
    · subst hu
      rw [Function.update_self] at hstray
      exact ⟨place, by rw [Function.update_self]; exact hsteady hstray⟩
    · rw [Function.update_of_ne hu] at hstray
      obtain ⟨k, hk⟩ := hc.steady u hstray
      refine ⟨k, ?_⟩
      by_cases hkp : k = place
      · subst hkp
        rw [Function.update_self, (acts_of_act hs.act).tainted, hk, Bool.true_or]
      · rwa [Function.update_of_ne hkp]

end

/-- **A step keeps the books.** -/
theorem Sound.step (hc : Sound plan c) (hstep : c.step m = some d) : Sound plan d := by
  obtain ⟨t, h, place, a, next, r, taken, calls, hd, -, hplace, hs⟩ := step_cases hstep
  have hplan : plan.handles[h]? = some place := hc.handles ▸ hplace
  obtain ⟨hwaits, hsteady⟩ := hs.waits hd hplan hc
  refine ⟨hs.handles.trans hc.handles, hs.count.trans hc.count, fun u => ?_, hs.kept hc.kept,
    hs.batches hd hplan hc.batches, hs.due hd hplace hc.due, fun k => ?_, hwaits,
    hs.tainted hd hplan hc.tainted, hsteady⟩
  · have hcourse := hc.course u
    rw [hs.ahead] at hcourse
    rw [hs.made]
    by_cases hu : u = t
    · subst hu
      rw [hcourse, Function.update_self, Function.update_self, List.append_assoc]
    · rw [Function.update_of_ne hu] at hcourse ⊢
      exact hcourse
  · rw [hs.queues]
    by_cases hk : k = place
    · rw [hk, Function.update_self]
      exact (acts_of_act hs.act).nodup (hc.apart place)
    · rw [Function.update_of_ne hk]
      exact hc.apart k

/-- A property of crews that every step keeps holds of all that a run reaches. -/
theorem foldl_move {P : Crew α n → Prop} (hstep : ∀ c m d, P c → c.step m = some d → P d)
    (moves : List (Move n)) {c : Crew α n} (hc : P c) : P (moves.foldl move c) := by
  induction moves generalizing c with
  | nil => exact hc
  | cons m moves ih =>
    refine ih ?_
    unfold move
    rcases hd : c.step m with _ | d
    · exact hc
    · exact hstep c m d hc hd

theorem sound_run (plan : Plan α n) (moves : List (Move n)) : Sound plan (run plan moves) :=
  foldl_move (fun _ _ _ hc hd => hc.step hd) moves (.start plan)

/-- A crew that some moves lead to. -/
def Reached (plan : Plan α n) (c : Crew α n) : Prop := ∃ moves, run plan moves = c

theorem Reached.sound (hc : Reached plan c) : Sound plan c := by
  obtain ⟨moves, rfl⟩ := hc
  exact sound_run plan moves

/-! ### First in, first out -/

theorem queueAt_move (hc : Sound plan c) {place : Nat}
    (hchange : (c.move m).queueAt place ≠ c.queueAt place) :
    ∃ h, c.through? m = some h ∧ plan.handles[h]? = some place := by
  unfold move at hchange
  rcases hstep : c.step m with _ | d
  · exact absurd (by rw [hstep]; rfl) hchange
  · rw [hstep, Option.getD_some] at hchange
    obtain ⟨t, h, k, a, next, r, taken, calls, -, hthrough, hplace, hs⟩ := step_cases hstep
    refine ⟨h, hthrough, ?_⟩
    by_cases hk : place = k
    · rwa [hk, ← hc.handles]
    · exact absurd (by rw [hs.queues, Function.update_of_ne hk]) hchange

theorem Sound.infix_added (hc : Sound plan c) {t : Fin n} {call : Nat × Call α}
    (hcall : call ∈ c.made t) (hplace : plan.handles[call.1]? = some place) :
    call.2.added <:+: c.added place := by
  by_cases hnil : call.2.added = []
  · rw [hnil]
    exact List.nil_infix
  have hlot : call.2.added ∈ c.batches place t := by
    rw [hc.batches, Plan.batches, List.mem_filter]
    refine ⟨List.mem_map.2 ⟨call, List.mem_filter.2 ⟨hcall, by simpa using hplace⟩, rfl⟩, ?_⟩
    simpa using hnil
  obtain ⟨e, he, heq⟩ := List.mem_map.1 (List.mem_filter.1 hlot).1
  rw [← heq, added, List.flatMap_def]
  exact List.infix_of_mem_flatten (List.mem_map.2 ⟨e, (List.mem_filter.1 he).1, rfl⟩)

/-- **Items leave a queue in the order in which they came**, whatever the threads do and in
whichever order. Every thread adds in the order of its calls, and the items of one call
stand together; a call that aborts has added the items that came before. -/
theorem reached_fifo (hc : Reached plan c) (place : Nat) :
    c.removed place ++ (c.queueAt place).items = c.added place ∧
    (∀ t, plan.calls t = c.made t ++ c.ahead t ∧
      c.batches place t = plan.batches place (c.made t)) ∧
    (∀ t, ∀ call ∈ c.made t, plan.handles[call.1]? = some place →
      call.2.added <:+: c.added place) ∧
    (c.removed place).length + (c.queueAt place).size = (c.added place).length ∧
    ((c.queueAt place).isEmpty = true ↔ c.removed place = c.added place) ∧
    (∀ h, plan.handles[h]? = some place → place < plan.queues →
      c.pool.get? h = some (c.queueAt place)) ∧
    ∀ m, (c.move m).queueAt place ≠ c.queueAt place →
      ∃ h, c.through? m = some h ∧ plan.handles[h]? = some place := by
  have hs := hc.sound
  have hkept := hs.kept place
  refine ⟨hkept, fun t => ⟨hs.course t, hs.batches place t⟩,
    fun t call hcall hplace => hs.infix_added hcall hplace, ?_, ?_, fun h hplace hlt => ?_,
    fun m hchange => queueAt_move hs hchange⟩
  · rw [← hkept, List.length_append]
    rfl
  · rw [isEmpty, List.isEmpty_iff, ← hkept, List.self_eq_append_right]
  · have hcell : place < c.pool.cells.length := by rwa [hs.count]
    rw [Pool.get?, hs.handles, hplace, Option.bind_some, queueAt, List.getElem?_eq_getElem hcell,
      Option.getD_some]

/-- Two queues, two handles for the first, and three threads: one adds to it through
either handle, one adds two items and aborts, and one waits for an item. -/
def relay : Plan Nat 3 where
  queues := 2
  handles := [0, 0, 1]
  calls := ![[(0, .push 1), (1, .extend [2, 3])], [(1, .extendAborted [7, 8]), (2, .push 9)],
    [(0, .popBlocking)]]

/-- The third thread parks, and both others add. The first wakes it, it takes an
item, and the first adds again. -/
def relayed : Crew Nat 3 :=
  run relay [.call 2 false, .call 1 false, .call 0 false, .call 1 false, .notify 0 2,
    .resume 2 false, .call 0 false]

/-- One item is gone from the first queue and four are left, and the two that came
before the abort stood together. -/
theorem reached_fifo_relayed :
    Reached relay relayed ∧
    relayed.removed 0 = [7] ∧ relayed.added 0 = [7, 8, 1, 2, 3] ∧
    (relayed.queueAt 0).items = [8, 1, 2, 3] ∧ (relayed.queueAt 1).items = [9] ∧
    [7] ++ (relayed.queueAt 0).items = [7, 8, 1, 2, 3] ∧
    relayed.batches 0 0 = [[1], [2, 3]] ∧ [7, 8] <:+: relayed.added 0 := by
  have hreached : Reached relay relayed := ⟨_, rfl⟩
  obtain ⟨hkept, hcalls, hinfix, -⟩ := reached_fifo hreached 0
  have hremoved : relayed.removed 0 = [7] := by decide
  have hadded : relayed.added 0 = [7, 8, 1, 2, 3] := by decide
  rw [hremoved, hadded] at hkept
  refine ⟨hreached, hremoved, hadded, by decide, by decide, hkept, ?_, ?_⟩
  · rw [(hcalls 0).2]
    decide
  · exact hinfix 1 (1, .extendAborted [7, 8]) (by decide) (by decide)

/-! ### No lost wake-up -/

/-- The items that were added to a queue by calls that aborted. -/
def orphans (plan : Plan α n) (c : Crew α n) (place : Nat) : Nat :=
  ∑ t, plan.orphans place (c.made t)

theorem orphans_step {p : Phase} (hs : Stepped c d t place a r taken p calls)
    (hd : Deed c t h a next calls) (hplace : plan.handles[h]? = some place) (k : Nat) :
    d.orphans plan k = c.orphans plan k + if k = place then a.orphans else 0 := by
  have hnew : plan.orphans k calls = if k = place then a.orphans else 0 := by
    have hthrough := hd.through
    rw [hd.orphans]
    unfold Plan.orphans
    split_ifs with hk
    · rw [List.filter_eq_self.2 fun call hcall => by simp [hthrough call hcall, hplace, hk]]
    · rw [List.filter_eq_nil_iff.2 fun call hcall => by
        simp [hthrough call hcall, hplace, Ne.symm hk]]
      rfl
  have hmade : ∀ u, plan.orphans k (d.made u) =
      plan.orphans k (c.made u) + if u = t then plan.orphans k calls else 0 := by
    intro u
    rw [hs.made]
    by_cases hu : u = t
    · subst hu
      rw [Function.update_self, Plan.orphans_append, if_pos rfl]
    · rw [Function.update_of_ne hu, if_neg hu, Nat.add_zero]
  rw [orphans, Finset.sum_congr rfl fun u _ => hmade u, Finset.sum_add_distrib, Finset.sum_ite_eq',
    if_pos (Finset.mem_univ t), hnew]
  rfl

/-- Every queue stays roused, but for its orphans. -/
theorem roused_step (hc : Sound plan c)
    (hroused : ∀ place, Roused (c.orphans plan place) (c.queueAt place))
    (hstep : c.step m = some d) (place : Nat) :
    Roused (d.orphans plan place) (d.queueAt place) := by
  obtain ⟨t, h, k, a, next, r, taken, calls, hd, -, hplace, hs⟩ := step_cases hstep
  have hplan : plan.handles[h]? = some k := hc.handles ▸ hplace
  rw [orphans_step hs hd hplan, hs.queues]
  by_cases hk : place = k
  · rw [hk, Function.update_self, if_pos rfl]
    exact (hroused k).act (acts_of_act hs.act)
  · rw [Function.update_of_ne hk, if_neg hk]
    exact hroused place

theorem Reached.roused (hc : Reached plan c) (place : Nat) :
    Roused (c.orphans plan place) (c.queueAt place) := by
  obtain ⟨moves, rfl⟩ := hc
  have hstart : ∀ k, Roused ((start plan).orphans plan k) ((start plan).queueAt k) := fun k => by
    have hnone : (start plan).orphans plan k = 0 := Finset.sum_const_zero
    rw [queueAt_start, hnone]
    exact .empty
  exact (foldl_move (P := fun c => Sound plan c ∧ ∀ k, Roused (c.orphans plan k) (c.queueAt k))
    (fun c m d hc hd => ⟨hc.1.step hd, roused_step hc.1 hc.2 hd⟩) moves
    ⟨.start plan, hstart⟩).2 place

section

variable (hplan : ∀ t, ∀ call ∈ plan.calls t, call.2.aborts = false)

include hplan

theorem Sound.aborts_eq_false (hc : Sound plan c) {t : Fin n} {call : Nat × Call α}
    (hcall : call ∈ c.made t) : call.2.aborts = false := by
  refine hplan t call ?_
  rw [hc.course]
  exact List.mem_append_left _ hcall

theorem Sound.orphans_eq_zero (hc : Sound plan c) (place : Nat) : c.orphans plan place = 0 := by
  refine Finset.sum_eq_zero fun t _ => List.sum_eq_zero fun k hk => ?_
  obtain ⟨⟨h, call⟩, hcall, rfl⟩ := List.mem_map.1 hk
  have haborts := hc.aborts_eq_false hplan (List.mem_filter.1 hcall).1
  cases call with
  | extendAborted xs => cases haborts
  | _ => rfl

theorem Sound.ne_stray (hc : Sound plan c) (t : Fin n) : c.phase t ≠ .stray := by
  intro hstray
  obtain ⟨place, htainted⟩ := hc.steady t hstray
  obtain ⟨u, call, hcall, -, haborts⟩ := (hc.tainted place).1 htainted
  rw [hc.aborts_eq_false hplan hcall] at haborts
  cases haborts

end

/-- **No wake-up is lost** as long as no call aborts: a parked consumer has a wake-up for all
to come, or there are at most as many items as consumers awake and wake-ups for one to
come. So if nobody is awake and no wake-up is due, nobody is parked or there is no item. -/
theorem reached_roused (hplan : ∀ t, ∀ call ∈ plan.calls t, call.2.aborts = false)
    (hc : Reached plan c) (place : Nat) :
    (c.queueAt place).consumers.Nodup ∧
    (∀ k, k ∈ (c.queueAt place).parked ∨ k ∈ (c.queueAt place).woken ↔
      ∃ t : Fin n, t.val = k ∧ (c.phase t).waits plan.handles place = true) ∧
    (c.queueAt place).oneDue = c.owed place false ∧
    (c.queueAt place).allDue = c.owed place true ∧
    ((c.queueAt place).parked ≠ [] → 0 < (c.queueAt place).allDue ∨
      (c.queueAt place).size ≤ (c.queueAt place).woken.length + (c.queueAt place).oneDue) ∧
    ((c.queueAt place).woken = [] → (c.queueAt place).oneDue = 0 →
      (c.queueAt place).allDue = 0 →
        (c.queueAt place).parked = [] ∨ (c.queueAt place).items = []) ∧
    ∀ t, c.phase t ≠ .stray := by
  have hs := hc.sound
  have hroused := hc.roused place
  rw [hs.orphans_eq_zero hplan] at hroused
  refine ⟨hs.apart place, fun k => ?_, hs.due place false, hs.due place true, hroused, ?_,
    hs.ne_stray hplan⟩
  · rw [← hs.waits, consumers, List.mem_append]
  · intro hwoken hone hall
    by_cases hparked : (c.queueAt place).parked = []
    · exact Or.inl hparked
    · have hbound := hroused hparked
      rw [hwoken, hone, hall, List.length_nil] at hbound
      exact Or.inr (List.length_eq_zero_iff.1 (by omega))

/-- A thread that adds two items at once, and two that wait for one. -/
def rush : Plan Nat 3 where
  queues := 1
  handles := [0]
  calls := ![[(0, .extend [1, 2])], [(0, .popBlocking)], [(0, .popTimeout)]]

/-- Both consumers are parked, one of them wakes by itself, and the items are there;
the wake-up for all is still to come. -/
def rushed : Crew Nat 3 := run rush [.call 1 false, .call 2 false, .wake 2, .call 0 false]

/-- There are more items than consumers awake, and the one that is parked counts on
the wake-up that the first thread is about to issue. -/
theorem reached_roused_rushed :
    (∀ t, ∀ call ∈ rush.calls t, call.2.aborts = false) ∧ Reached rush rushed ∧
    (rushed.queueAt 0).parked = [1] ∧ (rushed.queueAt 0).woken = [2] ∧
    (rushed.queueAt 0).size = 2 ∧ (rushed.queueAt 0).oneDue = 0 ∧
    0 < (rushed.queueAt 0).allDue ∧ rushed.owed 0 true = 1 := by
  have hplan : ∀ t, ∀ call ∈ rush.calls t, call.2.aborts = false := by decide
  have hreached : Reached rush rushed := ⟨_, rfl⟩
  have hparked : (rushed.queueAt 0).parked = [1] := by decide
  have hwoken : (rushed.queueAt 0).woken = [2] := by decide
  have hsize : (rushed.queueAt 0).size = 2 := by decide
  have hone : (rushed.queueAt 0).oneDue = 0 := by decide
  have hall : (rushed.queueAt 0).allDue = 1 := by decide
  obtain ⟨-, -, -, hdue, hroused, -⟩ := reached_roused hplan hreached 0
  have hbound := hroused (by rw [hparked]; simp)
  rw [hsize, hwoken, hone] at hbound
  refine ⟨hplan, hreached, hparked, hwoken, hsize, hone, ?_, hdue.symm.trans hall⟩
  exact hbound.resolve_right (by decide)

end Crew
end Queue
end Tagram
