/-
# Counting failures in a row

A retry policy turns a count of failures into a wait: it doubles with every
failure, up to the longest wait (`RetryPolicy.nanos_backoff`). After 32 doublings
it is the longest wait, whether or not they have reached it
(`RetryPolicy.backoff_eq_min_iff`).

Sessions that failed are counted one after another (`Tallied`). One that had
handled a datagram starts the count anew, with one; the count stops at the
largest number of 32 bits. So after the failing session number `k` the count is
`k - j + 1`, where `j` is the last session up to `k` that had handled a datagram
(`Tallied.count_eq`).

Key definitions: `Setback`, `Tallied`, `IsRestart`.
Key theorems: `RetryPolicy.nanos_backoff`, `RetryPolicy.nanos_backoff_mono`,
`RetryPolicy.backoff_eq_min_iff`, `exists_isRestart`, `Tallied.count_eq`,
`Tallied.count_mono`, `Tallied.le_succ`.
-/
import Mathlib
import Tagram.Endpoint.Actor

namespace Tagram

/-! ### The waits -/

theorem Duration.nanos_shorter (a b : Duration) : (a.shorter b).nanos = min a.nanos b.nanos := by
  unfold shorter
  split_ifs with h <;> omega

namespace RetryPolicy

variable (p : RetryPolicy)

/-- **The wait doubles** with every failure in a row, up to the longest one. -/
theorem nanos_backoff (n : Nat) : (p.backoff n).nanos =
    if n < 32 then min (p.initialBackoff.nanos * 2 ^ n) p.maxBackoff.nanos
    else p.maxBackoff.nanos := by
  unfold backoff
  rw [Duration.nanos_shorter]
  split_ifs with hn
  · have hbound := p.maxBackoff.bounded
    unfold Duration.scale? Duration.ofNanos?
    rw [Nat.pow_eq]
    split_ifs with hfit
    · rfl
    · -- A product that is no duration is beyond the longest wait.
      simp only [Option.getD_none]
      omega
  · simp

theorem nanos_backoff_le (n : Nat) : (p.backoff n).nanos ≤ p.maxBackoff.nanos := by
  rw [nanos_backoff]
  split_ifs <;> omega

theorem nanos_backoff_mono {n m : Nat} (h : n ≤ m) : (p.backoff n).nanos ≤ (p.backoff m).nanos := by
  rw [nanos_backoff, nanos_backoff]
  have hpow : p.initialBackoff.nanos * 2 ^ n ≤ p.initialBackoff.nanos * 2 ^ m :=
    Nat.mul_le_mul_left _ (Nat.pow_le_pow_right (by decide) h)
  split_ifs <;> omega

/-- **When the wait is the doubled one, cut at the longest.** Doubling is counted in 32
bits. Beyond them the wait is the longest one, which is right only if doubling has
come that far. So the rule holds for an attempt exactly if it is one of the first 32
or the doubled wait has reached the longest one; and a policy keeps the rule for
every attempt exactly if 32 doublings reach its longest wait. -/
theorem backoff_eq_min_iff :
    (∀ n, (p.backoff n).nanos =
      if n < 32 then min (p.initialBackoff.nanos * 2 ^ n) p.maxBackoff.nanos
      else p.maxBackoff.nanos) ∧
    (∀ n, (p.backoff n).nanos = min (p.initialBackoff.nanos * 2 ^ n) p.maxBackoff.nanos ↔
      n < 32 ∨ p.maxBackoff.nanos ≤ p.initialBackoff.nanos * 2 ^ n) ∧
    ((∀ n < 2 ^ 32,
      (p.backoff n).nanos = min (p.initialBackoff.nanos * 2 ^ n) p.maxBackoff.nanos) ↔
      p.maxBackoff.nanos ≤ p.initialBackoff.nanos * 2 ^ 32) := by
  have hat : ∀ n, (p.backoff n).nanos = min (p.initialBackoff.nanos * 2 ^ n) p.maxBackoff.nanos ↔
      n < 32 ∨ p.maxBackoff.nanos ≤ p.initialBackoff.nanos * 2 ^ n := by
    intro n
    rw [nanos_backoff]
    split_ifs with hn
    · simp [hn]
    · simp [hn]
  refine ⟨p.nanos_backoff, hat, fun h => ?_, fun h n _ => (hat n).2 ?_⟩
  · exact ((hat 32).1 (h 32 (by decide))).resolve_left (by decide)
  · by_cases hn : n < 32
    · exact .inl hn
    · have hpow : p.initialBackoff.nanos * 2 ^ 32 ≤ p.initialBackoff.nanos * 2 ^ n :=
        Nat.mul_le_mul_left _ (Nat.pow_le_pow_right (by decide) (by omega))
      exact .inr (h.trans hpow)

/-- The default policy, but doubling from another first wait. -/
def startingAt (first : Duration) : RetryPolicy :=
  { RetryPolicy.default with initialBackoff := first }

/-- From the 33rd attempt on, the rule fails for first waits of one nanosecond, where 32
doublings give 4.3 of 5 seconds, and of none, which no doubling changes. -/
theorem backoff_ne_min :
    ((startingAt ⟨1, by decide⟩).backoff 32).nanos = 5000000000 ∧
    min ((startingAt ⟨1, by decide⟩).initialBackoff.nanos * 2 ^ 32)
      (startingAt ⟨1, by decide⟩).maxBackoff.nanos = 4294967296 ∧
    ((startingAt ⟨0, by decide⟩).backoff 32).nanos = 5000000000 ∧
    min ((startingAt ⟨0, by decide⟩).initialBackoff.nanos * 2 ^ 32)
      (startingAt ⟨0, by decide⟩).maxBackoff.nanos = 0 := by
  decide

theorem exhausted_of_some {p : RetryPolicy} {m : UInt32} (h : p.maxRetries = some m) (n : Nat) :
    p.exhausted n = decide (m.toNat < n) := by
  simp only [exhausted, h]

end RetryPolicy

namespace Endpoint

/-! ### The count -/

/-- A session that failed. -/
structure Setback where
  /-- How many datagrams the session had handled. -/
  handled : Nat
  source : Net.SocketError
  /-- The count of failures that the thread showed after it. -/
  count : Nat
  /-- The time on the clock when it failed. -/
  time : Nat
  deriving DecidableEq

/-- The sessions that failed so far were counted one after another, up to `n`. -/
inductive Tallied : List Setback → Nat → Prop where
  | nil : Tallied [] 0
  | snoc {past : List Setback} {n : Nat} (h : Tallied past n) (s : Setback)
    (hs : s.count = min maxFailures ((if 0 < s.handled then 0 else n) + 1)) :
    Tallied (past ++ [s]) s.count

theorem getElem?_append_toList {α : Type} {l : List α} {o : Option α} {i : Nat} {x : α}
    (h : (l ++ o.toList)[i]? = some x) : l[i]? = some x ∨ i = l.length ∧ o = some x := by
  rcases Nat.lt_or_ge i l.length with hi | hi
  · left
    rwa [List.getElem?_append_left hi] at h
  · right
    rw [List.getElem?_append_right hi] at h
    cases o with
    | none => cases h
    | some y =>
      have hlt : i - l.length < 1 := (List.getElem?_eq_some_iff.1 h).1
      obtain rfl : i = l.length := by omega
      rw [Nat.sub_self] at h
      exact ⟨rfl, h⟩

theorem take_succ_of_getElem? {past : List Setback} {i : Nat} {s : Setback}
    (hs : past[i]? = some s) : past.take (i + 1) = past.take i ++ [s] := by
  rw [List.take_add_one, hs, Option.toList_some]

/-- Of the failing sessions, numbered from one, `j` is the last that had handled a
datagram; it is the first session if none had. -/
structure IsRestart (past : List Setback) (j : Nat) : Prop where
  pos : 0 < j
  le : j ≤ past.length
  fruitless : ∀ i s, j ≤ i → past[i]? = some s → s.handled = 0
  fruitful : j = 1 ∨ ∃ s, past[j - 1]? = some s ∧ 0 < s.handled

theorem isRestart_concat {past : List Setback} {s : Setback} (h : 0 < s.handled ∨ past = []) :
    IsRestart (past ++ [s]) (past.length + 1) where
  pos := Nat.succ_pos _
  le := by simp
  fruitless i s' hi hs := by
    rw [List.getElem?_eq_none (by simpa using hi)] at hs
    cases hs
  fruitful := by
    rcases h with h | rfl
    · exact .inr ⟨s, by simp, h⟩
    · exact .inl rfl

/-- A session that had handled nothing leaves the restart where it was. -/
theorem isRestart_concat_iff {past : List Setback} {s : Setback} {j : Nat} (hs : s.handled = 0)
    (hj : j ≤ past.length) : IsRestart (past ++ [s]) j ↔ IsRestart past j := by
  constructor
  · rintro ⟨hpos, -, hless, hful⟩
    refine ⟨hpos, hj, fun i s' hi hs' => hless i s' hi ?_, ?_⟩
    · rw [List.getElem?_append_left (List.getElem?_eq_some_iff.1 hs').1]
      exact hs'
    · rwa [List.getElem?_append_left (by omega)] at hful
  · rintro ⟨hpos, -, hless, hful⟩
    refine ⟨hpos, by simp; omega, fun i s' hi hs' => ?_, ?_⟩
    · rcases getElem?_append_toList (show (past ++ (some s).toList)[i]? = some s' from hs') with
        hs' | ⟨-, heq⟩
      · exact hless i s' hi hs'
      · rw [← Option.some.inj heq]
        exact hs
    · rwa [List.getElem?_append_left (by omega)]

/-- Among failing sessions there is one from which on the count runs. -/
theorem exists_isRestart {past : List Setback} (h : past ≠ []) : ∃ j, IsRestart past j := by
  induction past using List.reverseRecOn with
  | nil => exact absurd rfl h
  | append_singleton past s ih =>
    by_cases hs : 0 < s.handled ∨ past = []
    · exact ⟨_, isRestart_concat hs⟩
    · rw [not_or] at hs
      obtain ⟨j, hj⟩ := ih hs.2
      exact ⟨j, (isRestart_concat_iff (by omega) hj.le).2 hj⟩

namespace Tallied

variable {past : List Setback} {n : Nat}

theorem eq_zero (h : Tallied [] n) : n = 0 := by
  generalize hp : ([] : List Setback) = past at h
  cases h with
  | nil => rfl
  | snoc => simp at hp

/-- How the last session was counted. -/
theorem of_concat {s : Setback} (h : Tallied (past ++ [s]) n) :
    ∃ k, Tallied past k ∧ s.count = min maxFailures ((if 0 < s.handled then 0 else k) + 1) := by
  generalize hp : past ++ [s] = whole at h
  cases h with
  | nil => simp at hp
  | @snoc earlier k h s' hs' =>
    obtain ⟨rfl, rfl⟩ : past = earlier ∧ s = s' := by simpa using hp
    exact ⟨k, h, hs'⟩

/-- **The count runs from the last session that had handled a datagram.** -/
theorem count_eq (h : Tallied past n) {j : Nat} (hj : IsRestart past j) :
    n = min maxFailures (past.length - j + 1) := by
  induction h with
  | nil =>
    have h1 := hj.pos
    have h2 := hj.le
    simp only [List.length_nil] at h2
    omega
  | @snoc past n h s hs ih =>
    have hle := hj.le
    rw [List.length_append, List.length_singleton] at hle ⊢
    by_cases hlast : j = past.length + 1
    · -- The count starts anew with this session.
      have hn : (if 0 < s.handled then 0 else n) = 0 := by
        rcases hj.fruitful with h1 | ⟨s', hs', hpos⟩
        · obtain rfl : past = [] := List.length_eq_zero_iff.1 (by omega)
          rw [h.eq_zero, ite_self]
        · rw [hlast, Nat.add_sub_cancel, List.getElem?_concat_length] at hs'
          rw [Option.some.inj hs', if_pos hpos]
      rw [hs, hn, hlast]
      congr 1
      omega
    · have hidle : s.handled = 0 := hj.fruitless past.length s (by omega) (by simp)
      have hprev := ih ((isRestart_concat_iff hidle (by omega)).1 hj)
      rw [hs, hidle, if_neg (Nat.lt_irrefl 0)]
      omega

theorem getLast? (h : Tallied past n) {s : Setback} (hs : past.getLast? = some s) :
    s.count = n := by
  cases h with
  | nil => cases hs
  | snoc h s' _ =>
    rw [List.getLast?_concat] at hs
    rw [Option.some.inj hs]

theorem take (h : Tallied past n) {i : Nat} {s : Setback} (hs : past[i]? = some s) :
    Tallied (past.take (i + 1)) s.count := by
  induction h with
  | nil => simp at hs
  | @snoc past n h s' hs' ih =>
    rcases getElem?_append_toList (show (past ++ (some s').toList)[i]? = some s from hs) with
      hs | ⟨rfl, heq⟩
    · rw [List.take_append_of_le_length (List.getElem?_eq_some_iff.1 hs).1]
      exact ih hs
    · rw [List.take_of_length_le (by simp), ← Option.some.inj heq]
      exact .snoc h s' hs'

/-- How the count of a session follows from the one before it. -/
theorem count_succ (h : Tallied past n) {i : Nat} {s s' : Setback} (hs : past[i]? = some s)
    (hs' : past[i + 1]? = some s') :
    s'.count = min maxFailures ((if 0 < s'.handled then 0 else s.count) + 1) := by
  have htake := h.take hs'
  rw [take_succ_of_getElem? hs'] at htake
  obtain ⟨k, hk, hcount⟩ := htake.of_concat
  have hlast : (past.take (i + 1)).getLast? = some s := by
    rw [take_succ_of_getElem? hs, List.getLast?_concat]
  rw [hcount, hk.getLast? hlast]

theorem le_maxFailures (h : Tallied past n) : n ≤ maxFailures := by
  cases h with
  | nil => exact Nat.zero_le _
  | snoc _ s hs => omega

/-- In a stretch of sessions that had handled nothing the count does not fall. -/
theorem count_mono (h : Tallied past n) {i j : Nat} (hij : i ≤ j) {s s' : Setback}
    (hs : past[i]? = some s) (hs' : past[j]? = some s')
    (hidle : ∀ k r, i < k → k ≤ j → past[k]? = some r → r.handled = 0) : s.count ≤ s'.count := by
  induction j, hij using Nat.le_induction generalizing s' with
  | base =>
    rw [hs] at hs'
    rw [Option.some.inj hs']
  | succ j hij ih =>
    have hlt : j < past.length := Nat.lt_of_succ_lt (List.getElem?_eq_some_iff.1 hs').1
    have hmid : past[j]? = some past[j] := List.getElem?_eq_getElem hlt
    have hprev := ih hmid fun k r hk hkj => hidle k r hk (by omega)
    have hsucc := h.count_succ hmid hs'
    rw [hidle (j + 1) s' (by omega) (Nat.le_refl _) hs', if_neg (Nat.lt_irrefl 0)] at hsucc
    have hbound := (h.take hmid).le_maxFailures
    omega

/-- The count goes over a bound by one. -/
theorem le_succ (h : Tallied past n) {m : Nat} (hm : ∀ s ∈ past.dropLast, s.count ≤ m) :
    n ≤ m + 1 := by
  cases h with
  | nil => exact Nat.zero_le _
  | @snoc past k h s hs =>
    rw [List.dropLast_concat] at hm
    have hk : k ≤ m := by
      cases h with
      | nil => exact Nat.zero_le _
      | snoc _ s' _ => exact hm s' (by simp)
    split_ifs at hs <;> omega

theorem count_eq_one (h : Tallied past n) {i : Nat} {s : Setback} (hs : past[i]? = some s)
    (hpos : 0 < s.handled) : s.count = 1 := by
  have htake := h.take hs
  rw [take_succ_of_getElem? hs] at htake
  obtain ⟨k, -, hcount⟩ := htake.of_concat
  rw [if_pos hpos] at hcount
  exact hcount

end Tallied

end Endpoint
end Tagram
