/-
# A scan ends at the least balanced prefix

What lies inside a string literal is said here without a scan. A literal starts
at a quote outside of all literals and ends at the next quote that is not
escaped, where a backslash inside it escapes the byte after it (`Inner`,
`Outside`). For the scan that counts every brace no byte is inside a literal.
The bytes outside are *structural*, and a text is balanced if as many of them
open a brace as close one.

The scan goes from front to back and keeps a mode and a depth. `structuralFrom`
reads the structural bytes off the modes, and `structural_iff` says that these
are the ones of the grammar, for all bytes. The depth is then what the
structural bytes have opened and not closed (`depthAfter_add`). So the scan of
an object comes to its end at the shortest prefix that is balanced
(`Scan.find_eq_some_iff`), and it never closes a brace when none is open
(`Scan.Meets.pos`).

Key definitions: `Inner`, `Outside`, `Scan.Structural`, `Scan.Balanced`,
`Scan.Meets`.
Key theorems: `structural_iff`, `Scan.close_eq_some_iff`, `Scan.find_eq_some_iff`,
`Scan.find_balanced`.
-/
import Tagram.Proofs.EnvelopeBounds

namespace Tagram
namespace Envelope

/-! ### Structural bytes -/

/-- What can stand between the quotes of a literal: bytes other than the quote and
the backslash, and backslashes, each with the byte that it escapes. -/
inductive Inner : Bytes → Prop where
  | nil : Inner []
  | byte {b : UInt8} {s : Bytes} (hquote : b ≠ 0x22) (hslash : b ≠ 0x5C) (later : Inner s) :
    Inner (b :: s)
  | escape (b : UInt8) {s : Bytes} (later : Inner s) : Inner (0x5C :: b :: s)

/-- The bytes of a text outside of its literals, in order. The last literal may be
cut off by the end of the text, also between a backslash and the byte after it. -/
inductive Outside : Bytes → Bytes → Prop where
  | nil : Outside [] []
  | byte {b : UInt8} {s t : Bytes} (hquote : b ≠ 0x22) (later : Outside s t) :
    Outside (b :: s) (b :: t)
  | literal {inner s t : Bytes} (hinner : Inner inner) (later : Outside s t) :
    Outside (0x22 :: (inner ++ 0x22 :: s)) t
  | unclosed {inner last : Bytes} (hinner : Inner inner) (hlast : last = [] ∨ last = [0x5C]) :
    Outside (0x22 :: (inner ++ last)) []

/-- The structural bytes of a text: all of them for the scan that counts every brace,
those outside of literals for the one that minds quotes. -/
def Scan.Structural : Scan → Bytes → Bytes → Prop
  | .braces, s, t => t = s
  | .strings, s, t => Outside s t

/-- As many structural bytes open a brace as close one. -/
def Scan.Balanced (scan : Scan) (s : Bytes) : Prop :=
  ∃ t, scan.Structural s t ∧ t.count 0x7B = t.count 0x7D

/-! ### The modes of a scan tell the structural bytes -/

/-- A byte that a scan meets in some mode, if it is structural. -/
def Scan.own : Scan → Mode → UInt8 → Bytes
  | .braces, .outside, b => [b]
  | .strings, .outside, b => if b = 0x22 then [] else [b]
  | _, _, _ => []

/-- The structural bytes of a text that a scan enters in some mode. -/
def Scan.structuralFrom (scan : Scan) (mode : Mode) : Bytes → Bytes
  | [] => []
  | b :: s => scan.own mode b ++ structuralFrom scan (scan.after mode b) s

theorem structuralFrom_braces (s : Bytes) : Scan.braces.structuralFrom .outside s = s := by
  induction s with
  | nil => rfl
  | cons b s ih =>
    have hafter : Scan.braces.after .outside b = .outside := rfl
    rw [Scan.structuralFrom, hafter, ih]
    rfl

/-- Nothing inside a literal is structural, and no byte of it ends the literal. -/
theorem structuralFrom_inner {inner : Bytes} (h : Inner inner) (s : Bytes) :
    Scan.strings.structuralFrom .quoted (inner ++ s) = Scan.strings.structuralFrom .quoted s := by
  induction h with
  | nil => rfl
  | @byte b inner hquote hslash _ ih =>
    have hafter : Scan.strings.after .quoted b = .quoted := by simp [Scan.after, hquote, hslash]
    rw [List.cons_append, Scan.structuralFrom, hafter, ih]
    rfl
  | @escape b inner _ ih =>
    have hslash : Scan.strings.after .quoted 0x5C = .escaped := rfl
    have hnext : Scan.strings.after .escaped b = .quoted := rfl
    rw [List.cons_append, List.cons_append, Scan.structuralFrom, hslash, Scan.structuralFrom, hnext,
      ih]
    rfl

theorem structuralFrom_outside {s t : Bytes} (h : Outside s t) :
    Scan.strings.structuralFrom .outside s = t := by
  have hopen : ∀ s, Scan.strings.structuralFrom .outside (0x22 :: s) =
      Scan.strings.structuralFrom .quoted s := fun _ => rfl
  induction h with
  | nil => rfl
  | @byte b s t hquote _ ih =>
    have hafter : Scan.strings.after .outside b = .outside := by simp [Scan.after, hquote]
    have hown : Scan.strings.own .outside b = [b] := by simp [Scan.own, hquote]
    rw [Scan.structuralFrom, hafter, hown, ih]
    rfl
  | @literal inner s t hinner _ ih =>
    have hclose : Scan.strings.structuralFrom .quoted (0x22 :: s) =
        Scan.strings.structuralFrom .outside s := rfl
    rw [hopen, structuralFrom_inner hinner, hclose, ih]
  | @unclosed inner last hinner hlast =>
    rw [hopen, structuralFrom_inner hinner]
    rcases hlast with rfl | rfl
    · rfl
    · rfl

/-- After an opening quote comes a literal, or the text ends inside of one. -/
theorem exists_inner : ∀ s : Bytes, ∃ inner rest, Inner inner ∧ s = inner ++ rest ∧
    (rest = [] ∨ rest = [0x5C] ∨ ∃ later, rest = 0x22 :: later)
  | [] => ⟨[], [], .nil, rfl, .inl rfl⟩
  | b :: s => by
    by_cases hquote : b = 0x22
    · exact ⟨[], b :: s, .nil, rfl, .inr (.inr ⟨s, by rw [hquote]⟩)⟩
    by_cases hslash : b = 0x5C
    · -- The backslash takes the byte after it along, if there is one.
      subst hslash
      match s with
      | [] => exact ⟨[], [0x5C], .nil, rfl, .inr (.inl rfl)⟩
      | c :: s =>
        obtain ⟨inner, rest, hinner, hs, hrest⟩ := exists_inner s
        exact ⟨0x5C :: c :: inner, rest, .escape c hinner, by rw [hs]; rfl, hrest⟩
    · obtain ⟨inner, rest, hinner, hs, hrest⟩ := exists_inner s
      exact ⟨b :: inner, rest, .byte hquote hslash hinner, by rw [hs]; rfl, hrest⟩

/-- Every text is made of bytes outside of literals and of literals, the last of which
may be cut off. -/
theorem exists_outside (s : Bytes) : ∃ t, Outside s t := by
  induction hn : s.length using Nat.strong_induction_on generalizing s with
  | _ n ih =>
    match s with
    | [] => exact ⟨[], .nil⟩
    | b :: s =>
      rw [List.length_cons] at hn
      by_cases hquote : b = 0x22
      · subst hquote
        obtain ⟨inner, rest, hinner, hs, hrest⟩ := exists_inner s
        rcases hrest with rfl | rfl | ⟨later, rfl⟩
        · exact ⟨[], hs ▸ .unclosed hinner (.inl rfl)⟩
        · exact ⟨[], hs ▸ .unclosed hinner (.inr rfl)⟩
        · have hlength : later.length < n := by
            rw [hs, List.length_append, List.length_cons] at hn
            omega
          obtain ⟨t, ht⟩ := ih later.length hlength later rfl
          exact ⟨t, hs ▸ .literal hinner ht⟩
      · obtain ⟨t, ht⟩ := ih s.length (by omega) s rfl
        exact ⟨b :: t, .byte hquote ht⟩

/-- **The modes of a scan tell the structural bytes**, for every text. -/
theorem structural_iff {scan : Scan} {s t : Bytes} :
    scan.Structural s t ↔ scan.structuralFrom .outside s = t := by
  cases scan with
  | braces =>
    rw [structuralFrom_braces]
    exact eq_comm
  | strings =>
    refine ⟨structuralFrom_outside, fun h => ?_⟩
    obtain ⟨t', ht'⟩ := exists_outside s
    have heq : t' = t := (structuralFrom_outside ht').symm.trans h
    exact heq ▸ ht'

/-! ### Depths -/

/-- A text that a scan enters in some mode closes all the braces that were open, and all
that it opens. -/
def Scan.Closes (scan : Scan) (mode : Mode) (depth : Nat) (s : Bytes) : Prop :=
  depth + (scan.structuralFrom mode s).count 0x7B = (scan.structuralFrom mode s).count 0x7D

theorem balanced_iff {scan : Scan} {s : Bytes} : scan.Balanced s ↔ scan.Closes .outside 0 s := by
  unfold Scan.Balanced Scan.Closes
  rw [Nat.zero_add]
  constructor
  · rintro ⟨t, ht, hcount⟩
    rwa [structural_iff.1 ht]
  · intro h
    exact ⟨_, structural_iff.2 rfl, h⟩

instance (scan : Scan) (mode : Mode) (depth : Nat) (s : Bytes) :
    Decidable (scan.Closes mode depth s) :=
  inferInstanceAs (Decidable (_ = _))

instance (scan : Scan) (s : Bytes) : Decidable (scan.Balanced s) :=
  decidable_of_iff (scan.Closes .outside 0 s) balanced_iff.symm

/-- **The depth is what is open**: a structural brace that opens adds one to it, and one
that closes takes one off, as long as there is one. -/
theorem depthAfter_add (scan : Scan) (mode : Mode) {depth : Nat} (h : 0 < depth) (b : UInt8) :
    depthAfter mode depth b + (scan.own mode b).count 0x7D =
      depth + (scan.own mode b).count 0x7B := by
  cases mode with
  | outside =>
    have hown : scan.own .outside b = [b] ∨ b = 0x22 ∧ scan.own .outside b = [] := by
      cases scan with
      | braces => exact .inl rfl
      | strings => by_cases hb : b = 0x22 <;> simp [Scan.own, hb]
    rcases hown with hown | ⟨rfl, hown⟩
    · rw [hown]
      by_cases hopen : b = 0x7B
      · subst hopen
        rfl
      by_cases hclose : b = 0x7D
      · subst hclose
        have hdepth : depthAfter .outside depth 0x7D = depth - 1 := rfl
        have hcloses : ([0x7D] : Bytes).count 0x7D = 1 := rfl
        have hopens : ([0x7D] : Bytes).count 0x7B = 0 := rfl
        omega
      · simp [depthAfter, hopen, hclose]
    · rw [hown]
      rfl
  | quoted => cases scan <;> rfl
  | escaped => cases scan <;> rfl

theorem not_closes_nil {scan : Scan} {mode : Mode} {depth : Nat} (h : 0 < depth) :
    ¬ scan.Closes mode depth [] := fun hcloses => h.ne' hcloses

theorem closes_cons {scan : Scan} {mode : Mode} {depth : Nat} (h : 0 < depth) (b : UInt8)
    (s : Bytes) : scan.Closes mode depth (b :: s) ↔
      scan.Closes (scan.after mode b) (depthAfter mode depth b) s := by
  have hstep := depthAfter_add scan mode h b
  unfold Scan.Closes
  rw [Scan.structuralFrom, List.count_append, List.count_append]
  omega

/-! ### Where a scan ends -/

theorem isLeast_succ_iff {p q : Nat → Prop} (hzero : ¬ p 0) (hsucc : ∀ k, p (k + 1) ↔ q k)
    (n : Nat) :
    IsLeast {k | p k} n ↔ ∃ k, n = k + 1 ∧ IsLeast {k | q k} k := by
  constructor
  · rintro ⟨hn, hleast⟩
    obtain ⟨k, rfl⟩ : ∃ k, n = k + 1 := Nat.exists_eq_succ_of_ne_zero fun h => hzero (h ▸ hn)
    refine ⟨k, rfl, (hsucc k).1 hn, fun j hj => ?_⟩
    exact Nat.le_of_succ_le_succ (hleast ((hsucc j).2 hj))
  · rintro ⟨k, rfl, hk, hleast⟩
    refine ⟨(hsucc k).2 hk, fun j hj => ?_⟩
    obtain ⟨i, rfl⟩ : ∃ i, j = i + 1 := Nat.exists_eq_succ_of_ne_zero fun h => hzero (h ▸ hj)
    exact Nat.succ_le_succ (hleast ((hsucc i).1 hj))

/-- **A scan with a brace open ends at the shortest text that closes it.** -/
theorem Scan.close_eq_some_iff {scan : Scan} {mode : Mode} {depth : Nat} (hd : 0 < depth)
    (count : Nat) (s : Bytes) (n : Nat) : scan.close mode depth count s = some n ↔
      ∃ k, n = count + k ∧
        IsLeast {k | k ≤ s.length ∧ scan.Closes mode depth (s.take k)} k := by
  induction s generalizing mode depth count with
  | nil =>
    constructor
    · intro h
      cases h
    · rintro ⟨k, -, ⟨-, hk⟩, -⟩
      rw [List.take_nil] at hk
      exact absurd hk (not_closes_nil hd)
  | cons b s ih =>
    -- The numbers after the first byte are those of the rest, one less.
    have hshift := isLeast_succ_iff
      (p := fun k => k ≤ (b :: s).length ∧ scan.Closes mode depth ((b :: s).take k))
      (q := fun k => k ≤ s.length ∧
        scan.Closes (scan.after mode b) (depthAfter mode depth b) (s.take k))
      (fun h => not_closes_nil hd h.2) fun k => by
        rw [List.length_cons, Nat.succ_le_succ_iff, List.take_succ_cons, closes_cons hd]
    simp only [hshift]
    rw [Scan.close]
    by_cases hzero : depthAfter mode depth b = 0
    · have hleast : IsLeast {k | k ≤ s.length ∧
          scan.Closes (scan.after mode b) (depthAfter mode depth b) (s.take k)} 0 :=
        ⟨⟨Nat.zero_le _, by rw [hzero, List.take_zero]; rfl⟩, fun _ _ => Nat.zero_le _⟩
      rw [if_pos hzero, Option.some.injEq]
      constructor
      · rintro rfl
        exact ⟨1, rfl, 0, rfl, hleast⟩
      · rintro ⟨_, rfl, k, rfl, hk⟩
        rw [hk.unique hleast]
    · rw [if_neg hzero, ih (Nat.pos_of_ne_zero hzero) (count + 1)]
      constructor
      · rintro ⟨k, rfl, hk⟩
        exact ⟨k + 1, by omega, k, rfl, hk⟩
      · rintro ⟨_, rfl, k, rfl, hk⟩
        exact ⟨k, by omega, hk⟩

/-- The lengths of the balanced prefixes of a buffer. -/
def Scan.balancedLengths (scan : Scan) (buffer : Bytes) : Set Nat :=
  {k | 0 < k ∧ k ≤ buffer.length ∧ scan.Balanced (buffer.take k)}

theorem Scan.find_eq_some_iff {scan : Scan} {buffer : Bytes} {n : Nat} :
    scan.find buffer = some n ↔
      buffer.head? = some 0x7B ∧ IsLeast (scan.balancedLengths buffer) n := by
  unfold Scan.find
  split
  · rename_i rest
    have hafter : scan.after .outside 0x7B = .outside := by cases scan <;> rfl
    have hopen : ∀ s, scan.Closes .outside 0 (0x7B :: s) ↔ scan.Closes .outside 1 s := by
      intro s
      have hown : scan.own .outside 0x7B = [0x7B] := by cases scan <;> rfl
      unfold Scan.Closes
      rw [Scan.structuralFrom, hafter, hown, List.singleton_append, List.count_cons_self,
        List.count_cons_of_ne (by decide), Nat.zero_add, Nat.add_comm]
    have hshift := isLeast_succ_iff
      (p := fun k => 0 < k ∧ k ≤ (0x7B :: rest).length ∧ scan.Balanced ((0x7B :: rest).take k))
      (q := fun k => k ≤ rest.length ∧ scan.Closes .outside 1 (rest.take k))
      (fun h => Nat.lt_irrefl 0 h.1) fun k => by
        rw [List.length_cons, Nat.succ_le_succ_iff, List.take_succ_cons, balanced_iff, hopen,
          and_iff_right (Nat.succ_pos k)]
    rw [Scan.close_eq_some_iff Nat.one_pos]
    simp only [Scan.balancedLengths, hshift, List.head?_cons, true_and, Nat.add_comm 1]
  · rename_i hhead
    constructor
    · intro h
      cases h
    · rintro ⟨hopen, -⟩
      obtain ⟨rest, rfl⟩ := List.head?_eq_some_iff.1 hopen
      exact absurd rfl (hhead rest)

theorem Scan.find_eq_none_iff {scan : Scan} {buffer : Bytes} : scan.find buffer = none ↔
    ¬ (buffer.head? = some 0x7B ∧ (scan.balancedLengths buffer).Nonempty) := by
  rw [Option.eq_none_iff_forall_ne_some]
  constructor
  · rintro h ⟨hopen, hbalanced⟩
    have hleast : IsLeast (scan.balancedLengths buffer) (sInf (scan.balancedLengths buffer)) :=
      ⟨Nat.sInf_mem hbalanced, fun k hk => Nat.sInf_le hk⟩
    exact h _ (Scan.find_eq_some_iff.2 ⟨hopen, hleast⟩)
  · intro h n hn
    obtain ⟨hopen, hleast⟩ := Scan.find_eq_some_iff.1 hn
    exact h ⟨hopen, n, hleast.1⟩

theorem Scan.find_of_take_eq {scan : Scan} {buffer other : Bytes} {n : Nat}
    (h : scan.find buffer = some n) (hlength : n ≤ other.length)
    (hsame : other.take n = buffer.take n) : scan.find other = some n := by
  obtain ⟨hopen, ⟨hpos, hle, hbalanced⟩, hleast⟩ := Scan.find_eq_some_iff.1 h
  have htake : ∀ k ≤ n, other.take k = buffer.take k := by
    intro k hk
    rw [← Nat.min_eq_left hk, ← List.take_take, hsame, List.take_take]
  have hhead : other.head? = buffer.head? := by
    have hone := congrArg List.head? (htake 1 hpos)
    rwa [List.head?_take, List.head?_take, if_neg Nat.one_ne_zero] at hone
  refine Scan.find_eq_some_iff.2 ⟨hhead.trans hopen, ⟨hpos, hlength, hsame ▸ hbalanced⟩, ?_⟩
  rintro k ⟨hk, -, hkbalanced⟩
  by_contra hlt
  rw [htake k (by omega)] at hkbalanced
  exact hlt (hleast ⟨hk, by omega, hkbalanced⟩)

theorem Scan.find_take_of_lt {scan : Scan} {buffer : Bytes} {m n : Nat}
    (h : scan.find buffer = some n) (hm : m < n) : scan.find (buffer.take m) = none := by
  rw [Option.eq_none_iff_forall_ne_some]
  intro k hk
  obtain ⟨-, ⟨-, hle, -⟩, -⟩ := Scan.find_eq_some_iff.1 hk
  rw [List.length_take] at hle
  have hsame : buffer.take k = (buffer.take m).take k := by
    rw [List.take_take, Nat.min_eq_left (by omega)]
  have hfind := Scan.find_of_take_eq hk (by omega) hsame
  rw [h, Option.some.injEq] at hfind
  omega

/-! ### The depth never falls below zero -/

/-- On its way through a buffer that starts with an opening brace, the scan comes to the
byte `b` outside of quotes, with `depth` braces open. -/
def Scan.Meets (scan : Scan) (buffer : Bytes) (b : UInt8) (depth : Nat) : Prop :=
  buffer.head? = some 0x7B ∧ ∃ s, scan.Walk .outside 0 buffer .outside depth (b :: s)

theorem Scan.Walk.pos {scan : Scan} {m m' : Mode} {d d' : Nat} {s s' : Bytes}
    (h : scan.Walk m d s m' d' s') : 0 < d' ∨ d' = d ∧ s' = s := by
  induction h with
  | stay => exact .inr ⟨rfl, rfl⟩
  | step hopen _ ih =>
    rcases ih with hpos | ⟨hdepth, -⟩
    · exact .inl hpos
    · exact .inl (hdepth ▸ Nat.pos_of_ne_zero hopen)

theorem Scan.Meets.pos {scan : Scan} {buffer : Bytes} {depth : Nat}
    (h : scan.Meets buffer 0x7D depth) : 0 < depth := by
  obtain ⟨hopen, s, hwalk⟩ := h
  rcases hwalk.pos with hpos | ⟨-, hstart⟩
  · exact hpos
  · -- The first byte opens a brace, so the scan has left it behind.
    rw [← hstart, List.head?_cons] at hopen
    exact absurd (Option.some.inj hopen) (by decide)

/-- **A scan returns the least balanced prefix.** The end is found exactly if the buffer
starts with an opening brace and some prefix that is not empty is balanced, and then it
is the length of the shortest such prefix. On the way no brace is closed when none is
open. So what follows the object does not matter, and no shorter part of it has an end. -/
theorem Scan.find_balanced (scan : Scan) (buffer : Bytes) :
    (∀ n, scan.find buffer = some n ↔ buffer.head? = some 0x7B ∧
      IsLeast {k | 0 < k ∧ k ≤ buffer.length ∧ scan.Balanced (buffer.take k)} n) ∧
    (scan.find buffer = none ↔ ¬ (buffer.head? = some 0x7B ∧
      ∃ k, 0 < k ∧ k ≤ buffer.length ∧ scan.Balanced (buffer.take k))) ∧
    (∀ depth, scan.Meets buffer 0x7D depth → 0 < depth) ∧
    ∀ n, scan.find buffer = some n →
      (∀ s, scan.find (buffer.take n ++ s) = some n) ∧
      ∀ m < n, scan.find (buffer.take m) = none := by
  refine ⟨fun n => Scan.find_eq_some_iff, Scan.find_eq_none_iff, fun depth h => h.pos,
    fun n h => ⟨fun s => ?_, fun m hm => Scan.find_take_of_lt h hm⟩⟩
  have hle : n ≤ buffer.length := (Scan.find_eq_some_iff.1 h).2.1.2.1
  have hlength : (buffer.take n).length = n := List.length_take_of_le hle
  refine Scan.find_of_take_eq h ?_ ?_
  · rw [List.length_append, hlength]
    omega
  · rw [List.take_append_of_le_length hlength.ge, List.take_take, Nat.min_self]

/-- A key with an escaped quote between two braces, an object inside, and two bytes after
the end. -/
def tangled : Bytes := Bytes.ofText "\x7b\"\x7d\\\"\x7b\":\x7b\x7d\x7d\"\x7d"

/-- For the scan that minds quotes the object ends after 11 bytes, for the other one at
the first brace of the key. -/
theorem Scan.find_balanced_tangled :
    Scan.strings.find tangled = some 11 ∧ Scan.braces.find tangled = some 3 ∧
    Scan.strings.Balanced (tangled.take 11) ∧ ¬ Scan.strings.Balanced (tangled.take 3) ∧
    (∀ s, Scan.strings.find (tangled.take 11 ++ s) = some 11) ∧
    Scan.strings.find (tangled.take 10) = none ∧
    Scan.strings.Meets tangled 0x7D 2 := by
  have hstrings : Scan.strings.find tangled = some 11 := by decide +kernel
  have hbraces : Scan.braces.find tangled = some 3 := by decide +kernel
  obtain ⟨hfind, -, -, hprefix⟩ := Scan.strings.find_balanced tangled
  obtain ⟨-, ⟨-, -, hbalanced⟩, -⟩ := (hfind 11).1 hstrings
  obtain ⟨hafter, hbefore⟩ := hprefix 11 hstrings
  refine ⟨hstrings, hbraces, hbalanced, by decide +kernel, hafter, hbefore 10 (by decide), ?_⟩
  -- Nine bytes come before the brace that closes the inner object.
  refine ⟨by decide +kernel, [0x7D, 0x22, 0x7D], ?_⟩
  iterate 9 refine .step (by decide) ?_
  exact .stay ..

end Envelope
end Tagram
