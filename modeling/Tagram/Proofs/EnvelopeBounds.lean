/-
# A scan finds the object that a reader accepts

The scan that minds quotes keeps two things: how many braces are open, and
whether it is inside quotes or behind a backslash. Reading JSON keeps much more.
Still they stay in step: over every token that reading accepts the scan comes
back to where it was, outside of quotes and with as many braces open
(`Passes`). So the closing brace of an object that can be read is the place
where the scan ends.

`Scan.Walk` is the way of a scan over some bytes, one byte after another. Each
reader has a lemma that says over which bytes the scan passes, from the blanks
up to whole values, and `Envelope.passes_readFields` is about the fields of an
envelope.

Key definitions: `Scan.Walk`, `plain`, `Passes`.
Key theorems: `Scan.Walk.close_eq`, `Json.walk_unescape`, `Json.passes_readNumber`,
`Json.passing`, `find_of_read`, `decode_strings`.
-/
import Mathlib
import Tagram.Envelope.Basic

namespace Tagram
namespace Envelope

/-! ### The way of a scan -/

/-- A scan goes from `s` to `rest` byte by byte, and does not find its end on the
way. -/
inductive Scan.Walk (scan : Scan) : Mode → Nat → Bytes → Mode → Nat → Bytes → Prop where
  | stay (mode : Mode) (depth : Nat) (s : Bytes) : Walk scan mode depth s mode depth s
  | step {mode mode' : Mode} {depth depth' : Nat} {b : UInt8} {s rest : Bytes}
    (hopen : depthAfter mode depth b ≠ 0)
    (later : Walk scan (scan.after mode b) (depthAfter mode depth b) s mode' depth' rest) :
    Walk scan mode depth (b :: s) mode' depth' rest

namespace Scan.Walk

variable {scan : Scan} {m m' m'' : Mode} {d d' d'' : Nat} {s s' s'' : Bytes}

theorem trans (h : scan.Walk m d s m' d' s') (h' : scan.Walk m' d' s' m'' d'' s'') :
    scan.Walk m d s m'' d'' s'' := by
  induction h with
  | stay => exact h'
  | step hopen _ ih => exact .step hopen (ih h')

/-- **A scan that has gone over some bytes goes on from there**, whatever comes
after them. -/
theorem close_eq (h : scan.Walk m d s m' d' s') :
    ∃ used, s = used ++ s' ∧ ∀ count tail,
      scan.close m d count (used ++ tail) = scan.close m' d' (count + used.length) tail := by
  induction h with
  | stay => exact ⟨[], rfl, fun _ _ => rfl⟩
  | @step _ _ _ _ b _ _ hopen _ ih =>
    obtain ⟨used, rfl, hclose⟩ := ih
    refine ⟨b :: used, rfl, fun count tail => ?_⟩
    rw [List.cons_append, Scan.close, if_neg hopen, hclose, List.length_cons]
    congr 1
    omega

end Scan.Walk

/-- A byte that means nothing to a scan outside of quotes. -/
def plain (b : UInt8) : Bool := b ≠ 0x22 && b ≠ 0x7B && b ≠ 0x7D

/-- Outside of quotes and with a brace open, the scan goes from `s` to `rest` and is
then where it was. -/
def Passes (s rest : Bytes) : Prop :=
  ∀ depth, Scan.strings.Walk .outside (depth + 1) s .outside (depth + 1) rest

namespace Passes

variable {b : UInt8} {s s' rest : Bytes}

theorem refl (s : Bytes) : Passes s s := fun _ => .stay ..

theorem trans (h : Passes s s') (h' : Passes s' rest) : Passes s rest := fun depth =>
  (h depth).trans (h' depth)

theorem cons (hb : plain b = true) (s : Bytes) : Passes (b :: s) s := by
  intro depth
  obtain ⟨⟨hquote, hopen⟩, hclose⟩ : (b ≠ 0x22 ∧ b ≠ 0x7B) ∧ b ≠ 0x7D := by
    simpa [plain] using hb
  have hd : depthAfter .outside (depth + 1) b = depth + 1 := by simp [depthAfter, hopen, hclose]
  have hm : Scan.strings.after .outside b = .outside := by simp [Scan.after, hquote]
  refine .step (by rw [hd]; omega) ?_
  rw [hd, hm]
  exact .stay ..

theorem dropWhile {p : UInt8 → Bool} (hp : ∀ b, p b = true → plain b = true) :
    ∀ s : Bytes, Passes s (s.dropWhile p)
  | [] => .refl []
  | b :: s => by
    by_cases hb : p b = true
    · rw [List.dropWhile_cons_of_pos hb]
      exact (cons (hp b hb) s).trans (dropWhile hp s)
    · rw [List.dropWhile_cons_of_neg hb]
      exact .refl _

theorem braces (h : Passes s (0x7D :: rest)) : Passes (0x7B :: s) rest := by
  intro depth
  have hin : Scan.strings.Walk .outside (depth + 2) s .outside (depth + 2) (0x7D :: rest) :=
    h (depth + 1)
  have hout : Scan.strings.Walk .outside (depth + 2) (0x7D :: rest) .outside (depth + 1) rest :=
    .step (by simp [depthAfter]) (.stay ..)
  exact .step (by simp [depthAfter]) (hin.trans hout)

end Passes

end Envelope

namespace Json

open Envelope

variable {s rest : Bytes}

/-! ### Blanks, digits and words -/

theorem plain_of_isBlank (b : UInt8) (h : isBlank b = true) : plain b = true := by
  simp only [isBlank, Bool.or_eq_true, decide_eq_true_eq] at h
  rcases h with ((rfl | rfl) | rfl) | rfl <;> rfl

theorem plain_of_isDigit (b : UInt8) (h : isDigit b = true) : plain b = true := by
  simp only [isDigit, Bool.and_eq_true, decide_eq_true_eq, UInt8.le_iff_toNat_le] at h
  have hne : ∀ c : UInt8, c.toNat < 0x30 ∨ 0x39 < c.toNat → b ≠ c := by
    rintro c hc rfl
    have h1 : (0x30 : UInt8).toNat = 0x30 := rfl
    have h2 : (0x39 : UInt8).toNat = 0x39 := rfl
    omega
  simp [plain, hne 0x22 (by decide), hne 0x7B (by decide), hne 0x7D (by decide)]

theorem passes_skipBlanks (s : Bytes) : Passes s (skipBlanks s) :=
  Passes.dropWhile plain_of_isBlank s

theorem passes_readWord {α : Type} {value v : α} : ∀ {word s : Bytes},
    (∀ b ∈ word, plain b = true) → readWord value word s = .ok (v, rest) → Passes s rest
  | [], s, _, h => by
    obtain ⟨-, rfl⟩ : value = v ∧ s = rest := by simpa [readWord] using h
    exact .refl _
  | w :: word, [], _, h => by simp [readWord] at h
  | w :: word, b :: s, hw, h => by
    rw [readWord] at h
    split_ifs at h with hb
    subst hb
    rw [List.forall_mem_cons] at hw
    exact (Passes.cons hw.1 s).trans (passes_readWord hw.2 h)

/-! ### Texts -/

section

variable {depth : Nat}

theorem walk_quote (s : Bytes) :
    Scan.strings.Walk .outside (depth + 1) (0x22 :: s) .quoted (depth + 1) s :=
  .step (by simp [depthAfter]) (.stay ..)

theorem walk_unquote (s : Bytes) :
    Scan.strings.Walk .quoted (depth + 1) (0x22 :: s) .outside (depth + 1) s :=
  .step (by simp [depthAfter]) (.stay ..)

/-- A backslash takes the next byte with it. -/
theorem walk_escape (b : UInt8) (s : Bytes) :
    Scan.strings.Walk .quoted (depth + 1) (0x5C :: b :: s) .quoted (depth + 1) s :=
  .step (by simp [depthAfter]) (.step (by simp [depthAfter, Scan.after]) (.stay ..))

theorem walk_quoted {b : UInt8} (hquote : b ≠ 0x22) (hslash : b ≠ 0x5C) (s : Bytes) :
    Scan.strings.Walk .quoted (depth + 1) (b :: s) .quoted (depth + 1) s := by
  have hm : Scan.strings.after .quoted b = .quoted := by simp [Scan.after, hquote, hslash]
  refine .step (by simp [depthAfter]) ?_
  rw [hm]
  exact .stay ..

theorem walk_hexDigit {b : UInt8} {n : Nat} (h : hexValue? b = some n) (s : Bytes) :
    Scan.strings.Walk .quoted (depth + 1) (b :: s) .quoted (depth + 1) s := by
  refine walk_quoted ?_ ?_ s
  · rintro rfl
    cases h
  · rintro rfl
    cases h

/-- Four hexadecimal digits hold neither a quote nor a backslash. -/
theorem walk_hexUnit {a b c d : UInt8} {n : Nat} (h : hexUnit? a b c d = some n) (s : Bytes) :
    Scan.strings.Walk .quoted (depth + 1) (0x5C :: 0x75 :: a :: b :: c :: d :: s) .quoted (depth + 1)
      s := by
  rcases ha : hexValue? a with _ | x
  · simp [hexUnit?, ha] at h
  rcases hb : hexValue? b with _ | y
  · simp [hexUnit?, ha, hb] at h
  rcases hc : hexValue? c with _ | z
  · simp [hexUnit?, ha, hb, hc] at h
  rcases hd : hexValue? d with _ | w
  · simp [hexUnit?, ha, hb, hc, hd] at h
  exact (walk_escape _ _).trans ((walk_hexDigit ha _).trans ((walk_hexDigit hb _).trans
    ((walk_hexDigit hc _).trans (walk_hexDigit hd s))))

/-- **The scan leaves the quotes where the text ends**, whatever escapes the text
has. -/
theorem walk_unescape {done text : Bytes} (h : unescape done s = .ok (text, rest)) :
    Scan.strings.Walk .quoted (depth + 1) s .outside (depth + 1) rest := by
  fun_induction unescape done s with
  | case2 done s =>
    obtain ⟨-, rfl⟩ : done.reverse = text ∧ s = rest := by simpa using h
    exact walk_unquote _
  | case9 done a b c d n hn _ _ a' b' c' d' s m hm _ ih =>
    -- A pair of units.
    exact (walk_hexUnit hn _).trans ((walk_hexUnit hm s).trans (ih h))
  | case14 done a b c d s n hn _ _ ih => exact (walk_hexUnit hn s).trans (ih h)
  | case17 done b s _ _ b' _ ih => exact (walk_escape b s).trans (ih h)
  | case19 done b s hquote hslash _ ih => exact (walk_quoted hquote hslash s).trans (ih h)
  | _ => cases h

end

/-- The scan passes over a text that can be read, together with its quotes. -/
theorem passes_readString {t : String} (h : readString s = .ok (t, rest)) :
    Passes (0x22 :: s) rest := by
  intro depth
  unfold readString at h
  split at h
  · cases h
  · rename_i text rest' hu
    split at h
    · obtain ⟨-, rfl⟩ : _ = t ∧ rest' = rest := by simpa using h
      exact (walk_quote s).trans (walk_unescape hu)
    · cases h

/-! ### Numbers -/

section

variable {positive : Bool} {digits : Nat} {e : Int} {n : Number}

theorem rest_of_readFloat (h : readFloat positive digits e s = .ok (n, rest)) : s = rest := by
  unfold readFloat at h
  split at h
  · cases h
  · simp only [Except.ok.injEq, Prod.mk.injEq] at h
    exact h.2

/-- The digits of an exponent are passed, also those that take it over the limit. -/
theorem passes_readExponentDigits (k : Nat) (s : Bytes) :
    (∀ m, readExponentDigits k s = .ok (m, rest) → Passes s rest) ∧
      (readExponentDigits k s = .error rest → Passes s rest) := by
  fun_induction readExponentDigits k s with
  | case1 k =>
    refine ⟨fun m h => ?_, fun h => nomatch h⟩
    obtain rfl : [] = rest := (Prod.mk.inj (Except.ok.inj h)).2
    exact .refl _
  | case2 k d s hd m hm =>
    refine ⟨(fun m h => nomatch h), fun h => ?_⟩
    obtain rfl : s = rest := by simpa using h
    exact .cons (plain_of_isDigit d hd) _
  | case3 k d s hd m hm ih =>
    have hp := Passes.cons (plain_of_isDigit d hd) s
    exact ⟨fun m h => hp.trans (ih.1 m h), fun h => hp.trans (ih.2 h)⟩
  | case4 k d s hd =>
    refine ⟨fun m h => ?_, fun h => nomatch h⟩
    obtain rfl : d :: s = rest := (Prod.mk.inj (Except.ok.inj h)).2
    exact .refl _

theorem passes_digits (s : Bytes) : Passes s (s.dropWhile isDigit) :=
  Passes.dropWhile plain_of_isDigit s

theorem passes_readUnsignedExponent {up : Bool}
    (h : readUnsignedExponent positive digits e up s = .ok (n, rest)) : Passes s rest := by
  unfold readUnsignedExponent at h
  split at h
  · cases h
  · rename_i d later
    by_cases hd : isDigit d = true
    · rw [if_pos hd] at h
      split at h
      · rename_i m s' hdigits
        obtain rfl := rest_of_readFloat h
        exact (passes_readExponentDigits 0 (d :: later)).1 m hdigits
      · rename_i s' hover
        by_cases hlarge : (decide (digits ≠ 0) && up) = true
        · rw [if_pos hlarge] at h
          cases h
        · rw [if_neg hlarge] at h
          obtain rfl : s'.dropWhile isDigit = rest := (Prod.mk.inj (Except.ok.inj h)).2
          exact ((passes_readExponentDigits 0 (d :: later)).2 hover).trans (passes_digits s')
    · rw [if_neg hd] at h
      cases h

theorem passes_readExponent (h : readExponent positive digits e s = .ok (n, rest)) :
    Passes s rest := by
  unfold readExponent at h
  split at h
  · exact (Passes.cons rfl _).trans (passes_readUnsignedExponent h)
  · exact (Passes.cons rfl _).trans (passes_readUnsignedExponent h)
  · exact passes_readUnsignedExponent h

theorem plain_of_isExponentMark {b : UInt8} (h : isExponentMark b = true) : plain b = true := by
  simp only [isExponentMark, Bool.or_eq_true, decide_eq_true_eq] at h
  rcases h with rfl | rfl <;> rfl

theorem passes_readAfterFraction (h : readAfterFraction positive digits e s = .ok (n, rest)) :
    Passes s rest := by
  unfold readAfterFraction at h
  split at h
  · rename_i b later
    split_ifs at h with hb
    · exact (Passes.cons (plain_of_isExponentMark hb) later).trans (passes_readExponent h)
    · obtain rfl := rest_of_readFloat h
      exact .refl _
  · obtain rfl := rest_of_readFloat h
    exact .refl _

theorem passes_readFraction (h : readFraction positive digits e s = .ok (n, rest)) :
    Passes s rest := by
  unfold readFraction at h
  split at h
  · cases h
  · exact (passes_digits s).trans (passes_readAfterFraction h)

theorem passes_readAfterInteger {dropped : Nat}
    (h : readAfterInteger positive digits dropped s = .ok (n, rest)) : Passes s rest := by
  -- Without point and exponent nothing more is read.
  have hend : (if dropped = 0 then Except.ok (integer positive digits, s)
      else readFloat positive digits dropped s) = .ok (n, rest) → Passes s rest := by
    intro h
    split_ifs at h
    · obtain rfl : s = rest := (Prod.mk.inj (Except.ok.inj h)).2
      exact .refl _
    · obtain rfl := rest_of_readFloat h
      exact .refl _
  unfold readAfterInteger at h
  split at h
  · exact (Passes.cons rfl _).trans (passes_readFraction h)
  · rename_i b later _
    by_cases hb : isExponentMark b = true
    · rw [if_pos hb] at h
      exact (Passes.cons (plain_of_isExponentMark hb) later).trans (passes_readExponent h)
    · rw [if_neg hb] at h
      exact hend h
  · exact hend h

/-- **The scan passes over every number that can be read.** -/
theorem passes_readNumber (h : readNumber positive s = .ok (n, rest)) : Passes s rest := by
  unfold readNumber at h
  split at h
  · cases h
  · rename_i d later
    split_ifs at h with hzero hdigit hd
    · subst hzero
      exact (Passes.cons rfl later).trans (passes_readAfterInteger h)
    · exact (passes_digits (d :: later)).trans (passes_readAfterInteger h)

end

/-! ### Values -/

theorem passes_nextItem {first : Bool} :
    (nextItem first s = .ok (.closed rest) → Passes s rest) ∧
      (nextItem first s = .ok (.opened rest) → Passes s rest) := by
  have hblanks := passes_skipBlanks s
  unfold nextItem
  split
  · simp
  · rename_i later heq
    rw [heq] at hblanks
    refine ⟨fun h => ?_, (fun h => nomatch h)⟩
    obtain rfl : later = rest := by simpa using h
    exact hblanks.trans (.cons rfl _)
  · rename_i b later _ heq
    rw [heq] at hblanks
    by_cases hf : first = true
    · rw [if_pos hf]
      refine ⟨(fun h => nomatch h), fun h => ?_⟩
      obtain rfl : b :: later = rest := by simpa using h
      exact hblanks
    rw [if_neg hf]
    by_cases hb : b = 0x2C
    · subst hb
      rw [if_pos rfl]
      have hcomma : Passes (0x2C :: later) (skipBlanks later) :=
        (Passes.cons rfl later).trans (passes_skipBlanks later)
      split
      · simp
      · simp
      · refine ⟨(fun h => nomatch h), fun h => ?_⟩
        obtain rfl : skipBlanks later = rest := by simpa using h
        exact hblanks.trans hcomma
    · rw [if_neg hb]
      simp

theorem keyStart_eq_ok {entry : Entry} (h : keyStart s = .ok entry) :
    ∃ start, entry = .opened start ∧ s = 0x22 :: start := by
  unfold keyStart at h
  split at h
  · cases h
  · rename_i start
    exact ⟨start, (Except.ok.inj h).symm, rfl⟩
  · cases h
  · cases h

/-- The scan comes to the brace that ends an object, or to the quote of its next
key. -/
theorem passes_nextKey {first : Bool} :
    (nextKey first s = .ok (.closed rest) → Passes s (0x7D :: rest)) ∧
      (nextKey first s = .ok (.opened rest) → Passes s (0x22 :: rest)) := by
  have hkey : ∀ {s' : Bytes}, Passes s s' →
      (keyStart s' = .ok (.closed rest) → Passes s (0x7D :: rest)) ∧
        (keyStart s' = .ok (.opened rest) → Passes s (0x22 :: rest)) := by
    intro s' hs
    refine ⟨fun h => ?_, fun h => ?_⟩
    · obtain ⟨start, heq, -⟩ := keyStart_eq_ok h
      cases heq
    · obtain ⟨start, heq, rfl⟩ := keyStart_eq_ok h
      cases heq
      exact hs
  have hblanks := passes_skipBlanks s
  unfold nextKey
  split
  · simp
  · rename_i later heq
    rw [heq] at hblanks
    refine ⟨fun h => ?_, (fun h => nomatch h)⟩
    obtain rfl : later = rest := by simpa using h
    exact hblanks
  · rename_i b later _ heq
    rw [heq] at hblanks
    by_cases hf : first = true
    · rw [if_pos hf]
      exact hkey hblanks
    rw [if_neg hf]
    by_cases hb : b = 0x2C
    · subst hb
      rw [if_pos rfl]
      exact hkey (hblanks.trans ((Passes.cons rfl later).trans (passes_skipBlanks later)))
    · rw [if_neg hb]
      simp

theorem passes_readColon (h : readColon s = .ok rest) : Passes s rest := by
  have hblanks := passes_skipBlanks s
  unfold readColon at h
  split at h
  · cases h
  · rename_i later heq
    rw [heq] at hblanks
    obtain rfl : later = rest := by simpa using h
    exact hblanks.trans (.cons rfl _)
  · cases h

theorem map_eq_ok {α β : Type} {x : Result α} {f : α × Bytes → β × Bytes} {y : β × Bytes}
    (h : x.map f = .ok y) : ∃ v later, x = .ok (v, later) ∧ f (v, later) = y := by
  rcases x with _ | ⟨v, later⟩
  · cases h
  · exact ⟨v, later, rfl, Except.ok.inj h⟩

/-- What the scan does over values, items and fields that are read with so much
fuel. -/
structure Passing (fuel : Nat) : Prop where
  value : ∀ {room s v rest}, readValue fuel room s = .ok (v, rest) → Passes s rest
  items : ∀ {room first s items rest}, readItems fuel room first s = .ok (items, rest) →
    Passes s rest
  fields : ∀ {room first s fields rest}, readFields fuel room first s = .ok (fields, rest) →
    Passes s (0x7D :: rest)

theorem passes_value {fuel : Nat} (ih : Passing fuel) {room : Nat} {v : Json}
    (h : readValue (fuel + 1) room s = .ok (v, rest)) : Passes s rest := by
  have hblanks := passes_skipBlanks s
  rw [readValue] at h
  split at h
  · cases h
  all_goals
    rename_i heq
    rw [heq] at hblanks
    refine hblanks.trans ?_
  · exact (Passes.cons rfl _).trans (passes_readWord (by simp [plain]) h)
  · exact (Passes.cons rfl _).trans (passes_readWord (by simp [plain]) h)
  · exact (Passes.cons rfl _).trans (passes_readWord (by simp [plain]) h)
  · obtain ⟨t, later, hread, heq⟩ := map_eq_ok h
    cases heq
    exact passes_readString hread
  · split_ifs at h
    obtain ⟨items, later, hread, heq⟩ := map_eq_ok h
    cases heq
    exact (Passes.cons rfl _).trans (ih.items hread)
  · split_ifs at h
    obtain ⟨fields, later, hread, heq⟩ := map_eq_ok h
    cases heq
    exact (ih.fields hread).braces
  · obtain ⟨n, later, hread, heq⟩ := map_eq_ok h
    cases heq
    exact (Passes.cons rfl _).trans (passes_readNumber hread)
  · split_ifs at h
    obtain ⟨n, later, hread, heq⟩ := map_eq_ok h
    cases heq
    exact passes_readNumber hread

theorem passes_items {fuel : Nat} (ih : Passing fuel) {room : Nat} {first : Bool} {items : List Json}
    (h : readItems (fuel + 1) room first s = .ok (items, rest)) : Passes s rest := by
  rw [readItems] at h
  split at h
  · cases h
  · rename_i later hnext
    obtain rfl : later = rest := (Prod.mk.inj (Except.ok.inj h)).2
    exact passes_nextItem.1 hnext
  · rename_i start hnext
    split at h
    · cases h
    · rename_i item later hitem
      obtain ⟨items', later', hread, heq⟩ := map_eq_ok h
      cases heq
      exact (passes_nextItem.2 hnext).trans ((ih.value hitem).trans (ih.items hread))

theorem passes_fields {fuel : Nat} (ih : Passing fuel) {room : Nat} {first : Bool}
    {fields : List (String × Json)}
    (h : readFields (fuel + 1) room first s = .ok (fields, rest)) : Passes s (0x7D :: rest) := by
  rw [readFields] at h
  split at h
  · cases h
  · rename_i later hnext
    obtain rfl : later = rest := (Prod.mk.inj (Except.ok.inj h)).2
    exact passes_nextKey.1 hnext
  · rename_i start hnext
    split at h
    · cases h
    · rename_i key later hkey
      split at h
      · cases h
      · rename_i later' hcolon
        split at h
        · cases h
        · rename_i value later'' hvalue
          obtain ⟨fields', last, hread, heq⟩ := map_eq_ok h
          cases heq
          exact (passes_nextKey.2 hnext).trans ((passes_readString hkey).trans
            ((passes_readColon hcolon).trans ((ih.value hvalue).trans (ih.fields hread))))

/-- **The scan passes over every value that can be read**, however deep it nests. -/
theorem passing : ∀ fuel, Passing fuel
  | 0 => by
    refine ⟨?_, ?_, ?_⟩
    · intro room s v rest h
      rw [readValue] at h
      cases h
    · intro room first s items rest h
      rw [readItems] at h
      cases h
    · intro room first s fields rest h
      rw [readFields] at h
      cases h
  | fuel + 1 => ⟨passes_value (passing fuel), passes_items (passing fuel), passes_fields (passing fuel)⟩

end Json

namespace Envelope

/-! ### Envelopes -/

theorem passes_readText {s rest : Bytes} {t : String} (h : readText s = .ok (t, rest)) :
    Passes s rest := by
  have hblanks := Json.passes_skipBlanks s
  unfold readText at h
  split at h
  · rename_i later heq
    rw [heq] at hblanks
    exact hblanks.trans (Json.passes_readString h)
  · cases h
  · cases h
  · split at h <;> cases h

theorem passes_readFields (fuel : Nat) {first : Bool} {msgId : Option String}
    {extra : List (String × Json)} {s rest : Bytes} {e : Envelope}
    (h : readFields fuel first msgId extra s = .ok (e, rest)) : Passes s (0x7D :: rest) := by
  induction fuel generalizing first msgId extra s with
  | zero =>
    rw [readFields] at h
    cases h
  | succ fuel ih =>
    rw [readFields] at h
    split at h
    · cases h
    · rename_i later hnext
      split at h
      · cases h
      · obtain rfl : later = rest := (Prod.mk.inj (Except.ok.inj h)).2
        exact Json.passes_nextKey.1 hnext
    · rename_i start hnext
      split at h
      · cases h
      · rename_i key later hkey
        have hname := (Json.passes_nextKey.2 hnext).trans (Json.passes_readString hkey)
        split_ifs at h
        · split at h
          · cases h
          · rename_i later' hcolon
            split at h
            · cases h
            · rename_i t later'' htext
              exact hname.trans ((Json.passes_readColon hcolon).trans
                ((passes_readText htext).trans (ih h)))
        · split at h
          · cases h
          · rename_i later' hcolon
            split at h
            · cases h
            · rename_i value later'' hvalue
              exact hname.trans ((Json.passes_readColon hcolon).trans
                (((Json.passing fuel).value hvalue).trans (ih h)))

/-- An envelope that can be read is fields, their closing brace and blanks. -/
theorem read_eq_ok {text : Bytes} {e : Envelope} (h : read text = .ok e) :
    ∃ rest, Passes (text.drop 1) (0x7D :: rest) ∧ Json.skipBlanks rest = [] := by
  unfold read at h
  rcases hf : readFields (text.length + 1) true none [] (text.drop 1) with fault | ⟨e', rest⟩
  · rw [hf] at h
    cases h
  · rcases hend : Json.readEnd rest with fault | _
    · simp only [hf, bind, Except.bind, hend] at h
      cases h
    · refine ⟨rest, passes_readFields _ hf, ?_⟩
      unfold Json.readEnd at hend
      split at hend
      · assumption
      · cases hend

theorem not_mem_of_skipBlanks {s : Bytes} (h : Json.skipBlanks s = []) : 0x7D ∉ s := by
  intro hm
  have hb : Json.isBlank 0x7D = true := List.dropWhile_eq_nil_iff.1 h 0x7D hm
  exact absurd hb (by decide)

/-- **The scan ends where the text ends**: an object that can be read up to a
closing brace is the one that the scan finds. -/
theorem find_of_read {buffer : Bytes} {n : Nat} {e : Envelope} (hopen : buffer.head? = some 0x7B)
    (hclose : buffer[n - 1]? = some 0x7D) (hread : read (buffer.take n) = .ok e) :
    Scan.strings.find buffer = some n := by
  obtain ⟨after, rfl⟩ : ∃ after, buffer = 0x7B :: after := by
    cases buffer with
    | nil => cases hopen
    | cons b after => exact ⟨after, by rw [Option.some.inj hopen]⟩
  obtain ⟨k, rfl⟩ : ∃ k, n = k + 1 := by
    cases n with
    | zero => cases hclose
    | succ k => exact ⟨k, rfl⟩
  obtain ⟨rest, hpass, hblank⟩ := read_eq_ok hread
  obtain ⟨used, hused, hscan⟩ := (hpass 0).close_eq
  rw [List.take_succ_cons, List.drop_succ_cons, List.drop_zero] at hused
  have hlen : k = used.length + rest.length + 1 := by
    have hlt : k + 1 - 1 < (0x7B :: after).length := (List.getElem?_eq_some_iff.1 hclose).1
    have hcount := congrArg List.length hused
    simp only [List.length_cons, List.length_append, List.length_take] at hlt hcount
    omega
  have hlast : (0x7D :: rest)[rest.length]? = some 0x7D := by
    have hbyte : (after.take k)[used.length + rest.length]? = some 0x7D := by
      rw [List.getElem?_take_of_lt (by omega), ← hclose, Nat.add_sub_cancel, hlen,
        List.getElem?_cons_succ]
    rwa [hused, List.getElem?_append_right (by omega), Nat.add_sub_cancel_left] at hbyte
  -- The last byte is a brace, and none is among the blanks.
  obtain rfl : rest = [] := by
    cases rest with
    | nil => rfl
    | cons r rs =>
      rw [List.length_cons, List.getElem?_cons_succ] at hlast
      exact absurd (List.mem_of_getElem? hlast) (not_mem_of_skipBlanks hblank)
  have hafter : after = used ++ 0x7D :: after.drop k := by
    conv_lhs => rw [← List.take_append_drop k after, hused]
    simp
  rw [Scan.find, hafter, hscan, Scan.close, if_pos (by simp [depthAfter]), hlen]
  congr 1
  simp only [List.length_nil]
  omega

/-- Whatever the scan, it ends just after a closing brace. -/
theorem Scan.close_eq_some {scan : Scan} {m : Mode} {d count n : Nat} {s : Bytes}
    (h : scan.close m d count s = some n) (hd : 0 < d) :
    count < n ∧ s[n - count - 1]? = some 0x7D := by
  induction s generalizing m d count with
  | nil => cases h
  | cons b s ih =>
    rw [Scan.close] at h
    by_cases hzero : depthAfter m d b = 0
    · rw [if_pos hzero] at h
      obtain rfl : count + 1 = n := Option.some.inj h
      -- Only a closing brace outside of quotes brings the depth down.
      have hb : b = 0x7D := by
        unfold depthAfter at hzero
        split at hzero
        · split_ifs at hzero with h1 h2
          · exact h2
          · omega
        · omega
      refine ⟨by omega, ?_⟩
      rw [hb, Nat.add_sub_cancel_left]
      rfl
    · rw [if_neg hzero] at h
      obtain ⟨hlt, hbyte⟩ := ih h (Nat.pos_of_ne_zero hzero)
      refine ⟨by omega, ?_⟩
      rw [show n - count - 1 = (n - (count + 1) - 1) + 1 by omega, List.getElem?_cons_succ]
      exact hbyte

theorem Scan.find_eq_some {scan : Scan} {buffer : Bytes} {n : Nat} (h : scan.find buffer = some n) :
    buffer.head? = some 0x7B ∧ buffer[n - 1]? = some 0x7D := by
  unfold Scan.find at h
  split at h
  · rename_i rest
    obtain ⟨hlt, hbyte⟩ := Scan.close_eq_some h Nat.one_pos
    refine ⟨rfl, ?_⟩
    rw [show n - 1 = (n - 1 - 1) + 1 by omega, List.getElem?_cons_succ]
    exact hbyte
  · cases h

theorem decode_eq_ok {scan : Scan} {buffer : Bytes} {e : Envelope} {n : Nat} :
    decode scan buffer = .ok (e, n) ↔
      scan.find buffer = some n ∧ read (buffer.take n) = .ok e := by
  unfold decode
  constructor
  · intro h
    split at h
    · cases h
    · rename_i k hfind
      split at h
      · cases h
      · rename_i e' hread
        cases h
        exact ⟨hfind, hread⟩
  · rintro ⟨hfind, hread⟩
    simp only [hfind, hread]

/-- **The scan that minds quotes finds exactly the object that can be read.** If
the bytes of a buffer from an opening brace up to some closing one are an
envelope, decoding with this scan yields that envelope and its length, whatever
follows. So there is at most one such length, and whatever decoding yields with
the scan that counts every brace it yields with this one too. -/
theorem decode_strings (buffer : Bytes) :
    (∀ n e, buffer.head? = some 0x7B → buffer[n - 1]? = some 0x7D →
      read (buffer.take n) = .ok e → decode .strings buffer = .ok (e, n)) ∧
    (∀ n e n' e', buffer.head? = some 0x7B →
      buffer[n - 1]? = some 0x7D → read (buffer.take n) = .ok e →
      buffer[n' - 1]? = some 0x7D → read (buffer.take n') = .ok e' → n = n' ∧ e = e') ∧
    (∀ n e, decode .braces buffer = .ok (e, n) → decode .strings buffer = .ok (e, n)) := by
  have hfound : ∀ n e, buffer.head? = some 0x7B → buffer[n - 1]? = some 0x7D →
      read (buffer.take n) = .ok e → decode .strings buffer = .ok (e, n) :=
    fun n e hopen hclose hread => decode_eq_ok.2 ⟨find_of_read hopen hclose hread, hread⟩
  refine ⟨hfound, fun n e n' e' hopen hclose hread hclose' hread' => ?_, fun n e h => ?_⟩
  · have heq := (hfound n e hopen hclose hread).symm.trans (hfound n' e' hopen hclose' hread')
    exact ⟨(Prod.mk.inj (Except.ok.inj heq)).2, (Prod.mk.inj (Except.ok.inj heq)).1⟩
  · obtain ⟨hfind, hread⟩ := decode_eq_ok.1 h
    obtain ⟨hopen, hclose⟩ := Scan.find_eq_some hfind
    exact hfound n e hopen hclose hread

/-- The message id is a brace and an escaped quote, and a brace follows the
envelope. -/
def quotedBrace : Bytes := Bytes.ofText "\x7b\"msg_id\":\"\x7d\\\"\"\x7d\x7d"

/-- The same without a brace inside quotes. -/
def bareText : Bytes := Bytes.ofText "\x7b\"msg_id\":\"\\\"\"\x7d\x7d"

/-- The envelope has 16 bytes; the brace after it would make 17, and the one inside
quotes 12. -/
theorem decode_strings_quotedBrace :
    read (quotedBrace.take 16) = .ok ⟨"\x7d\"", []⟩ ∧
    decode .strings quotedBrace = .ok (⟨"\x7d\"", []⟩, 16) ∧
    (∀ n e, quotedBrace[n - 1]? = some 0x7D → read (quotedBrace.take n) = .ok e → 16 = n) ∧
    decode .braces bareText = .ok (⟨"\"", []⟩, 15) ∧
    decode .strings bareText = .ok (⟨"\"", []⟩, 15) := by
  obtain ⟨hfound, hunique, -⟩ := decode_strings quotedBrace
  have hopen : quotedBrace.head? = some 0x7B := by decide +kernel
  have hclose : quotedBrace[16 - 1]? = some 0x7D := by decide +kernel
  have hread : read (quotedBrace.take 16) = .ok ⟨"\x7d\"", []⟩ := rfl
  have hbraces : decode .braces bareText = .ok (⟨"\"", []⟩, 15) := rfl
  exact ⟨hread, hfound 16 _ hopen hclose hread,
    fun n e hclose' hread' => (hunique 16 _ n e hopen hclose hread hclose' hread').1,
    hbraces, (decode_strings bareText).2.2 15 _ hbraces⟩

end Envelope
end Tagram
