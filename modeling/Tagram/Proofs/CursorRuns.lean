/-
# Cursors over a buffer

A run is any sequence of reads and of copies, by any number of cursors, with what
each read answered. Its laws come from what one move does (`step_inside`,
`step_short`, `step_beyond`).

From a place inside the buffer or at its end no cursor leaves the buffer and no read
aborts (`Within.run`). As long as a cursor is not put elsewhere, the bytes of the
values it returned, in order, followed by what it has left, are what it started with
(`run_rest`): its reads cut the buffer into pieces, whatever failed in between and
whatever the other cursors did. Values that were written one after another are read
back in this order (`run_fields`). Together these are `run_partition`.

From a place beyond the end nothing moves any cursor (`step_all_of_beyond`). Every
read fails there, and one of no bytes aborts, so a run aborts exactly if it starts
beyond the end and asks for no bytes (`run_aborts_iff`).

Key definitions: `Cursors.run`, `Cursors.values`, `Cursors.Within`.
Key theorems: `Cursors.Within.run`, `Cursors.run_rest`, `Cursors.run_fields`,
`Cursors.run_partition`, `Cursors.run_all_of_beyond`, `Cursors.run_aborts_iff`.
-/
import Tagram.Proofs.FieldReads

namespace Tagram

theorem Cursor.length_rest (c : Cursor) : c.rest.length = c.remaining := List.length_drop

theorem Cursor.length_take_rest {c : Cursor} {n : Nat} (h : c.offset + n ≤ c.buffer.length) :
    (c.rest.take n).length = n := by
  rw [List.length_take, length_rest, remaining]
  omega

theorem Cursor.range_cases (c : Cursor) (n : Nat) :
    c.offset + n ≤ c.buffer.length ∨ c.remaining < n ∨ (c.buffer.length < c.offset ∧ n = 0) := by
  rw [remaining]
  omega

namespace Cursors

/-- A move, and what it answered if it was a read. -/
abbrev Entry := Move × Option (Outcome Value)

/-- Moves one after another. -/
def run (s : Cursors) : List Move → Cursors × List Entry
  | [] => (s, [])
  | m :: ms => (((s.step m).1.run ms).1, (m, (s.step m).2) :: ((s.step m).1.run ms).2)

/-- The value that cursor `i` returned, if it read one. -/
def valueBy (i : Nat) : Entry → Option Value
  | (.read k _, some (.ok v)) => if k = i then some v else none
  | _ => none

/-- The values that cursor `i` returned, in order. -/
def values (i : Nat) (log : List Entry) : List Value := log.filterMap (valueBy i)

@[simp] theorem set_self (s : Cursors) (i : Nat) (c : Cursor) : s.set i c i = c := if_pos rfl

theorem set_of_ne (s : Cursors) {i k : Nat} (c : Cursor) (h : k ≠ i) : s.set i c k = s k :=
  if_neg h

@[simp] theorem set_all (i : Nat) (c : Cursor) : (all c).set i c = all c := by
  funext k
  exact ite_self c

variable {s : Cursors} {buffer : Bytes} {i : Nat} {f : Field}

/-! ### One move -/

theorem step_inside (h : (s i).offset + f.width ≤ (s i).buffer.length) :
    s.step (.read i f) = (s.set i ⟨(s i).buffer, (s i).offset + f.width⟩,
      some (.ok (f.value ((s i).rest.take f.width)))) := by
  rw [step, Cursor.read, Field.read_eq, if_pos h]
  rfl

theorem step_short (h : (s i).remaining < f.width) :
    s.step (.read i f) = (s, some (.error (.truncated f.width (s i).remaining))) := by
  rw [Cursor.remaining] at h
  rw [step, Cursor.read, Field.read_eq, if_neg (by omega), if_neg (by omega)]
  rfl

theorem step_beyond (h : (s i).buffer.length < (s i).offset) (hzero : f.width = 0) :
    s.step (.read i f) = (s, some (.abort none)) := by
  rw [step, Cursor.read, Field.read_eq, if_neg (by omega), if_pos hzero]
  rfl

/-! ### Cursors in the buffer -/

/-- Every cursor is in the buffer or at its end. -/
def Within (buffer : Bytes) (s : Cursors) : Prop :=
  ∀ i, (s i).buffer = buffer ∧ (s i).offset ≤ buffer.length

theorem within_all {start : Nat} (h : start ≤ buffer.length) :
    Within buffer (all ⟨buffer, start⟩) :=
  fun _ => ⟨rfl, h⟩

theorem Within.set (hs : Within buffer s) {c : Cursor} (hb : c.buffer = buffer)
    (ho : c.offset ≤ buffer.length) : Within buffer (s.set i c) := by
  intro k
  by_cases hk : k = i
  · subst hk
    rw [set_self]
    exact ⟨hb, ho⟩
  · rw [set_of_ne s c hk]
    exact hs k

/-- A move keeps every cursor in the buffer, and does not abort. -/
theorem Within.step (hs : Within buffer s) (m : Move) :
    Within buffer (s.step m).1 ∧ ∀ reason, (s.step m).2 ≠ some (.abort reason) := by
  cases m with
  | copy i j => exact ⟨hs.set (hs j).1 (hs j).2, by simp [Cursors.step]⟩
  | read i f =>
    obtain ⟨hb, ho⟩ := hs i
    rcases (s i).range_cases f.width with h | h | ⟨h, -⟩
    · rw [step_inside h]
      exact ⟨hs.set hb (hb ▸ h), by simp⟩
    · rw [step_short h]
      exact ⟨hs, by simp⟩
    · -- A cursor in the buffer is not beyond its end.
      rw [hb] at h
      omega

/-- **No run leaves the buffer, and none aborts.** -/
theorem Within.run : ∀ (ms : List Move) {s : Cursors}, Within buffer s →
    Within buffer (s.run ms).1 ∧ ∀ m reason, (m, some (.abort reason)) ∉ (s.run ms).2
  | [], _, hs => ⟨hs, by simp [Cursors.run]⟩
  | m :: ms, s, hs => by
    obtain ⟨hstep, hanswer⟩ := hs.step m
    obtain ⟨hrun, hlog⟩ := hstep.run ms
    refine ⟨hrun, fun m' reason hmem => ?_⟩
    rcases List.mem_cons.1 hmem with heq | hmem
    · exact hanswer reason (congrArg Prod.snd heq).symm
    · exact hlog m' reason hmem

theorem Within.read_inside (hs : Within buffer s)
    (hin : (s i).offset + f.width ≤ buffer.length) :
    ∃ v, s.step (.read i f) = (s.set i ⟨buffer, (s i).offset + f.width⟩, some (.ok v)) ∧
      v.field = f ∧ v.toBytes = (buffer.drop (s i).offset).take f.width := by
  obtain ⟨hb, -⟩ := hs i
  have hin' : (s i).offset + f.width ≤ (s i).buffer.length := hb.symm ▸ hin
  obtain ⟨hbytes, hfield⟩ := f.toBytes_value (Cursor.length_take_rest hin')
  have hstep := step_inside hin'
  rw [hb] at hstep
  rw [Cursor.rest, hb] at hbytes hfield hstep
  exact ⟨_, hstep, hfield, hbytes⟩

theorem Within.read_short (hs : Within buffer s)
    (hshort : buffer.length < (s i).offset + f.width) :
    s.step (.read i f) =
      (s, some (.error (.truncated f.width (buffer.length - (s i).offset)))) := by
  obtain ⟨hb, ho⟩ := hs i
  rw [step_short (by rw [Cursor.remaining, hb]; omega), Cursor.remaining, hb]

/-! ### Pieces -/

theorem values_cons (i : Nat) (e : Entry) (log : List Entry) :
    values i (e :: log) = values i [e] ++ values i log := by
  rw [values, values, values, ← List.filterMap_append, List.singleton_append]

/-- The bytes of what a cursor returns in one move, and then what it has left, are what it
had left before. -/
theorem step_rest (s : Cursors) {m : Move} (h : ∀ j, m ≠ .copy i j) :
    (values i [(m, (s.step m).2)]).flatMap Value.toBytes ++ ((s.step m).1 i).rest =
      (s i).rest := by
  cases m with
  | copy k j =>
    have hk : i ≠ k := fun hk => h j (hk ▸ rfl)
    simp [values, valueBy, step, set_of_ne s _ hk]
  | read k f =>
    rcases (s k).range_cases f.width with hin | hshort | ⟨hoffset, hzero⟩
    · rw [step_inside hin]
      by_cases hk : k = i
      · subst hk
        have hbytes := (f.toBytes_value (Cursor.length_take_rest hin)).1
        simp only [values, valueBy, List.filterMap_cons, List.filterMap_nil, if_true, set_self,
          List.flatMap_cons, List.flatMap_nil, List.append_nil, hbytes]
        rw [Cursor.rest, Cursor.rest, ← List.drop_drop, List.take_append_drop]
      · simp [values, valueBy, hk, set_of_ne s _ (Ne.symm hk)]
    · simp [step_short hshort, values, valueBy]
    · simp [step_beyond hoffset hzero, values, valueBy]

/-- **A cursor's reads cut what it had left into pieces**, until it is put elsewhere. -/
theorem run_rest : ∀ (ms : List Move) (s : Cursors), (∀ j, Move.copy i j ∉ ms) →
    (values i (s.run ms).2).flatMap Value.toBytes ++ ((s.run ms).1 i).rest = (s i).rest
  | [], _, _ => rfl
  | m :: ms, s, h => by
    -- The moves that follow cut what the first one left.
    have hm : ∀ j, m ≠ .copy i j := fun j hj => h j (hj ▸ List.mem_cons_self)
    have hms : ∀ j, Move.copy i j ∉ ms := fun j hj => h j (List.mem_cons_of_mem m hj)
    rw [run, values_cons, List.flatMap_append, List.append_assoc, run_rest ms _ hms, step_rest s hm]

/-! ### Reading back -/

/-- **What was written one after another is read back**, and what follows is left. -/
theorem run_fields {after : Bytes} : ∀ (vs : List Value) (s : Cursors),
    (s i).offset ≤ (s i).buffer.length → (s i).rest = vs.flatMap Value.toBytes ++ after →
    (s.run (vs.map fun v => .read i v.field)).2 =
        vs.map (fun v => (.read i v.field, some (.ok v))) ∧
      ((s.run (vs.map fun v => .read i v.field)).1 i).rest = after
  | [], _, _, hrest => ⟨rfl, hrest⟩
  | v :: vs, s, ho, hrest => by
    rw [List.flatMap_cons, List.append_assoc] at hrest
    have hwidth : v.toBytes.length = v.field.width := v.length_toBytes
    have hin : (s i).offset + v.field.width ≤ (s i).buffer.length := by
      have hlen := congrArg List.length hrest
      rw [Cursor.length_rest, Cursor.remaining, List.length_append, hwidth] at hlen
      omega
    have hstep : s.step (.read i v.field) =
        (s.set i ⟨(s i).buffer, (s i).offset + v.field.width⟩, some (.ok v)) := by
      rw [step_inside hin, hrest, List.take_left' hwidth, v.value_toBytes]
    have hleft : Cursor.rest ⟨(s i).buffer, (s i).offset + v.field.width⟩ =
        vs.flatMap Value.toBytes ++ after := by
      rw [Cursor.rest, ← List.drop_drop, ← Cursor.rest, hrest, List.drop_left' hwidth]
    obtain ⟨hlog, hafter⟩ := run_fields vs (s.set i ⟨(s i).buffer, (s i).offset + v.field.width⟩)
      (by rwa [set_self]) (by rwa [set_self])
    rw [List.map_cons, List.map_cons, run, hstep]
    exact ⟨by rw [hlog], hafter⟩

/-- **Reads cut the buffer into pieces, and undo writing.** Cursors that start in a buffer or at
its end never leave it and never abort, whatever they read and however they are copied.
What a cursor returns and what it has left are the buffer from where it was, and values
that were written one after another are read back. -/
theorem run_partition :
    (∀ (buffer : Bytes) (start : Nat), start ≤ buffer.length →
      ∀ (moves : List Move) (s : Cursors), ((all ⟨buffer, start⟩).run moves).1 = s →
        (∀ m reason, (m, some (.abort reason)) ∉ ((all ⟨buffer, start⟩).run moves).2) ∧
        (∀ i, (s i).buffer = buffer ∧ (s i).offset ≤ buffer.length) ∧
        (∀ i f,
          ((s i).offset + f.width ≤ buffer.length →
            ∃ v, s.step (.read i f) = (s.set i ⟨buffer, (s i).offset + f.width⟩, some (.ok v)) ∧
              v.field = f ∧ v.toBytes = (buffer.drop (s i).offset).take f.width) ∧
          (buffer.length < (s i).offset + f.width →
            s.step (.read i f) =
              (s, some (.error (.truncated f.width (buffer.length - (s i).offset)))))) ∧
        ∀ i stretch, (∀ j, Move.copy i j ∉ stretch) →
          (values i (s.run stretch).2).flatMap Value.toBytes ++ ((s.run stretch).1 i).rest =
            buffer.drop (s i).offset) ∧
    (∀ (v : Value) (s : Bytes), v.Written s ↔ s = v.toBytes) ∧
    ∀ (before after : Bytes) (vs : List Value) (i : Nat) (s : Cursors),
      all ⟨before ++ vs.flatMap Value.toBytes ++ after, before.length⟩ = s →
        (s.run (vs.map fun v => .read i v.field)).2 =
            vs.map (fun v => (.read i v.field, some (.ok v))) ∧
          ((s.run (vs.map fun v => .read i v.field)).1 i).rest = after := by
  refine ⟨?_, Value.written_iff, ?_⟩
  · rintro buffer start hstart moves s hs
    obtain ⟨hwithin, hlog⟩ := (within_all hstart).run moves
    rw [hs] at hwithin
    refine ⟨hlog, hwithin, fun i f => ⟨hwithin.read_inside, hwithin.read_short⟩,
      fun i stretch hkept => ?_⟩
    rw [run_rest stretch s hkept, Cursor.rest, (hwithin i).1]
  · rintro before after vs i s rfl
    refine run_fields vs _ ?_ ?_
    · simp [all]
    · simp [all, Cursor.rest]

/-- A byte, the number -2, and three bytes more. -/
def sample : Bytes := [7, 255, 255, 255, 254, 1, 2, 9]

/-- A place is kept, a number and two bytes are read around a number that is not there,
and the cursor is put back. -/
def detour : List Move :=
  [.copy 1 0, .read 0 .i32, .read 0 .u64, .read 0 (.bytes 2), .copy 0 1]

/-- From the place that was kept: two cursors read, one more is made, one read fails and
one is of no bytes. -/
def retaken : List Move :=
  [.read 0 .u16, .read 1 .i32, .copy 2 0, .read 0 .u64, .read 0 (.bytes 0), .read 0 (.bytes 3)]

/-- A negative number, two bytes, and a bit pattern that is not a number. -/
def mixed : List Value := [.i32 (-2), .bytes [1, 2], .single ⟨0x7FC00001⟩]

/-- A detour over a buffer and back, the pieces from there on, and three values that are
read back between other bytes. -/
theorem run_partition_detour :
    1 ≤ sample.length ∧ (∀ j, Move.copy 0 j ∉ retaken) ∧
    ((all ⟨sample, 1⟩).run detour).2.map Prod.snd =
      [none, some (.ok (.i32 (-2))), some (.error (.truncated 8 3)), some (.ok (.bytes [1, 2])),
        none] ∧
    values 0 (((all ⟨sample, 1⟩).run detour).1.run retaken).2 =
      [.u16 65535, .bytes [], .bytes [255, 254, 1]] ∧
    [255, 255, 255, 254, 1] ++ ((((all ⟨sample, 1⟩).run detour).1.run retaken).1 0).rest =
      sample.drop 1 ∧
    ((all ⟨[7] ++ mixed.flatMap Value.toBytes ++ [9, 9], 1⟩).run
      [.read 0 .i32, .read 0 (.bytes 2), .read 0 .single]).2.map Prod.snd =
        mixed.map fun v => some (.ok v) := by
  obtain ⟨hcut, -, hback⟩ := run_partition
  have hstart : 1 ≤ sample.length := by decide
  have hkept : ∀ j, Move.copy 0 j ∉ retaken := by simp [retaken]
  have hvalues : values 0 (((all ⟨sample, 1⟩).run detour).1.run retaken).2 =
      [.u16 65535, .bytes [], .bytes [255, 254, 1]] := by decide
  obtain ⟨-, -, -, hpieces⟩ := hcut sample 1 hstart detour _ rfl
  have hrest := hpieces 0 retaken hkept
  rw [hvalues] at hrest
  have hlog := (hback [7] [9, 9] mixed 0 _ rfl).1
  exact ⟨hstart, hkept, by decide, hvalues, hrest, congrArg (List.map Prod.snd) hlog⟩

/-! ### Beyond the end -/

/-- If no move changes anything, each move of a run is answered as the first one would be. -/
theorem run_eq_of_fixed {s : Cursors} (h : ∀ m, (s.step m).1 = s) :
    ∀ ms : List Move, s.run ms = (s, ms.map fun m => (m, (s.step m).2))
  | [] => rfl
  | m :: ms => by rw [run, h m, run_eq_of_fixed h ms, List.map_cons]

theorem step_all_of_beyond {c : Cursor} (h : c.buffer.length < c.offset) (m : Move) :
    ((all c).step m).1 = all c := by
  cases m with
  | copy i j => exact set_all i c
  | read i f =>
    rcases c.range_cases f.width with hin | hshort | ⟨-, hzero⟩
    · omega
    · rw [step_short hshort]
    · rw [step_beyond h hzero]

theorem abort_iff_of_beyond {c : Cursor} (h : c.buffer.length < c.offset) {m : Move} :
    (∃ reason, ((all c).step m).2 = some (.abort reason)) ↔ ∃ i, m = .read i (.bytes 0) := by
  cases m with
  | copy i j => simp [step]
  | read i f =>
    rcases c.range_cases f.width with hin | hshort | ⟨-, hzero⟩
    · omega
    · have hstep := step_short (s := all c) (i := i) hshort
      have hpos : f ≠ .bytes 0 := fun hf => by simp [hf, Field.width] at hshort
      simp [hstep, hpos]
    · obtain rfl := Field.width_eq_zero.1 hzero
      simp [step_beyond (s := all c) (i := i) h hzero]

theorem run_all_of_beyond {c : Cursor} (h : c.buffer.length < c.offset) (ms : List Move) :
    (all c).run ms = (all c, ms.map fun m => (m, ((all c).step m).2)) :=
  run_eq_of_fixed (step_all_of_beyond h) ms

/-- Beyond the end, a run aborts exactly if one of its reads is of no bytes. -/
theorem exists_abort_iff_of_beyond {c : Cursor} (h : c.buffer.length < c.offset)
    (ms : List Move) :
    (∃ m reason, (m, some (.abort reason)) ∈ ((all c).run ms).2) ↔
      ∃ i, .read i (.bytes 0) ∈ ms := by
  rw [run_all_of_beyond h]
  constructor
  · rintro ⟨m, reason, hmem⟩
    obtain ⟨m', hm', heq⟩ := List.mem_map.1 hmem
    obtain ⟨rfl, hanswer⟩ := Prod.mk.inj heq
    obtain ⟨i, rfl⟩ := (abort_iff_of_beyond h).1 ⟨reason, hanswer⟩
    exact ⟨i, hm'⟩
  · rintro ⟨i, hmem⟩
    obtain ⟨reason, hanswer⟩ := (abort_iff_of_beyond h).2 ⟨i, rfl⟩
    exact ⟨_, reason, List.mem_map.2 ⟨_, hmem, by rw [hanswer]⟩⟩

/-- **Reads past the end are errors, but for reads of no bytes**, which abort. A run of reads
and copies aborts exactly if its cursors were placed beyond the end and one of them asks
for no bytes. Words of 64 bits change none of this. -/
theorem run_aborts_iff (buffer : Bytes) (offset : Nat) :
    (∀ length, (Field.bytes length).read buffer offset =
      if offset + length ≤ buffer.length then
        .ok (.bytes ((buffer.drop offset).take length), length)
      else if length = 0 then .abort none
      else .error (.truncated length (buffer.length - offset))) ∧
    (∀ place length : UInt64, buffer.length < 2 ^ 64 → place.toNat = offset →
      readWords buffer place length =
        (readBytes buffer offset length.toNat).map fun s => (s, length)) ∧
    (∀ length,
      ((Field.bytes length).read buffer offset =
        if offset + length ≤ buffer.length then
          .ok (.bytes ((buffer.drop offset).take length), length)
        else .error (.truncated length (buffer.length - offset))) ↔
      offset ≤ buffer.length ∨ 0 < length) ∧
    ∀ moves : List Move,
      ((∃ m reason, (m, some (.abort reason)) ∈ ((all ⟨buffer, offset⟩).run moves).2) ↔
        buffer.length < offset ∧ ∃ i, .read i (.bytes 0) ∈ moves) ∧
      ∀ i, (((all ⟨buffer, offset⟩).run moves).1 i).offset ≤ max offset buffer.length := by
  refine ⟨Field.read_bytes_eq buffer offset, fun place length h hplace => ?_, fun length => ?_,
    fun moves => ?_⟩
  · rw [readWords_eq h, hplace]
  · rw [Field.read_bytes_eq]
    split_ifs with hin hzero
    · simp only [true_iff]
      omega
    · simp only [false_iff]
      omega
    · simp only [true_iff]
      omega
  · rcases Nat.lt_or_ge buffer.length offset with hbeyond | hoffset
    · have hfixed := run_all_of_beyond (c := ⟨buffer, offset⟩) hbeyond moves
      have haborts := exists_abort_iff_of_beyond (c := ⟨buffer, offset⟩) hbeyond moves
      refine ⟨by simpa only [hbeyond, true_and] using haborts, fun i => ?_⟩
      rw [hfixed]
      exact le_max_left offset buffer.length
    · obtain ⟨hwithin, hlog⟩ := (within_all hoffset).run moves
      refine ⟨?_, fun i => (hwithin i).2.trans (le_max_right offset buffer.length)⟩
      simp [hlog, Nat.not_lt.2 hoffset]

/-- At the largest offset of two bytes, the largest length is an error and not an overflow,
and so is one byte; a cursor there reads without an abort as long as it asks for bytes. -/
theorem run_aborts_iff_extremes :
    ([1, 2] : Bytes).length < 2 ^ 64 ∧ (0xFFFFFFFFFFFFFFFF : UInt64).toNat = 18446744073709551615 ∧
    readWords [1, 2] 0xFFFFFFFFFFFFFFFF 0xFFFFFFFFFFFFFFFF =
      .error (.truncated 18446744073709551615 0) ∧
    (Field.bytes 1).read [1, 2] 18446744073709551615 = .error (.truncated 1 0) ∧
    ¬ ∃ m reason, (m, some (.abort reason)) ∈
      ((all ⟨[1, 2], 18446744073709551615⟩).run
        [.read 0 .u16, .copy 1 0, .read 1 (.bytes 1)]).2 := by
  obtain ⟨-, hwords, hrule, hruns⟩ := run_aborts_iff [1, 2] 18446744073709551615
  have hsize : ([1, 2] : Bytes).length < 2 ^ 64 := by decide
  refine ⟨hsize, rfl, (hwords _ _ hsize rfl).trans ?_, ?_, ?_⟩
  · rw [readBytes_eq]
    rfl
  · exact (hrule 1).2 (.inr (by decide))
  · rw [(hruns _).1]
    simp

/-- Where the rule fails: no bytes, asked for at offset 5 of two, are neither returned nor
said to be missing, and a cursor that was placed there aborts. -/
theorem abort_of_no_bytes :
    (Field.bytes 0).read [1, 2] 5 = .abort none ∧
    ¬ 5 + 0 ≤ ([1, 2] : Bytes).length ∧
    (Field.bytes 0).read [1, 2] 5 ≠ .error (.truncated 0 0) ∧
    ((all ⟨[1, 2], 5⟩).run [.read 0 .u16, .read 0 (.bytes 0)]).2 =
      [(.read 0 .u16, some (.error (.truncated 2 0))),
        (.read 0 (.bytes 0), some (.abort none))] := by
  decide

end Cursors
end Tagram
