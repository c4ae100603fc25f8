/-
# One read, in full

A read ends in one of three ways. If its range lies in the buffer, it returns the
bytes of the range. If fewer bytes are left than it asks for, it is an error that
tells both counts. What remains is a read of no bytes from beyond the end: it asks
for no more than is left, but there is no such range, and it aborts
(`readBytes_eq`).

The same read in words of 64 bits has two more places where it could go wrong: a
difference below zero, and a sum that needs a 65th bit. The difference stops at
zero, and the sum is taken only where it stays below the buffer's length or adds
nothing, so the words change no answer (`readWords_eq`).

A field's value and its bytes determine each other (`Field.toBytes_value`,
`Value.value_toBytes`). The bytes are the digits of a number to the base 256, most
significant first, and a negative number is written as the one of the same width
that is congruent to it (`Value.written_iff`).

Key definitions: `readWords`, `Value.number?`, `Value.Written`.
Key theorems: `readBytes_eq`, `Field.read_eq`, `readWords_eq`,
`Field.toBytes_value`, `Value.value_toBytes`, `Value.written_iff`.
-/
import Tagram.Proofs.Bytes
import Tagram.Cursor

namespace Tagram

/-! ### The range of a read -/

/-- **What a read answers**, for every offset and every length. -/
theorem readBytes_eq (buffer : Bytes) (offset length : Nat) :
    readBytes buffer offset length =
      if offset + length ≤ buffer.length then .ok ((buffer.drop offset).take length)
      else if length = 0 then .abort none
      else .error (.truncated length (buffer.length - offset)) := by
  by_cases hin : offset + length ≤ buffer.length
  · rw [if_pos hin, readBytes_eq_ok]
    exact ⟨hin, rfl⟩
  · rw [if_neg hin, readBytes, Bytes.split?_eq, List.length_drop]
    by_cases hzero : length = 0
    · -- The offset alone is beyond the end.
      rw [if_pos hzero, if_pos (by omega)]
      exact if_pos (by omega)
    · rw [if_neg hzero, if_neg (by omega)]

theorem Field.read_eq (f : Field) (buffer : Bytes) (offset : Nat) :
    f.read buffer offset =
      if offset + f.width ≤ buffer.length then
        .ok (f.value ((buffer.drop offset).take f.width), f.width)
      else if f.width = 0 then .abort none
      else .error (.truncated f.width (buffer.length - offset)) := by
  rw [Field.read, readBytes_eq]
  split_ifs <;> rfl

theorem Field.read_bytes_eq (buffer : Bytes) (offset length : Nat) :
    (Field.bytes length).read buffer offset =
      if offset + length ≤ buffer.length then
        .ok (.bytes ((buffer.drop offset).take length), length)
      else if length = 0 then .abort none
      else .error (.truncated length (buffer.length - offset)) :=
  Field.read_eq (.bytes length) buffer offset

theorem Field.width_eq_zero {f : Field} : f.width = 0 ↔ f = .bytes 0 := by
  cases f <;> simp [Field.width]

/-! ### The range in words of 64 bits -/

/-- The bytes from `start` up to `stop`. A range that the buffer does not have aborts. -/
def slice (buffer : Bytes) (start stop : Nat) : Outcome Bytes :=
  if start ≤ stop ∧ stop ≤ buffer.length then .ok ((buffer.drop start).take (stop - start))
  else .abort none

/-- The `length` bytes at `offset`, and their number, when all numbers are words of 64
bits. A difference stops at zero, and a sum that does not fit aborts. -/
def readWords (buffer : Bytes) (offset length : UInt64) : Outcome (Bytes × UInt64) :=
  let size := UInt64.ofNat buffer.length
  let remaining := if size < offset then 0 else size - offset
  if remaining < length then .error (.truncated length.toNat remaining.toNat)
  else if 2 ^ 64 ≤ offset.toNat + length.toNat then .abort (some "attempt to add with overflow")
  else (slice buffer offset.toNat (offset + length).toNat).map fun s => (s, length)

section Words

variable {buffer : Bytes}

/-- A difference of words that stops at zero is that of the numbers. -/
theorem toNat_remaining (h : buffer.length < 2 ^ 64) (offset : UInt64) :
    (if UInt64.ofNat buffer.length < offset then 0
      else UInt64.ofNat buffer.length - offset).toNat = buffer.length - offset.toNat := by
  have hsize : (UInt64.ofNat buffer.length).toNat = buffer.length := UInt64.toNat_ofNat_of_lt' h
  split_ifs with hlt
  · rw [UInt64.lt_iff_toNat_lt, hsize] at hlt
    exact (Nat.sub_eq_zero_of_le hlt.le).symm
  · rw [UInt64.lt_iff_toNat_lt, Nat.not_lt] at hlt
    rw [UInt64.toNat_sub_of_le _ _ (UInt64.le_iff_toNat_le.2 hlt), hsize]

/-- **Words of 64 bits change no answer.** In particular no sum of an offset and a
length leaves the words. -/
theorem readWords_eq (h : buffer.length < 2 ^ 64) (offset length : UInt64) :
    readWords buffer offset length =
      (readBytes buffer offset.toNat length.toNat).map fun s => (s, length) := by
  simp only [readWords, UInt64.lt_iff_toNat_lt (b := length), toNat_remaining h, readBytes_eq]
  have hoffset := offset.toNat_lt
  by_cases hshort : buffer.length - offset.toNat < length.toNat
  · rw [if_pos hshort, if_neg (by omega), if_neg (by omega), Outcome.map_error]
  · -- Either the sum is within the buffer, or nothing is added.
    have hsum : offset.toNat + length.toNat < 2 ^ 64 := by omega
    rw [if_neg hshort, if_neg (by omega), UInt64.toNat_add, Nat.mod_eq_of_lt hsum, slice,
      Nat.add_sub_cancel_left]
    by_cases hin : offset.toNat + length.toNat ≤ buffer.length
    · rw [if_pos ⟨Nat.le_add_right _ _, hin⟩, if_pos hin]
    · rw [if_neg (fun hrange => hin hrange.2), if_neg hin, if_pos (by omega)]

end Words

/-! ### Values and their bytes -/

/-- **The bytes of a field are those of its value**, which is a value of the field. -/
theorem Field.toBytes_value (f : Field) {s : Bytes} (h : s.length = f.width) :
    (f.value s).toBytes = s ∧ (f.value s).field = f := by
  cases f with
  | bytes n => exact ⟨rfl, congrArg Field.bytes h⟩
  | _ => exact ⟨Bytes.toBigEndian_mod h (by decide), rfl⟩

/-- **A value is read back from its bytes.** -/
theorem Value.value_toBytes (v : Value) : v.field.value v.toBytes = v := by
  cases v <;> simp [Value.field, Value.toBytes, Field.value, Bytes.ofBigEndian_toBigEndian]

/-- The number that a value is written as, if it is not a byte string: a floating point
value is its bit pattern. -/
def Value.number? : Value → Option Int
  | .u16 v => some v.toNat
  | .u32 v => some v.toNat
  | .u64 v => some v.toNat
  | .i32 v => some v.toInt
  | .i64 v => some v.toInt
  | .single v => some v.bits.toNat
  | .double v => some v.toNat
  | .bytes _ => none

/-- `s` is the value written down. A number is written in as many bytes as its field
takes: its digits to the base 256, most significant first, up to a multiple of the
power that no longer fits, which makes a negative number a positive one. A byte
string is written as it is. -/
inductive Value.Written : Value → Bytes → Prop
  | number {v : Value} {n : Int} {s : Bytes} (hn : v.number? = some n)
      (hl : s.length = v.field.width)
      (hs : (Bytes.ofBigEndian s : Int) = n % (256 ^ v.field.width : Nat)) : Written v s
  | bytes (s : Bytes) : Written (.bytes s) s

/-- The bit pattern of a signed number is the number, up to a multiple of `2 ^ w`. -/
theorem toNat_eq_toInt_emod {w : Nat} (x : BitVec w) :
    (x.toNat : Int) = x.toInt % (2 ^ w : Nat) := by
  have hlt : (x.toNat : Int) < (2 ^ w : Nat) := by exact_mod_cast x.isLt
  rw [BitVec.toInt_eq_toNat_bmod, Int.bmod_emod, Int.emod_eq_of_lt (Int.natCast_nonneg _) hlt]

theorem Value.ofBigEndian_toBytes {v : Value} {n : Int} (h : v.number? = some n) :
    (Bytes.ofBigEndian v.toBytes : Int) = n % (256 ^ v.field.width : Nat) := by
  have hdigits : ∀ w m : Nat,
      (Bytes.ofBigEndian (Bytes.toBigEndian w m) : Int) = (m : Int) % (256 ^ w : Nat) := by
    intro w m
    rw [Bytes.ofBigEndian_toBigEndian, Int.natCast_emod]
  cases v with
  | i32 v =>
    cases h
    have hpattern : (v.toUInt32.toNat : Int) = v.toInt % (256 ^ 4 : Nat) :=
      toNat_eq_toInt_emod v.toBitVec
    exact (hdigits 4 _).trans (by rw [hpattern, Int.emod_emod]; rfl)
  | i64 v =>
    cases h
    have hpattern : (v.toUInt64.toNat : Int) = v.toInt % (256 ^ 8 : Nat) :=
      toNat_eq_toInt_emod v.toBitVec
    exact (hdigits 8 _).trans (by rw [hpattern, Int.emod_emod]; rfl)
  | bytes v => cases h
  | _ =>
    cases h
    exact hdigits _ _

/-- **A value has one written form**, its bytes. -/
theorem Value.written_iff (v : Value) (s : Bytes) : v.Written s ↔ s = v.toBytes := by
  constructor
  · intro h
    cases h with
    | number hn hl hs =>
      apply Bytes.eq_of_ofBigEndian_eq
      · rw [hl, v.length_toBytes]
      · exact_mod_cast hs.trans (Value.ofBigEndian_toBytes hn).symm
    | bytes => rfl
  · rintro rfl
    cases hn : v.number? with
    | some n => exact .number hn v.length_toBytes (Value.ofBigEndian_toBytes hn)
    | none =>
      cases v <;> cases hn
      exact .bytes _

end Tagram
