/-
# Reading positions

A cursor is a buffer and an offset into it. Fields are read one after
another; a read moves the offset past the field it returns, and a read that
fails leaves the cursor as it was. The offset may lie beyond the end of the
buffer, where nothing can be read.

A read of no bytes beyond the end is not an error: the range it asks for does
not exist, and the read aborts.

A cursor can be copied, and put back to where a copy stands. Each copy has an
offset of its own.

Key definitions: `Field`, `Value`, `readBytes`, `Field.read`, `Cursor`,
`Cursor.read`, `Cursors`, `Cursors.step`.
Key theorems: `readBytes_eq_ok`, `Value.length_toBytes`.
-/
import Tagram.Bytes
import Tagram.Decimal.Binary
import Tagram.Outcome

namespace Tagram

/-- The kinds of fields that can be read. -/
inductive Field where
  | u16
  | u32
  | u64
  | i32
  | i64
  | single
  | double
  | bytes (length : Nat)
  deriving DecidableEq

/-- A field's value. Floating point values are bit patterns. -/
inductive Value where
  | u16 (v : UInt16)
  | u32 (v : UInt32)
  | u64 (v : UInt64)
  | i32 (v : Int32)
  | i64 (v : Int64)
  | single (v : Single)
  | double (bits : UInt64)
  | bytes (v : Bytes)
  deriving DecidableEq

/-- The number of bytes that a field takes. -/
def Field.width : Field → Nat
  | .u16 => 2
  | .u32 | .i32 | .single => 4
  | .u64 | .i64 | .double => 8
  | .bytes length => length

/-- The value of a field from its bytes. -/
def Field.value : Field → Bytes → Value
  | .u16, s => .u16 (UInt16.ofNat (Bytes.ofBigEndian s))
  | .u32, s => .u32 (UInt32.ofNat (Bytes.ofBigEndian s))
  | .u64, s => .u64 (UInt64.ofNat (Bytes.ofBigEndian s))
  | .i32, s => .i32 (UInt32.ofNat (Bytes.ofBigEndian s)).toInt32
  | .i64, s => .i64 (UInt64.ofNat (Bytes.ofBigEndian s)).toInt64
  | .single, s => .single ⟨UInt32.ofNat (Bytes.ofBigEndian s)⟩
  | .double, s => .double (UInt64.ofNat (Bytes.ofBigEndian s))
  | .bytes _, s => .bytes s

/-- The field that a value is a value of. -/
def Value.field : Value → Field
  | .u16 _ => .u16
  | .u32 _ => .u32
  | .u64 _ => .u64
  | .i32 _ => .i32
  | .i64 _ => .i64
  | .single _ => .single
  | .double _ => .double
  | .bytes v => .bytes v.length

/-- The bytes of a value: big-endian, two's complement for signed numbers. -/
def Value.toBytes : Value → Bytes
  | .u16 v => Bytes.toBigEndian 2 v.toNat
  | .u32 v => Bytes.toBigEndian 4 v.toNat
  | .u64 v => Bytes.toBigEndian 8 v.toNat
  | .i32 v => Bytes.toBigEndian 4 v.toUInt32.toNat
  | .i64 v => Bytes.toBigEndian 8 v.toUInt64.toNat
  | .single v => Bytes.toBigEndian 4 v.bits.toNat
  | .double v => Bytes.toBigEndian 8 v.toNat
  | .bytes v => v

/-- A value is written in as many bytes as its field takes. -/
theorem Value.length_toBytes (v : Value) : v.toBytes.length = v.field.width := by
  cases v <;> simp [Value.toBytes, Value.field, Field.width]

/-- The `length` bytes at `offset`. -/
def readBytes (buffer : Bytes) (offset length : Nat) : Outcome Bytes :=
  match Bytes.split? length (buffer.drop offset) with
  | none => .error (.truncated length (buffer.length - offset))
  | some (front, _) => if buffer.length < offset then .abort none else .ok front

/-- The value of a field at `offset`, and the number of bytes that it takes. -/
def Field.read (f : Field) (buffer : Bytes) (offset : Nat) : Outcome (Value × Nat) :=
  (readBytes buffer offset f.width).map fun s => (f.value s, f.width)

/-- **A read succeeds exactly when its range lies in the buffer**, and then
returns the bytes of the range. -/
theorem readBytes_eq_ok {buffer s : Bytes} {offset length : Nat} :
    readBytes buffer offset length = .ok s ↔
      offset + length ≤ buffer.length ∧ s = (buffer.drop offset).take length := by
  simp only [readBytes, Bytes.split?_eq, List.length_drop]
  by_cases h : length ≤ buffer.length - offset
  · by_cases h' : buffer.length < offset
    · simp [h, h']
      omega
    · simp only [h, h', if_true, if_false, Outcome.ok.injEq]
      constructor
      · rintro rfl
        exact ⟨by omega, rfl⟩
      · rintro ⟨-, rfl⟩
        rfl
  · simp [h]
    omega

/-- A buffer and a position in it. -/
structure Cursor where
  buffer : Bytes
  offset : Nat
  deriving DecidableEq

namespace Cursor

/-- The cursor at the start of a buffer. -/
def ofBytes (buffer : Bytes) : Cursor := ⟨buffer, 0⟩

/-- The bytes from the position on. -/
def rest (c : Cursor) : Bytes := c.buffer.drop c.offset

/-- The number of bytes from the position on. -/
def remaining (c : Cursor) : Nat := c.buffer.length - c.offset

/-- Whether nothing is left to read. -/
def isEmpty (c : Cursor) : Bool := c.remaining = 0

/-- Reads a field and moves past it. -/
def read (c : Cursor) (f : Field) : Outcome (Value × Cursor) :=
  (f.read c.buffer c.offset).map fun (v, used) => (v, ⟨c.buffer, c.offset + used⟩)

end Cursor

/-! ### Cursors and their copies -/

/-- Cursors, by number. -/
abbrev Cursors := Nat → Cursor

namespace Cursors

/-- What is done with cursors, one thing at a time. -/
inductive Move where
  /-- Cursor `i` reads a field. -/
  | read (i : Nat) (f : Field)
  /-- Cursor `i` becomes a copy of cursor `j`. This is how a place is kept, and how a
  cursor is put back to a place that was kept. -/
  | copy (i j : Nat)
  deriving DecidableEq

/-- Every cursor at one place. -/
def all (c : Cursor) : Cursors := fun _ => c

/-- Gives cursor `i` its buffer and its place. -/
def set (s : Cursors) (i : Nat) (c : Cursor) : Cursors := fun k => if k = i then c else s k

/-- A move, and what a read answers. A read without a value moves no cursor. -/
def step (s : Cursors) : Move → Cursors × Option (Outcome Value)
  | .read i f =>
    match (s i).read f with
    | .ok (v, c) => (s.set i c, some (.ok v))
    | .error cause => (s, some (.error cause))
    | .abort reason => (s, some (.abort reason))
  | .copy i j => (s.set i (s j), none)

end Cursors
end Tagram
