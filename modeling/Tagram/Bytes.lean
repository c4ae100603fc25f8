/-
# Byte strings

Everything on the wire is a byte string, and every number on it is
big-endian with a fixed width. `ofBigEndian` and `toBigEndian` are the two
directions; `split?` cuts a byte string after a given count, and fails when
there are too few bytes.

Key definitions: `Bytes`, `Bytes.ofBigEndian`, `Bytes.toBigEndian`,
`Bytes.split?`, `Bytes.ofText`, `Bytes.toText?`.
Key theorems: `Bytes.length_toBigEndian`, `Bytes.split?_eq`.
-/

namespace Tagram

/-- A byte string. -/
abbrev Bytes := List UInt8

namespace Bytes

/-- The number whose base 256 digits are the bytes, most significant first. -/
def ofBigEndian (s : Bytes) : Nat :=
  s.foldl (fun n b => n * 256 + b.toNat) 0

/-- The lowest `w` base 256 digits of `n`, most significant first. -/
def toBigEndian : Nat → Nat → Bytes
  | 0, _ => []
  | w + 1, n => toBigEndian w (n / 256) ++ [UInt8.ofNat (n % 256)]

/-- The first `n` bytes and the rest, when there are that many. -/
def split? (n : Nat) (s : Bytes) : Option (Bytes × Bytes) :=
  let front := s.take n
  if front.length = n then some (front, s.drop n) else none

/-- The UTF-8 bytes of a text. -/
def ofText (t : String) : Bytes := t.toUTF8.data.toList

/-- The text with the given UTF-8 bytes, if they are UTF-8. -/
def toText? (s : Bytes) : Option String := String.fromUTF8? ⟨s.toArray⟩

/-- Whether every byte is below 128. -/
def isAscii (s : Bytes) : Bool := s.all (· < 0x80)

/-- The text that has one character for each byte, of the same number. -/
def toLatin (s : Bytes) : String := String.ofList (s.map fun b => Char.ofNat b.toNat)

/-- The hexadecimal digit of a number below 16. -/
def hexDigit (n : Nat) : Char := if n < 10 then Char.ofNat (48 + n) else Char.ofNat (87 + n)

/-- Two lowercase hexadecimal digits for each byte. -/
def toHex (s : Bytes) : String :=
  String.ofList (s.flatMap fun b => [hexDigit (b.toNat / 16), hexDigit (b.toNat % 16)])

/-! ### Width and value -/

@[simp] theorem length_toBigEndian : ∀ w n : Nat, (toBigEndian w n).length = w
  | 0, _ => rfl
  | w + 1, n => by simp [toBigEndian, length_toBigEndian w]

/-- The last byte is the lowest digit. -/
theorem ofBigEndian_concat (s : Bytes) (b : UInt8) :
    ofBigEndian (s ++ [b]) = ofBigEndian s * 256 + b.toNat := by
  simp [ofBigEndian]

/-! ### Cutting -/

/-- `split?` cuts exactly when there are enough bytes. -/
theorem split?_eq (n : Nat) (s : Bytes) :
    split? n s = if n ≤ s.length then some (s.take n, s.drop n) else none := by
  simp only [split?, List.length_take]
  by_cases h : n ≤ s.length
  · rw [if_pos h, if_pos (Nat.min_eq_left h)]
  · rw [if_neg h, if_neg (by omega)]

end Bytes
end Tagram
