/-
# Reading numbers

An integer is digits with an optional sign, read from left to right: the first
thing wrong with it is the error, so a number that is already too large hides
a bad character behind it.

A single precision number is a decimal with an optional point and an optional
exponent, rounded to the nearest single; it may also be an infinity or not a
number, by name and in any case.

Key definitions: `Integer.Error`, `Integer.readNat`, `Integer.readInt`,
`Single.ofText?`.
-/
import Tagram.Decimal.Nearest

namespace Tagram
namespace Integer

/-- Why a text is no integer. -/
inductive Error where
  | empty
  | invalidDigit
  | tooLarge
  | tooSmall
  deriving DecidableEq

/-- The wording of an error. -/
def Error.message : Error → String
  | .empty => "cannot parse integer from empty string"
  | .invalidDigit => "invalid digit found in string"
  | .tooLarge => "number too large to fit in target type"
  | .tooSmall => "number too small to fit in target type"

/-- The number `n` followed by more digits, if it stays below `limit`. -/
def readDigits (limit : Nat) (overflow : Error) (n : Nat) : List Char → Except Error Nat
  | [] => .ok n
  | c :: cs =>
    if c.isDigit then
      let m := n * 10 + (c.toNat - 48)
      if m < limit then readDigits limit overflow m cs else .error overflow
    else .error .invalidDigit

/-- Digits, of which there must be one. -/
def readUnsigned (limit : Nat) (overflow : Error) : List Char → Except Error Nat
  | [] => .error .invalidDigit
  | cs => readDigits limit overflow 0 cs

/-- A natural number below `limit`, with an optional plus sign. -/
def readNat (limit : Nat) (t : String) : Except Error Nat :=
  match t.toList with
  | [] => .error .empty
  | '+' :: cs => readUnsigned limit .tooLarge cs
  | cs => readUnsigned limit .tooLarge cs

/-- An integer from `-limit` to `limit - 1`, with an optional sign. -/
def readInt (limit : Nat) (t : String) : Except Error Int :=
  match t.toList with
  | [] => .error .empty
  | '+' :: cs => (readUnsigned limit .tooLarge cs).map Int.ofNat
  | '-' :: cs => (readUnsigned (limit + 1) .tooSmall cs).map fun n => -Int.ofNat n
  | cs => (readUnsigned limit .tooLarge cs).map Int.ofNat

end Integer

namespace Single

/-- The number that digits stand for, after `n`. -/
def digitsValue (n : Nat) (ds : List Char) : Nat :=
  ds.foldl (fun n c => n * 10 + (c.toNat - 48)) n

/-- The exponent after its mark. -/
def readExponent? (cs : List Char) : Option Int :=
  let (negative, ds) :=
    match cs with
    | '-' :: rest => (true, rest)
    | '+' :: rest => (false, rest)
    | rest => (false, rest)
  if ds.isEmpty || !ds.all Char.isDigit then none
  else
    let n := Int.ofNat (digitsValue 0 ds)
    some (if negative then -n else n)

/-- The exponent behind the digits of a number, zero if there is none. -/
def readTail? : List Char → Option Int
  | [] => some 0
  | c :: cs => if c = 'e' || c = 'E' then readExponent? cs else none

/-- The digits and the decimal exponent of a number without sign. -/
def readDecimal? (cs : List Char) : Option (Nat × Int) :=
  let whole := cs.takeWhile Char.isDigit
  let rest := cs.dropWhile Char.isDigit
  let (part, rest) :=
    match rest with
    | '.' :: rest => (rest.takeWhile Char.isDigit, rest.dropWhile Char.isDigit)
    | rest => ([], rest)
  if whole.isEmpty && part.isEmpty then none
  else (readTail? rest).map fun e => (digitsValue (digitsValue 0 whole) part, e - part.length)

/-- The bits of `n * 10 ^ e`. A value of more than forty digits before the point
is infinite, and one of more than fifty zeros behind it is zero. -/
def decimalBits (n : Nat) (e : Int) : UInt32 :=
  let order := (Nat.toDigits 10 n).length + e
  if n = 0 || order < -50 then 0
  else if 40 < order then UInt32.ofNat Binary.single.infinity
  else if e < 0 then UInt32.ofNat (Binary.single.nearest n (Nat.pow 10 e.natAbs))
  else UInt32.ofNat (Binary.single.nearest (n * Nat.pow 10 e.natAbs) 1)

/-- The bits of a number without sign. -/
def readMagnitude? (cs : List Char) : Option UInt32 :=
  match readDecimal? cs with
  | some (n, e) => some (decimalBits n e)
  | none =>
    let name := String.ofList (cs.map Char.toLower)
    if name = "inf" || name = "infinity" then some 0x7F800000
    else if name = "nan" then some 0x7FC00000
    else none

/-- The nearest single to the number that a text names. -/
def ofText? (t : String) : Option Single :=
  match t.toList with
  | '-' :: cs => (readMagnitude? cs).map fun bits => ⟨bits ||| 0x80000000⟩
  | '+' :: cs => (readMagnitude? cs).map Single.mk
  | cs => (readMagnitude? cs).map Single.mk

end Single
end Tagram
