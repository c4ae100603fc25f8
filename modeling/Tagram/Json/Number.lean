/-
# JSON numbers

A number without fraction and exponent is an integer if it fits: below 2^64,
or with a minus sign down to -2^63. Minus zero and all other numbers are
doubles.

A double is computed from at most 64 bits of digits. Digits are absorbed from
the left while they fit; integer digits beyond that only raise the decimal
exponent, fraction digits beyond that are ignored. The absorbed digits become
a double, which is then multiplied or divided by a power of ten that is itself
rounded to a double. So the result is close to the written number, but not
always the nearest double.

Key definitions: `Json.readNumber`, `Json.absorb`, `Json.scale?`,
`Json.Number.text`.
-/
import Tagram.Decimal.Binary
import Tagram.Decimal.Layout
import Tagram.Json.Basic
import Tagram.Json.Fault

namespace Tagram
namespace Json

/-- Whether a byte is a decimal digit. -/
def isDigit (b : UInt8) : Bool := 0x30 ≤ b && b ≤ 0x39

/-- The value of a decimal digit. -/
def digitValue (b : UInt8) : Nat := b.toNat - 0x30

/-- Appends digits to `n` while the result stays below 2^64, and counts them on
top of `count`. -/
def absorb (n count : Nat) : Bytes → Nat × Nat
  | [] => (n, count)
  | d :: ds =>
    if n * 10 + digitValue d < 0x10000000000000000 then absorb (n * 10 + digitValue d) (count + 1) ds
    else (n, count)

/-- The double nearest to `10 ^ k`. -/
def powerOfTen (k : Nat) : Float := Float.ofScientific 1 false k

/-- `x * 10 ^ e`, by one step with a power of ten up to 308. A smaller exponent
takes several steps down, unless zero is reached first. `none` when the result
is too large. -/
def scale? (x : Float) (e : Int) : Option Float :=
  if e.natAbs ≤ 308 then
    if 0 ≤ e then
      let y := x * powerOfTen e.natAbs
      if y.isInf then none else some y
    else some (x / powerOfTen e.natAbs)
  else if x == 0 then some x
  else if 0 ≤ e then none
  else scale? (x / powerOfTen 308) (e + 308)
termination_by e.natAbs

/-- The double `± digits * 10 ^ e` that ends just before `rest`. -/
def readFloat (positive : Bool) (digits : Nat) (e : Int) (rest : Bytes) : Result Number :=
  match scale? (UInt64.ofNat digits).toFloat e with
  | none => .error (.here .outOfRange rest)
  | some x => .ok (.float (if positive then x else -x), rest)

/-- The largest exponent that is kept. -/
def exponentLimit : Nat := 0x7FFFFFFF

/-- The value of an exponent's digits after `n`, or what follows the digit that
takes it over the limit. -/
def readExponentDigits (n : Nat) : Bytes → Except Bytes (Nat × Bytes)
  | [] => .ok (n, [])
  | d :: rest =>
    if isDigit d then
      let m := n * 10 + digitValue d
      if exponentLimit < m then .error rest else readExponentDigits m rest
    else .ok (n, d :: rest)

/-- An exponent held within 32 bits. -/
def clampExponent (e : Int) : Int := max (-0x80000000) (min e 0x7FFFFFFF)

/-- The part of a number after the sign of its exponent, which goes `up` or down. -/
def readUnsignedExponent (positive : Bool) (digits : Nat) (e : Int) (up : Bool) (s : Bytes) :
    Result Number :=
  match s with
  | [] => .error (.here .endInValue [])
  | d :: rest =>
    if isDigit d then
      match readExponentDigits 0 s with
      | .ok (n, rest) =>
        readFloat positive digits (clampExponent (if up then e + n else e - n)) rest
      | .error rest =>
        if digits ≠ 0 && up then .error (.here .outOfRange rest)
        else .ok (.float (if positive then 0 else -0), rest.dropWhile isDigit)
    else .error (.here .badNumber rest)

/-- The part of a number after its exponent mark. -/
def readExponent (positive : Bool) (digits : Nat) (e : Int) (s : Bytes) : Result Number :=
  match s with
  | 0x2B :: rest => readUnsignedExponent positive digits e true rest
  | 0x2D :: rest => readUnsignedExponent positive digits e false rest
  | s => readUnsignedExponent positive digits e true s

/-- Whether a byte marks an exponent. -/
def isExponentMark (b : UInt8) : Bool := b = 0x65 || b = 0x45

/-- The part of a number after its fraction. -/
def readAfterFraction (positive : Bool) (digits : Nat) (e : Int) (s : Bytes) : Result Number :=
  match s with
  | b :: rest =>
    if isExponentMark b then readExponent positive digits e rest
    else readFloat positive digits e s
  | [] => readFloat positive digits e s

/-- The part of a number after its point. -/
def readFraction (positive : Bool) (digits : Nat) (e : Int) (s : Bytes) : Result Number :=
  match s.takeWhile isDigit with
  | [] => .error (.next (if s.isEmpty then .endInValue else .badNumber) s)
  | ds =>
    let (digits, count) := absorb digits 0 ds
    readAfterFraction positive digits (e - count) (s.dropWhile isDigit)

/-- An integer, by its sign and its digits. -/
def integer (positive : Bool) (n : Nat) : Number :=
  if positive then .nat (UInt64.ofNat n)
  else if h : 0 < n ∧ n ≤ 0x8000000000000000 then .negSucc ⟨n - 1, by omega⟩
  else .float (-(UInt64.ofNat n).toFloat)

/-- The part of a number after its integer digits, of which `digits` were
absorbed and `dropped` more were not. -/
def readAfterInteger (positive : Bool) (digits dropped : Nat) (s : Bytes) : Result Number :=
  match s with
  | 0x2E :: rest => readFraction positive digits dropped rest
  | b :: rest =>
    if isExponentMark b then readExponent positive digits dropped rest
    else if dropped = 0 then .ok (integer positive digits, s)
    else readFloat positive digits dropped s
  | [] =>
    if dropped = 0 then .ok (integer positive digits, s)
    else readFloat positive digits dropped s

/-- A number after its sign. -/
def readNumber (positive : Bool) (s : Bytes) : Result Number :=
  match s with
  | [] => .error (.here .endInValue [])
  | d :: rest =>
    if d = 0x30 then
      if (rest.head?.map isDigit).getD false then .error (.next .badNumber rest)
      else readAfterInteger positive 0 0 rest
    else if isDigit d then
      let ds := s.takeWhile isDigit
      let (digits, count) := absorb 0 0 ds
      readAfterInteger positive digits (ds.length - count) (s.dropWhile isDigit)
    else .error (.here .badNumber rest)

/-! ### Text -/

/-- Doubles are written in full from order -5 to order 15, an exponent always
has a sign, and of two equally near decimals the even one is taken. -/
def floatLayout : Decimal.Layout := ⟨-5, 15, "+", .even⟩

/-- The text of a double with the fewest digits that read back. What is not a
finite number has no place in JSON and is written as null. -/
def floatText (x : Float) : String :=
  let bits := x.toBits.toNat
  let sign := if Binary.double.negative bits then "-" else ""
  match Binary.double.magnitude bits with
  | .notANumber | .infinite => "null"
  | .zero => sign ++ Decimal.zeroText
  | .finite m q narrow => sign ++ floatLayout.shortest m q narrow

/-- The text of a number. -/
def Number.text : Number → String
  | .nat n => toString n.toNat
  | .negSucc n => "-" ++ toString (n.val + 1)
  | .float x => floatText x

end Json
end Tagram
