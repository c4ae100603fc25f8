/-
# The nearest floating point number

`Format.nearest f n d` is the bit pattern of the floating point number nearest
to `n / d`; of two that are equally near, the one with an even fraction. A
value too large for the format becomes infinity.

Key definitions: `Binary.roundHalfEven`, `Binary.Format.nearest`.
-/
import Tagram.Decimal.Binary

namespace Tagram
namespace Binary

/-- The whole number nearest to `n / d`, or the even one of two. -/
def roundHalfEven (n d : Nat) : Nat :=
  let q := n / d
  let r := n % d
  if 2 * r < d then q
  else if d < 2 * r then q + 1
  else q + q % 2

namespace Format

/-- The exponent of the last bit of the smallest numbers. -/
def leastExponent (f : Format) : Int :=
  2 - (Nat.pow 2 (f.exponentBits - 1) : Int) - f.fractionBits

/-- The pattern of infinity. -/
def infinity (f : Format) : Nat :=
  (Nat.pow 2 f.exponentBits - 1) * Nat.pow 2 f.fractionBits

/-- The value `n / d` in units of `2 ^ q`, as a fraction. -/
def inUnits (n d : Nat) (q : Int) : Nat × Nat :=
  let unit := Nat.pow 2 q.natAbs
  if q < 0 then (n * unit, d) else (n, d * unit)

/-- The exponent of the last bit of numbers near `n / d`. -/
def unitExponent (f : Format) (n d : Nat) : Int :=
  let q : Int := n.log2 - d.log2 - f.fractionBits - 1
  let (n', d') := inUnits n d q
  max f.leastExponent (if n' / d' < Nat.pow 2 (f.fractionBits + 1) then q else q + 1)

/-- The bits after the sign of the number nearest to `n / d`. The pattern of
`m * 2 ^ q` is `m` plus the exponent's distance from the least one in the
exponent field, also when rounding has carried `m` to the next power of two. -/
def nearest (f : Format) (n d : Nat) : Nat :=
  let q := f.unitExponent n d
  let (n', d') := inUnits n d q
  min f.infinity (roundHalfEven n' d' + (q - f.leastExponent).toNat * Nat.pow 2 f.fractionBits)

end Format
end Binary
end Tagram
