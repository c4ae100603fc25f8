/-
# Binary floating point

A floating point number is kept as its bit pattern: a sign bit, a biased
exponent and a fraction. `Binary.Format` gives the two field widths, and
`Format.magnitude` reads a pattern as zero, infinity, not a number, or
`m * 2 ^ q` with whole `m`. Patterns are never changed by storing them, so a
payload inside a not-a-number survives.

Key definitions: `Binary.Format`, `Binary.Format.magnitude`, `Single`,
`Single.equal`.
-/

namespace Tagram
namespace Binary

/-- The widths of the two fields after the sign bit. -/
structure Format where
  /-- Bits of the fraction. -/
  fractionBits : Nat
  /-- Bits of the biased exponent. -/
  exponentBits : Nat

/-- 32 bits: one sign bit, 8 exponent bits, 23 fraction bits. -/
def single : Format := ⟨23, 8⟩

/-- 64 bits: one sign bit, 11 exponent bits, 52 fraction bits. -/
def double : Format := ⟨52, 11⟩

/-- What the bits after the sign stand for. -/
inductive Magnitude where
  | zero
  | infinite
  | notANumber
  /-- The value `m * 2 ^ q`. `narrow` tells that the number below it is only
  half as far away as the number above it. -/
  | finite (m : Nat) (q : Int) (narrow : Bool)
  deriving DecidableEq

/-- The bits after the sign, as a magnitude. -/
def Format.magnitude (f : Format) (bits : Nat) : Magnitude :=
  let fraction := bits % Nat.pow 2 f.fractionBits
  let exponent := bits / Nat.pow 2 f.fractionBits % Nat.pow 2 f.exponentBits
  let bias := (Nat.pow 2 (f.exponentBits - 1) : Int) - 1 + f.fractionBits
  if exponent = Nat.pow 2 f.exponentBits - 1 then
    if fraction = 0 then .infinite else .notANumber
  else if exponent = 0 then
    if fraction = 0 then .zero else .finite fraction (1 - bias) false
  else
    .finite (fraction + Nat.pow 2 f.fractionBits) (exponent - bias) (fraction = 0 && 1 < exponent)

/-- Whether the sign bit is set. -/
def Format.negative (f : Format) (bits : Nat) : Bool :=
  bits / Nat.pow 2 (f.fractionBits + f.exponentBits) % 2 = 1

end Binary

/-- A single precision number, kept as its bit pattern. -/
structure Single where
  bits : UInt32
  deriving DecidableEq, Inhabited

namespace Single

/-- The magnitude of a single. -/
def magnitude (x : Single) : Binary.Magnitude := Binary.single.magnitude x.bits.toNat

/-- The sign bit of a single. -/
def negative (x : Single) : Bool := Binary.single.negative x.bits.toNat

/-- Numerical equality: the two zeros are equal, and not-a-number equals nothing. -/
def equal (x y : Single) : Bool :=
  match x.magnitude, y.magnitude with
  | .notANumber, _ => false
  | _, .notANumber => false
  | .zero, .zero => true
  | _, _ => x.bits == y.bits

end Single
end Tagram
