/-
# Durations

A length of time in whole nanoseconds, shorter than 2^64 seconds. Its text has
the largest unit of seconds, milliseconds, microseconds and nanoseconds that
the duration reaches, with a fraction without trailing zeros.

Key definitions: `Duration`, `Duration.ofNanos?`, `Duration.scale?`,
`Duration.text`.
-/

namespace Tagram

/-- A length of time in nanoseconds. -/
structure Duration where
  nanos : Nat
  /-- The whole seconds fit in 64 bits. -/
  bounded : nanos < 18446744073709551616 * 1000000000 := by omega
  deriving DecidableEq

namespace Duration

/-- The duration of so many nanoseconds, if there is one. -/
def ofNanos? (n : Nat) : Option Duration :=
  if h : n < 18446744073709551616 * 1000000000 then some ⟨n, h⟩ else none

/-- A duration of whole milliseconds, counted in 64 bits. -/
def ofMillis (n : UInt64) : Duration :=
  ⟨n.toNat * 1000000, by have := n.toNat_lt; omega⟩

/-- The shorter of two durations. -/
def shorter (a b : Duration) : Duration := if a.nanos ≤ b.nanos then a else b

/-- The longer of two durations. -/
def longer (a b : Duration) : Duration := if a.nanos ≤ b.nanos then b else a

/-- A multiple of a duration, if it is a duration. -/
def scale? (d : Duration) (k : Nat) : Option Duration := ofNanos? (d.nanos * k)

/-- `part / unit` as digits after a point, without trailing zeros; nothing if
`part` is zero. `unit` is ten to the power `places`. -/
def fraction (part places : Nat) : List Char :=
  let digits := Nat.toDigits 10 part
  let padded := List.replicate (places - digits.length) '0' ++ digits
  let kept := (padded.reverse.dropWhile (· = '0')).reverse
  if kept.isEmpty then [] else '.' :: kept

/-- `n` nanoseconds in a unit of `10 ^ places` nanoseconds. -/
def inUnit (n places : Nat) (name : String) : String :=
  let unit := Nat.pow 10 places
  toString (n / unit) ++ String.ofList (fraction (n % unit) places) ++ name

/-- The text of a duration. -/
def text (d : Duration) : String :=
  if 1000000000 ≤ d.nanos then inUnit d.nanos 9 "s"
  else if 1000000 ≤ d.nanos then inUnit d.nanos 6 "ms"
  else if 1000 ≤ d.nanos then inUnit d.nanos 3 "µs"
  else inUnit d.nanos 0 "ns"

end Duration
end Tagram
