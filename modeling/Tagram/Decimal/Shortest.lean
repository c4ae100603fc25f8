/-
# The fewest decimal digits that read back

A finite binary number stands for every real that rounds to it: an interval
around the value, whose ends belong to it exactly when the significand is
even. The shortest decimal is the one with the fewest digits inside that
interval, and of those the one nearest to the value. Two of them can be
equally near; a format decides which one it takes.

`shortest` finds it grid by grid. With `n` digits the candidates are the two
neighbours of the value on the grid of `n` digit decimals: if any point of
that grid lies in the interval, so does one of these two. All comparisons are
exact, on natural numbers over one common denominator.

Key definitions: `Decimal`, `Decimal.Tie`, `Decimal.Interval`,
`Decimal.shortest`.
-/

namespace Tagram

/-- The number `digits * 10 ^ exponent`. -/
structure Decimal where
  digits : Nat
  exponent : Int
  deriving DecidableEq

namespace Decimal

/-- Which of two decimals is taken when they are equally near. -/
inductive Tie where
  /-- The one whose last digit is even. -/
  | even
  /-- The larger one. -/
  | up
  deriving DecidableEq

/-- Whether a tie goes to the smaller of two neighbours. -/
def Tie.takesBelow (tie : Tie) (below : Nat) : Bool :=
  match tie with
  | .even => below % 2 = 0
  | .up => false

/-- A value and the interval around it, as numerators over one denominator. -/
structure Interval where
  low : Nat
  value : Nat
  high : Nat
  denominator : Nat
  /-- Whether the two ends belong to the interval. -/
  closed : Bool

/-- The reals that round to `m * 2 ^ q`. The gap below is a quarter of a unit
instead of half a one when the number below is nearer. -/
def Interval.around (m : Nat) (q : Int) (narrow : Bool) : Interval :=
  let scale := Nat.pow 2 (q - 2).toNat
  { low := (4 * m - (if narrow then 1 else 2)) * scale
    value := 4 * m * scale
    high := (4 * m + 2) * scale
    denominator := Nat.pow 2 (2 - q).toNat
    closed := m % 2 = 0 }

/-- Whether `n / d` lies in the interval. -/
def Interval.contains (i : Interval) (n d : Nat) : Bool :=
  if i.closed then
    i.low * d ≤ n * i.denominator && n * i.denominator ≤ i.high * d
  else
    i.low * d < n * i.denominator && n * i.denominator < i.high * d

/-- The number of decimal digits before the point of `n / d`, by counting up
from an estimate: the least `k ≥ start` with `n < d * 10 ^ k`. -/
def ceilLog (n d : Nat) : (fuel : Nat) → (start : Int) → Int
  | 0, k => k
  | fuel + 1, k =>
    if n * Nat.pow 10 (-k).toNat < d * Nat.pow 10 k.toNat then k else ceilLog n d fuel (k + 1)

/-- The decimal on the grid of spacing `10 ^ e` that lies in the interval and
nearest to its value, if one does. -/
def Interval.onGrid? (tie : Tie) (i : Interval) (e : Int) : Option Nat :=
  let up := Nat.pow 10 e.toNat
  let down := Nat.pow 10 (-e).toNat
  let below := i.value * down / (i.denominator * up)
  let above := below + 1
  match i.contains (below * up) down, i.contains (above * up) down with
  | true, false => some below
  | false, true => some above
  | false, false => none
  | true, true =>
    let twice := 2 * (i.value * down)
    let middle := (below + above) * (i.denominator * up)
    if twice < middle || (twice = middle && tie.takesBelow below) then some below
    else some above

/-- The first grid, from spacing `10 ^ e` down, that has a point in the interval. -/
def Interval.coarsest (tie : Tie) (i : Interval) : (fuel : Nat) → (e : Int) → Decimal
  | 0, e => ⟨i.value, e⟩
  | fuel + 1, e =>
    match i.onGrid? tie e with
    | some digits => ⟨digits, e⟩
    | none => coarsest tie i fuel (e - 1)

/-- The same number without trailing zeros. At most `fuel` are removed. -/
def trim : (fuel : Nat) → Decimal → Decimal
  | 0, d => d
  | fuel + 1, d =>
    if d.digits ≠ 0 && d.digits % 10 = 0 then trim fuel ⟨d.digits / 10, d.exponent + 1⟩ else d

/-- The decimal with the fewest digits that rounds to `m * 2 ^ q`. -/
def shortest (tie : Tie) (m : Nat) (q : Int) (narrow : Bool) : Decimal :=
  let i := Interval.around m q narrow
  let estimate : Int := ((m.log2 : Int) + q) * 30103 / 100000 - 1
  let k := ceilLog i.value i.denominator 4 estimate
  trim 20 (i.coarsest tie 20 (k - 1))

end Decimal
end Tagram
