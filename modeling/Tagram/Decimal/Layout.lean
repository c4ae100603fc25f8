/-
# The text of a decimal

A number in scientific form is `d.ddd` times ten to its order. A layout says
for which orders a decimal is written out in full, and how the exponent looks
otherwise. Written out in full it always has a digit after the point.

Key definitions: `Decimal.Layout`, `Decimal.order`, `Decimal.Layout.render`,
`Decimal.Layout.shortest`.
-/
import Tagram.Decimal.Shortest

namespace Tagram
namespace Decimal

/-- The decisions of a number format. -/
structure Layout where
  /-- The least order that is written out in full. -/
  leastOrder : Int
  /-- The greatest order that is written out in full. -/
  greatestOrder : Int
  /-- What stands before a positive exponent. -/
  plus : String
  /-- Which of two equally near decimals is written. -/
  tie : Tie

/-- The digits, most significant first. -/
def digitChars (d : Decimal) : List Char := Nat.toDigits 10 d.digits

/-- The power of ten of the first digit. -/
def order (d : Decimal) : Int := d.exponent + d.digitChars.length - 1

/-- Zeros. -/
def zeros (n : Nat) : List Char := List.replicate n '0'

/-- A decimal written out in full, with at least one digit after the point. -/
def positional (d : Decimal) : List Char :=
  let ds := d.digitChars
  let point := d.order + 1
  if d.exponent ≥ 0 then ds ++ zeros d.exponent.toNat ++ ['.', '0']
  else if point > 0 then ds.take point.toNat ++ '.' :: ds.drop point.toNat
  else '0' :: '.' :: zeros (-point).toNat ++ ds

/-- A decimal with its order as an exponent. -/
def scientific (plus : String) (d : Decimal) : List Char :=
  let mantissa :=
    match d.digitChars with
    | c :: c' :: rest => c :: '.' :: c' :: rest
    | ds => ds
  let exponent :=
    if d.order < 0 then '-' :: Nat.toDigits 10 (-d.order).toNat
    else plus.toList ++ Nat.toDigits 10 d.order.toNat
  mantissa ++ 'e' :: exponent

/-- The text of a decimal. -/
def Layout.render (l : Layout) (d : Decimal) : String :=
  String.ofList <|
    if l.leastOrder ≤ d.order && d.order ≤ l.greatestOrder then d.positional
    else d.scientific l.plus

/-- The text of the binary number `m * 2 ^ q`, with the fewest digits that read back. -/
def Layout.shortest (l : Layout) (m : Nat) (q : Int) (narrow : Bool) : String :=
  l.render (Decimal.shortest l.tie m q narrow)

/-- The text of zero. -/
def zeroText : String := "0.0"

end Decimal
end Tagram
