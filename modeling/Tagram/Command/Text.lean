/-
# The text of a command

A command on one line, by name and fields. A position is written with the
fewest digits that read back, in full from 0.0001 up to below ten quadrillion
and with an exponent elsewhere.

Key definitions: `Single.text`, `Command.describe`.
-/
import Tagram.Command.Basic
import Tagram.Decimal.Layout
import Tagram.Text.Record

namespace Tagram

/-- Positions are written in full from order -4 to order 15, a positive
exponent has no sign, and of two equally near decimals the larger is taken. -/
def Command.positionLayout : Decimal.Layout := ⟨-4, 15, "", .up⟩

/-- The text of a position. What is not a number has no sign. -/
def Single.text (x : Single) : String :=
  let sign := if x.negative then "-" else ""
  match x.magnitude with
  | .notANumber => "NaN"
  | .infinite => sign ++ "inf"
  | .zero => sign ++ Decimal.zeroText
  | .finite m q narrow => sign ++ Command.positionLayout.shortest m q narrow

/-- A command on one line. -/
def Command.describe : Command → String
  | .move uid x y =>
    "Move(" ++ Text.record "Move"
      [("uid", toString uid.toNat), ("pos_x", x.text), ("pos_y", y.text)] ++ ")"
  | .spawn uid kind x y =>
    "Spawn(" ++ Text.record "Spawn"
      [("uid", toString uid.toNat), ("kind", toString kind.toInt), ("pos_x", x.text),
        ("pos_y", y.text)] ++ ")"
  | .input keyCode => "Input(" ++ Text.record "Input" [("key_code", toString keyCode.toNat)] ++ ")"

end Tagram
