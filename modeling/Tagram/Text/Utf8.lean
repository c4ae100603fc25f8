/-
# How far a byte string is UTF-8

A byte string that is not UTF-8 still has a longest prefix that is a row of
whole characters. `validPrefix` measures it in bytes. A character is one
byte below 0x80, or a leading byte followed by one to three bytes of
0x80-0xBF, where the first of them is narrowed so that no character has a
longer form than it needs, none is a surrogate and none exceeds U+10FFFF.

Key definitions: `Text.charLength?`, `Text.validPrefix`.
-/
import Tagram.Bytes

namespace Tagram
namespace Text

/-- A byte that continues a character. -/
def isContinuation (b : UInt8) : Bool := 0x80 ≤ b && b ≤ 0xBF

/-- The least and greatest second byte that a leading byte admits. -/
def secondBounds (lead : UInt8) : UInt8 × UInt8 :=
  if lead = 0xE0 then (0xA0, 0xBF)
  else if lead = 0xED then (0x80, 0x9F)
  else if lead = 0xF0 then (0x90, 0xBF)
  else if lead = 0xF4 then (0x80, 0x8F)
  else (0x80, 0xBF)

/-- Whether a byte may follow the leading byte. -/
def isSecond (lead b : UInt8) : Bool :=
  (secondBounds lead).1 ≤ b && b ≤ (secondBounds lead).2

/-- The length of the character at the front, if the front is a whole character. -/
def charLength? : Bytes → Option Nat
  | [] => none
  | a :: rest =>
    if a < 0x80 then some 1
    else if 0xC2 ≤ a && a ≤ 0xDF then
      match rest with
      | b :: _ => if isContinuation b then some 2 else none
      | [] => none
    else if 0xE0 ≤ a && a ≤ 0xEF then
      match rest with
      | b :: c :: _ => if isSecond a b && isContinuation c then some 3 else none
      | _ => none
    else if 0xF0 ≤ a && a ≤ 0xF4 then
      match rest with
      | b :: c :: d :: _ =>
        if isSecond a b && isContinuation c && isContinuation d then some 4 else none
      | _ => none
    else none

/-- The number of bytes that stand before the first byte which is part of no
character, counted from `n`. At most `fuel` characters are read. -/
def validPrefixFrom : (fuel : Nat) → (n : Nat) → Bytes → Nat
  | 0, n, _ => n
  | fuel + 1, n, s =>
    match charLength? s with
    | some k => validPrefixFrom fuel (n + k) (s.drop k)
    | none => n

/-- The length in bytes of the longest prefix made of whole characters. -/
def validPrefix (s : Bytes) : Nat := validPrefixFrom s.length 0 s

end Text
end Tagram
