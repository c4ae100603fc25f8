/-
# Text without terminal escapes

A terminal acts on escape sequences and control characters and shows the rest.
`plain` is the rest: what a text looks like where there is no terminal.

A sequence starts with an escape character. Up to its last byte it is a
control sequence, a title, a device string or a message, each of which ends in
its own way; cancel, substitute and another escape character end all of them.
Blank control characters (tab, line feed, form feed, return) are shown, also
inside a control sequence: there they let the text after them through, up to
the next byte that is not shown, and only then is the sequence taken up again.

Bytes are looked at one by one. Outside of sequences a character of several
bytes is shown as a whole; inside of one it has no meaning, except that one of
its bytes may end a string.

Key definitions: `Text.Terminal.Mode`, `Text.Terminal.State.step`, `Text.plain`,
`Text.firstLine`.
-/
import Tagram.Bytes

namespace Tagram
namespace Text
namespace Terminal

/-- Where a byte stands. -/
inductive Mode where
  /-- Outside of sequences. -/
  | ground
  /-- After an escape character. -/
  | escape
  /-- After a byte that lengthens an escape. -/
  | intermediate
  /-- In a control sequence. -/
  | control
  /-- At the start of a device string. -/
  | device
  /-- In the parameters of a device string. -/
  | deviceParameter
  /-- After the parameters of a device string. -/
  | deviceIntermediate
  /-- In a device string or a message. -/
  | string
  /-- In a title. -/
  | title
  deriving DecidableEq

/-- Whether a byte is from `lo` to `hi`. -/
def within (lo hi b : UInt8) : Bool := lo ≤ b && b ≤ hi

/-- The mode after a byte. -/
def Mode.after (m : Mode) (b : UInt8) : Mode :=
  if b = 0x18 || b = 0x1A then .ground
  else if b = 0x1B then .escape
  else
    match m with
    | .ground => .ground
    | .escape =>
      if within 0x20 0x2F b then .intermediate
      else if b = 0x5B then .control
      else if b = 0x5D then .title
      else if b = 0x50 then .device
      else if b = 0x58 || b = 0x5E || b = 0x5F then .string
      else if within 0x30 0x7E b then .ground
      else .escape
    | .intermediate => if within 0x30 0x7E b then .ground else .intermediate
    | .control => if within 0x40 0x7E b then .ground else .control
    | .device =>
      if within 0x20 0x2F b then .deviceIntermediate
      else if within 0x30 0x3F b then .deviceParameter
      else if within 0x40 0x7E b then .string
      else .device
    | .deviceParameter =>
      if within 0x20 0x2F b then .deviceIntermediate
      else if within 0x3C 0x7E b then .string
      else .deviceParameter
    | .deviceIntermediate => if within 0x30 0x7E b then .string else .deviceIntermediate
    | .string => if b = 0x9C then .ground else .string
    | .title => if b = 0x07 then .ground else .title

/-- Tab, line feed, form feed and return. -/
def isBlankControl (b : UInt8) : Bool := b = 0x09 || b = 0x0A || b = 0x0C || b = 0x0D

/-- Whether a byte is shown. -/
def Mode.shows (m : Mode) (b : UInt8) : Bool :=
  match m with
  | .ground => within 0x20 0x7E b || within 0xC2 0xF4 b || isBlankControl b
  | .escape | .intermediate | .control => isBlankControl b
  | _ => false

/-- The bytes that follow the first byte of a character. -/
def continuation (b : UInt8) : Nat :=
  if within 0xC2 0xDF b then 1
  else if within 0xE0 0xEF b then 2
  else if within 0xF0 0xF4 b then 3
  else 0

/-- How far a text is read. -/
structure State where
  mode : Mode
  /-- Whether the last byte was shown. -/
  showing : Bool
  /-- The bytes that are missing of a character. -/
  missing : Nat

/-- Before the first byte. -/
def State.start : State := ⟨.ground, false, 0⟩

/-- The state after a byte, and whether the byte is shown. -/
def State.step (s : State) (b : UInt8) : State × Bool :=
  match s.missing with
  | missing + 1 => (⟨if missing = 0 then .ground else s.mode, true, missing⟩, true)
  | 0 =>
    if (if s.showing then Mode.ground else s.mode).shows b then
      (⟨s.mode, true, continuation b⟩, true)
    else (⟨s.mode.after b, false, 0⟩, false)

/-- The bytes that are shown. -/
def State.shown (s : State) : Bytes → Bytes
  | [] => []
  | b :: rest =>
    let (s, shown) := s.step b
    if shown then b :: s.shown rest else s.shown rest

end Terminal

/-- A text without the escape sequences and control characters in it. -/
def plain (t : String) : String :=
  (Bytes.toText? (Terminal.State.start.shown (Bytes.ofText t))).getD ""

/-- The first line of a text, without its end. -/
def firstLine (t : String) : String :=
  let line := t.toList.takeWhile (· ≠ '\n')
  let ended := line.length < t.toList.length
  String.ofList (if ended && line.getLast? = some '\r' then line.dropLast else line)

end Text
end Tagram
