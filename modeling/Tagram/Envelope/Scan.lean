/-
# Where an object ends

An envelope stands at the front of a buffer, and a body may follow it. Two
scans find where it ends without reading it as JSON. Both require the buffer
to start with an opening brace and look for the place where as many braces
have closed as have opened. `Scan.braces` counts every brace. `Scan.strings`
skips those inside quotes, where a backslash takes the next byte with it.

Key definitions: `Envelope.Scan`, `Envelope.Mode`, `Envelope.Scan.find`.
-/
import Tagram.Bytes

namespace Tagram
namespace Envelope

/-- A way to find the end of an object. -/
inductive Scan where
  /-- Count every brace. -/
  | braces
  /-- Count the braces outside of quotes. -/
  | strings
  deriving DecidableEq

/-- The scan that is used when none is asked for. -/
def Scan.default : Scan := .braces

/-- Where a byte stands: outside of quotes, inside, or just after a backslash inside. -/
inductive Mode where
  | outside
  | quoted
  | escaped
  deriving DecidableEq

/-- How a byte changes the mode. -/
def Scan.after : Scan → Mode → UInt8 → Mode
  | .braces, _, _ => .outside
  | .strings, .outside, b => if b = 0x22 then .quoted else .outside
  | .strings, .quoted, b =>
    if b = 0x22 then .outside else if b = 0x5C then .escaped else .quoted
  | .strings, .escaped, _ => .quoted

/-- How a byte changes the number of open braces. -/
def depthAfter (mode : Mode) (depth : Nat) (b : UInt8) : Nat :=
  match mode with
  | .outside => if b = 0x7B then depth + 1 else if b = 0x7D then depth - 1 else depth
  | _ => depth

/-- The length up to the byte at which no brace is open, where `count` bytes
come before `s` and `depth` braces are open. -/
def Scan.close (scan : Scan) (mode : Mode) (depth count : Nat) : Bytes → Option Nat
  | [] => none
  | b :: s =>
    let open_ := depthAfter mode depth b
    if open_ = 0 then some (count + 1)
    else close scan (scan.after mode b) open_ (count + 1) s

/-- The length of the object at the front of a buffer. -/
def Scan.find (scan : Scan) (buffer : Bytes) : Option Nat :=
  match buffer with
  | 0x7B :: rest => scan.close .outside 1 1 rest
  | _ => none

end Envelope
end Tagram
