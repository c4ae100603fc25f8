/-
# Frames

A frame is a size, and then that many bytes: the length of a tag, the tag, and
a payload that the tag's decoder reads to its last byte. Both lengths take
eight bytes.

`Frame.head` reads the frame at the front of some bytes. It finds no frame
when the bytes end before the frame does, and reports a fault only for a frame
that is all there. What follows the frame has no influence. `Frame.parse` does
the same from an offset into a datagram.

Key definitions: `Frame.bytes`, `Frame.Head`, `Frame.head`, `Frame.parse`,
`Frame.parseOrStay`.
-/
import Tagram.Registry

namespace Tagram
namespace Frame

variable {μ : Type}

/-- The bytes of a frame. -/
def bytes (tag payload : Bytes) : Bytes :=
  Bytes.toBigEndian lengthField (lengthField + tag.length + payload.length)
    ++ Bytes.toBigEndian lengthField tag.length ++ tag ++ payload

/-- A frame that was read: its tag, its message and the bytes it takes. -/
structure Head (μ : Type) where
  tag : String
  message : μ
  length : Nat

/-- Reads a big-endian length off the front. -/
def length? (s : Bytes) : Option (Nat × Bytes) :=
  (Bytes.split? lengthField s).map fun (front, rest) => (Bytes.ofBigEndian front, rest)

/-- The tag and the payload inside a frame of `size` bytes. -/
def parts (size : Nat) (region : Bytes) : Except FrameFault (String × Bytes) :=
  match length? region with
  | none => .error (.noTag size)
  | some (tagLength, rest) =>
    match Bytes.split? tagLength rest with
    | none => .error (.tagOverrun tagLength size)
    | some (tag, payload) =>
      if Bytes.isAscii tag then .ok (Bytes.toLatin tag, payload) else .error .tagNotAscii

/-- The message inside a frame, once its bytes are all there. -/
def decode (registry : Registry μ) (size : Nat) (region : Bytes) : Outcome (Head μ) :=
  match parts size region with
  | .error fault => .error (.malformedFrame fault)
  | .ok (tag, payload) =>
    (registry.decode tag payload 0).bind fun (message, used) =>
      if used = payload.length then .ok ⟨tag, message, lengthField + size⟩
      else .error (.malformedFrame (.payloadMismatch tag used payload.length))

/-- The frame at the front, or nothing when the bytes end before it does. -/
def head (registry : Registry μ) (s : Bytes) : Outcome (Option (Head μ)) :=
  match length? s with
  | none => .ok none
  | some (size, rest) =>
    match Bytes.split? size rest with
    | none => .ok none
    | some (region, _) => (decode registry size region).map some

/-- The frame at an offset into a datagram, with the offset just after it. -/
def parse (registry : Registry μ) (datagram : Bytes) (offset : Nat) : Outcome (Option (μ × Nat)) :=
  (head registry (datagram.drop offset)).map fun h => h.map fun h => (h.message, offset + h.length)

/-- The frame at an offset with the offset after it. Without one, for whatever
reason, the offset stays. -/
def parseOrStay (registry : Registry μ) (datagram : Bytes) (offset : Nat) :
    Outcome (Option μ × Nat) :=
  match parse registry datagram offset with
  | .ok (some (message, next)) => .ok (some message, next)
  | .ok none => .ok (none, offset)
  | .error _ => .ok (none, offset)
  | .abort reason => .abort reason

end Frame
end Tagram
