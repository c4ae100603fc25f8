/-
# Writing frames

A message type says what its tag is and how its payload is written. A payload
writer appends bytes and may fail after having appended some. Writing a frame
either appends the whole frame to the buffer or leaves the buffer alone: a tag
outside ASCII, a payload writer that fails, and a buffer that would outgrow
one datagram are refused, in this order.

A message type also says on which of its messages writing aborts. Nothing is
written then and nothing comes back, so the functions here are about the
others.

Key definitions: `WireMessage`, `Frame.appendTo`, `Frame.encode`,
`Frame.pack`.
-/
import Tagram.Command.Basic
import Tagram.Frame.Parse

namespace Tagram

/-- What a payload writer appended, and whether it failed after that. -/
structure Written where
  bytes : Bytes
  failure : Option CodecError := none

/-- A type of messages that can be written as frames. -/
class WireMessage (μ : Type) where
  tag : μ → String
  payload : μ → Written
  /-- Whether writing the message aborts. -/
  aborts : μ → Bool := fun _ => false

instance : WireMessage Command where
  tag := Command.tag
  payload c := ⟨c.payload, none⟩

namespace Frame

variable {μ : Type} [WireMessage μ]

/-- The frame of a message that is to follow `used` bytes in a buffer. -/
def encodeAfter (used : Nat) (m : μ) : Except CodecError Bytes :=
  let tag := Bytes.ofText (WireMessage.tag m)
  if Bytes.isAscii tag then
    let written := WireMessage.payload m
    match written.failure with
    | some cause => .error cause
    | none =>
      let frame := bytes tag written.bytes
      if used + frame.length ≤ maxDatagram then .ok frame
      else .error (.tooLarge (used + frame.length))
  else .error (.malformedFrame (.tagUnwritable (WireMessage.tag m)))

/-- Appends the frame of a message to a buffer. The buffer comes back, longer
by the frame or unchanged, with the length of the frame or the error. -/
def appendTo (buffer : Bytes) (m : μ) : Bytes × Except CodecError Nat :=
  match encodeAfter buffer.length m with
  | .ok frame => (buffer ++ frame, .ok frame.length)
  | .error cause => (buffer, .error cause)

/-- The frame of a message. -/
def encode (m : μ) : Except CodecError Bytes := encodeAfter 0 m

/-- Appends the frames of messages in turn, and reports for each what `appendTo`
reports. -/
def pack (buffer : Bytes) : List μ → Bytes × List (Except CodecError Nat)
  | [] => (buffer, [])
  | m :: ms =>
    let (next, result) := appendTo buffer m
    let (final, results) := pack next ms
    (final, result :: results)

end Frame
end Tagram
