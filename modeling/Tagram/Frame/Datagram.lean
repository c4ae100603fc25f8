/-
# Datagrams

A datagram holds frames back to back. Decoding reads them in order and stops
at the first one that cannot be read: because the bytes end before it does,
because it is at fault, or because its decoder aborts. The report keeps the
frames read so far, each with its place, and why decoding stopped.

Key definitions: `Datagram.Placed`, `Datagram.Stop`, `Datagram.Report`,
`Datagram.decode`.
-/
import Tagram.Frame.Parse

namespace Tagram
namespace Datagram

variable {μ : Type}

/-- A frame and where it lies in its datagram. -/
structure Placed (μ : Type) where
  tag : String
  message : μ
  start : Nat
  stop : Nat

/-- What is said of a frame that was read. -/
def Placed.trace (p : Placed μ) : String := s!"decoded '{p.tag}' frame at {p.start}..{p.stop}"

/-- Why decoding stopped. -/
inductive Stop where
  /-- The bytes that are left do not hold a whole frame. -/
  | incomplete
  /-- The frame at this place is at fault. -/
  | fault (cause : CodecError)
  /-- The decoder of the frame at this place aborted. -/
  | aborted (reason : Option String)
  deriving DecidableEq

/-- What decoding a datagram found. -/
structure Report (μ : Type) where
  frames : List (Placed μ)
  /-- Where decoding stopped. -/
  consumed : Nat
  /-- The length of the datagram. -/
  length : Nat
  stop : Stop

/-- Decodes the bytes `s`, which start at `offset` in their datagram. -/
def decodeFrom (registry : Registry μ) (offset : Nat) (s : Bytes) :
    List (Placed μ) × Nat × Stop :=
  match Frame.head registry s with
  | .ok none => ([], offset, .incomplete)
  | .error cause => ([], offset, .fault cause)
  | .abort reason => ([], offset, .aborted reason)
  | .ok (some h) =>
    if _ : 0 < h.length ∧ s.isEmpty = false then
      let (frames, stop) := decodeFrom registry (offset + h.length) (s.drop h.length)
      (⟨h.tag, h.message, offset, offset + h.length⟩ :: frames, stop)
    else ([], offset, .incomplete)
termination_by s.length
decreasing_by
  have : s ≠ [] := by rintro rfl; simp_all
  have := List.length_pos_iff.2 this
  simp only [List.length_drop]
  omega

/-- Decodes a datagram. -/
def decode (registry : Registry μ) (datagram : Bytes) : Report μ :=
  let (frames, consumed, stop) := decodeFrom registry 0 datagram
  ⟨frames, consumed, datagram.length, stop⟩

namespace Report

/-- The messages in the order of their frames. -/
def messages (r : Report μ) : List μ := r.frames.map (·.message)

/-- The bytes after the last frame read. -/
def trailing (r : Report μ) : Nat := r.length - r.consumed

/-- The fault at which decoding stopped, if it was one. -/
def fault? (r : Report μ) : Option CodecError :=
  match r.stop with
  | .fault cause => some cause
  | _ => none

/-- Whether frames fill the datagram to its last byte. -/
def isComplete (r : Report μ) : Bool :=
  r.fault?.isNone && r.trailing = 0

end Report
end Datagram
end Tagram
