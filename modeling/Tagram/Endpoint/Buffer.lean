/-
# The receive buffer

A session receives every datagram into the same buffer. It starts as zeros and
is not cleared, so behind a short datagram the bytes of an earlier longer one
are still there. A socket says how many bytes it received; they are the front
of the buffer.

Key definitions: `Endpoint.Buffer`, `Endpoint.Buffer.fill`,
`Endpoint.Buffer.front?`.
Key theorems: `Endpoint.Buffer.front?_fill`.
-/
import Tagram.Bytes

namespace Tagram
namespace Endpoint

/-- A buffer of `size` bytes: those written so far, and zeros behind them. -/
structure Buffer where
  size : Nat
  written : Bytes
  deriving DecidableEq

namespace Buffer

/-- A buffer of zeros. -/
def zeroed (size : Nat) : Buffer := ⟨size, []⟩

/-- Writes data to the start of a buffer, cut to its size. -/
def fill (b : Buffer) (data : Bytes) : Buffer :=
  let data := data.take b.size
  ⟨b.size, data ++ b.written.drop data.length⟩

/-- The first `n` bytes, if the buffer has that many. -/
def front? (b : Buffer) (n : Nat) : Option Bytes :=
  if n ≤ b.size then
    some ((b.written ++ List.replicate (n - b.written.length) 0).take n)
  else none

/-- **What was received is what is read**, however much an earlier datagram left
behind it. -/
theorem front?_fill (b : Buffer) (data : Bytes) :
    (b.fill data).front? (min data.length b.size) = some (data.take b.size) := by
  have h : min data.length b.size = (data.take b.size).length := by
    rw [List.length_take, Nat.min_comm]
  have hs : min data.length b.size ≤ b.size := Nat.min_le_right ..
  simp only [fill, front?, hs, if_true, List.append_assoc, Option.some.injEq]
  rw [h]
  exact List.take_left' rfl

end Buffer
end Endpoint
end Tagram
