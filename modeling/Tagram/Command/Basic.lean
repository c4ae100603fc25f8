/-
# Commands

The messages that this library comes with: move a unit, spawn a unit, press a
key. Each has a tag and a payload of fields in a fixed order, all big-endian.
Positions are single precision numbers kept as bit patterns, so a payload is
read and written without a change in any bit.

Key definitions: `Command`, `Key`, `Command.tag`, `Command.payload`,
`Command.registry`, `Command.equal`.
-/
import Tagram.Cursor
import Tagram.Registry

namespace Tagram

/-- A command. -/
inductive Command where
  /-- Move unit `uid` to a position. -/
  | move (uid : UInt64) (x y : Single)
  /-- Create unit `uid` of a kind at a position. -/
  | spawn (uid : UInt64) (kind : Int32) (x y : Single)
  /-- A key was pressed. -/
  | input (keyCode : UInt16)
  deriving DecidableEq, Inhabited

/-- The keys that have a code. -/
inductive Key where
  | spacebar
  | w
  deriving DecidableEq

namespace Key

/-- The code of a key. -/
def code : Key → UInt16
  | .spacebar => 0
  | .w => 1

/-- The key of a code. -/
def ofCode? (c : UInt16) : Option Key :=
  if c = Key.spacebar.code then some .spacebar
  else if c = Key.w.code then some .w
  else none

/-- The name of a key. -/
def name : Key → String
  | .spacebar => "Spacebar"
  | .w => "W"

/-- The command that the key was pressed. -/
def command (k : Key) : Command := .input k.code

end Key

/-- The decoder that a fallible function is. -/
def Decoder.ofExcept {μ : Type} (f : Bytes → Except CodecError (μ × Nat)) : Decoder μ := fun s =>
  match f s with
  | .ok a => .ok a
  | .error e => .error e

namespace Payload

/-- Reads a big-endian number of `w` bytes off the front of a payload. A payload
that ends inside the field is short by the bytes that are not there. -/
def number (w : Nat) (s : Bytes) : Except CodecError (Nat × Bytes) :=
  match Bytes.split? w s with
  | some (front, rest) => .ok (Bytes.ofBigEndian front, rest)
  | none => .error (.shortPayload (w - s.length))

/-- Reads an unsigned number of 64 bits. -/
def u64 (s : Bytes) : Except CodecError (UInt64 × Bytes) :=
  (number 8 s).map fun (n, rest) => (UInt64.ofNat n, rest)

/-- Reads an unsigned number of 32 bits. -/
def u32 (s : Bytes) : Except CodecError (UInt32 × Bytes) :=
  (number 4 s).map fun (n, rest) => (UInt32.ofNat n, rest)

/-- Reads an unsigned number of 16 bits. -/
def u16 (s : Bytes) : Except CodecError (UInt16 × Bytes) :=
  (number 2 s).map fun (n, rest) => (UInt16.ofNat n, rest)

/-- Reads a signed number of 32 bits. -/
def i32 (s : Bytes) : Except CodecError (Int32 × Bytes) :=
  (number 4 s).map fun (n, rest) => ((UInt32.ofNat n).toInt32, rest)

/-- Reads a single precision number. -/
def single (s : Bytes) : Except CodecError (Single × Bytes) :=
  (number 4 s).map fun (n, rest) => (⟨UInt32.ofNat n⟩, rest)

end Payload

namespace Command

/-- The tag of a command. -/
def tag : Command → String
  | .move .. => "Move"
  | .spawn .. => "Spawn"
  | .input .. => "Input"

/-- The fields of a command in the order of its payload. -/
def fields : Command → List Value
  | .move uid x y => [.u64 uid, .single x, .single y]
  | .spawn uid kind x y => [.u64 uid, .i32 kind, .single x, .single y]
  | .input keyCode => [.u16 keyCode]

/-- The payload of a command. -/
def payload (c : Command) : Bytes := c.fields.flatMap Value.toBytes

/-- Reads a move. -/
def decodeMove : Decoder Command := .ofExcept fun s => do
  let (uid, s) ← Payload.u64 s
  let (x, s) ← Payload.single s
  let (y, _) ← Payload.single s
  return (.move uid x y, 16)

/-- Reads a spawn. -/
def decodeSpawn : Decoder Command := .ofExcept fun s => do
  let (uid, s) ← Payload.u64 s
  let (kind, s) ← Payload.i32 s
  let (x, s) ← Payload.single s
  let (y, _) ← Payload.single s
  return (.spawn uid kind x y, 20)

/-- Reads a key press. -/
def decodeInput : Decoder Command := .ofExcept fun s => do
  let (keyCode, _) ← Payload.u16 s
  return (.input keyCode, 2)

/-- The registry of the three commands. -/
def registry : Registry Command :=
  ((Registry.empty.register "Move" decodeMove).register "Spawn" decodeSpawn).register
    "Input" decodeInput

/-- The key that a command reports, if it reports one that has a code. -/
def key? : Command → Option Key
  | .input keyCode => Key.ofCode? keyCode
  | _ => none

/-- Equality by value: positions compare as numbers, so a command with a
position that is not a number differs from itself. -/
def equal : Command → Command → Bool
  | .move u x y, .move u' x' y' => u == u' && x.equal x' && y.equal y'
  | .spawn u k x y, .spawn u' k' x' y' => u == u' && k == k' && x.equal x' && y.equal y'
  | .input k, .input k' => k == k'
  | _, _ => false

end Command
end Tagram
