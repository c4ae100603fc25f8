/-
# How a read ends

A read, and a decoder that a caller registers, ends in one of three ways: with
a value, with an error that its caller handles, or by aborting the thread it
runs on. An abort carries a reason when the code that raised it gave one.

Key definitions: `Outcome`, `Outcome.map`, `Outcome.bind`.
-/
import Tagram.CodecError

namespace Tagram

/-- The three ways in which a read ends. -/
inductive Outcome (α : Type) where
  | ok (value : α)
  | error (cause : CodecError)
  | abort (reason : Option String)
  deriving DecidableEq

namespace Outcome

variable {α β : Type}

/-- Changes the value and keeps errors and aborts. -/
def map (f : α → β) : Outcome α → Outcome β
  | .ok a => .ok (f a)
  | .error e => .error e
  | .abort r => .abort r

/-- Goes on from a value, and stops at an error or an abort. -/
def bind (x : Outcome α) (f : α → Outcome β) : Outcome β :=
  match x with
  | .ok a => f a
  | .error e => .error e
  | .abort r => .abort r

/-- Whether the read aborted. -/
def aborted : Outcome α → Bool
  | .abort _ => true
  | _ => false

@[simp] theorem map_ok (f : α → β) (a : α) : (Outcome.ok a).map f = .ok (f a) := rfl

@[simp] theorem map_error (f : α → β) (e : CodecError) : (Outcome.error e).map f = .error e := rfl

@[simp] theorem map_abort (f : α → β) (r : Option String) : (Outcome.abort r).map f = .abort r := rfl

end Outcome
end Tagram
