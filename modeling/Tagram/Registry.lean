/-
# The tag table

A registry maps the tag of a frame to the decoder of its payload. A decoder
gets the payload's bytes and returns a message with the number of bytes it
used, fails, or aborts. Registering a tag again replaces its decoder.

Key definitions: `Decoder`, `Registry`, `Registry.find?`, `Registry.register`,
`Registry.tags`, `Registry.decode`.
Key theorems: `Registry.find?_register`.
-/
import Tagram.Bytes
import Tagram.Outcome
import Tagram.Text.Record

namespace Tagram

/-- Reads a message off the front of some bytes, with the number of bytes used. -/
abbrev Decoder (μ : Type) := Bytes → Outcome (μ × Nat)

/-- A table of decoders by tag. -/
structure Registry (μ : Type) where
  entries : List (String × Decoder μ)

namespace Registry

variable {μ : Type}

/-- The registry without tags. -/
def empty : Registry μ := ⟨[]⟩

/-- The decoder of a tag. -/
def find? (r : Registry μ) (tag : String) : Option (Decoder μ) := r.entries.lookup tag

/-- Whether a tag has a decoder. -/
def contains (r : Registry μ) (tag : String) : Bool := (r.find? tag).isSome

/-- Gives a tag its decoder, in place of an earlier one. -/
def register (r : Registry μ) (tag : String) (d : Decoder μ) : Registry μ :=
  ⟨(tag, d) :: r.entries.filter fun e => e.1 != tag⟩

/-- The number of tags. -/
def size (r : Registry μ) : Nat := r.entries.length

/-- The tags in ascending order. -/
def tags (r : Registry μ) : List String :=
  (r.entries.map (·.1)).mergeSort fun a b => compare a b != .gt

/-- The registry by its tags, on one line. -/
def describe (r : Registry μ) : String :=
  Text.record "Registry" [("tags", "[" ++ ", ".intercalate (r.tags.map Text.quote) ++ "]")]

/-- Runs the decoder of a tag on the bytes from `offset` on. -/
def decode (r : Registry μ) (tag : String) (buffer : Bytes) (offset : Nat) : Outcome (μ × Nat) :=
  match r.find? tag with
  | none => .error (.unknownTag tag)
  | some d =>
    if buffer.length < offset then .error (.truncated (offset - buffer.length) 0)
    else d (buffer.drop offset)

/-- Registering changes the decoder of its own tag and no other. -/
theorem find?_register (r : Registry μ) (tag other : String) (d : Decoder μ) :
    (r.register tag d).find? other = if other = tag then some d else r.find? other := by
  rcases r with ⟨es⟩
  by_cases h : other = tag
  · subst h
    simp [register, find?]
  · have hb : (other == tag) = false := by simpa using h
    simp only [register, find?, List.lookup_cons, hb, h, if_false]
    induction es with
    | nil => rfl
    | cons e es ih =>
      rcases e with ⟨t, f⟩
      by_cases he : t = tag
      · have hne : (other == t) = false := by simpa [he] using h
        simp [he, List.lookup_cons, hb, ih]
      · simp [he, List.lookup_cons, ih]

end Registry
end Tagram
