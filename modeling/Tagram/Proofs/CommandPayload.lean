/-
# The payloads of the commands

A payload reader takes exactly the bytes that the writer of its type gives
(`Payload.map_number_eq_ok` says it once for every number type), so each of
the three decoders reads the payload of a command off the front and nothing
else (`Command.decodeMove_eq_ok` and its like). Both directions follow: what
is written is read back, bit for bit, and what is read is what would be
written.

A registry *recovers* a message when it has a decoder for the message's tag
that reads the message's payload as the message. Every registry that extends
the built-in one recovers every command.

Key definitions: `Registry.Extends`, `Registry.Recovers`.
Key theorems: `Payload.map_number_eq_ok`, `Command.builtin_eq_ok`,
`Command.recovers`, `Command.registry_total`.
-/
import Tagram.Frame.Encode
import Tagram.Proofs.FrameGrammar

namespace Tagram

/-! ### One number -/

namespace Payload

theorem number_eq_ok {w n : Nat} {s rest : Bytes} :
    number w s = .ok (n, rest) ↔ n < 256 ^ w ∧ s = Bytes.toBigEndian w n ++ rest := by
  unfold number
  constructor
  · intro h
    split at h
    · rename_i front rest' hs
      obtain ⟨rfl, rfl⟩ := Bytes.split?_eq_some.1 hs
      cases h
      exact ⟨Bytes.ofBigEndian_lt front, by rw [Bytes.toBigEndian_ofBigEndian]⟩
    · cases h
  · rintro ⟨hn, rfl⟩
    rw [Bytes.split?_append rest (Bytes.length_toBigEndian w n)]
    simp only [Bytes.ofBigEndian_toBigEndian_of_lt hn]

/-- **A reader of a type of numbers reads what the type's writer writes.** The
type is known by the number of each value, below `256 ^ w`. -/
theorem map_number_eq_ok {α : Type} {w : Nat} (ofNat : Nat → α) (toNat : α → Nat)
    (hlt : ∀ v, toNat v < 256 ^ w) (hof : ∀ v, ofNat (toNat v) = v)
    (hto : ∀ n, n < 256 ^ w → toNat (ofNat n) = n) {s rest : Bytes} {v : α} :
    ((number w s).map fun p => (ofNat p.1, p.2)) = .ok (v, rest) ↔
      s = Bytes.toBigEndian w (toNat v) ++ rest := by
  constructor
  · intro h
    rcases hn : number w s with e | ⟨n, rest'⟩
    · rw [hn] at h
      cases h
    · rw [hn] at h
      cases h
      obtain ⟨hw, rfl⟩ := number_eq_ok.1 hn
      rw [hto n hw]
  · rintro rfl
    rw [number_eq_ok.2 ⟨hlt v, rfl⟩]
    simp only [Except.map, hof]

theorem u64_eq_ok {s rest : Bytes} {v : UInt64} :
    u64 s = .ok (v, rest) ↔ s = (Value.u64 v).toBytes ++ rest :=
  map_number_eq_ok UInt64.ofNat UInt64.toNat (fun v => v.toNat_lt) (fun _ => UInt64.ofNat_toNat)
    fun _ hn => UInt64.toNat_ofNat_of_lt hn

theorem u16_eq_ok {s rest : Bytes} {v : UInt16} :
    u16 s = .ok (v, rest) ↔ s = (Value.u16 v).toBytes ++ rest :=
  map_number_eq_ok UInt16.ofNat UInt16.toNat (fun v => v.toNat_lt) (fun _ => UInt16.ofNat_toNat)
    fun _ hn => UInt16.toNat_ofNat_of_lt hn

theorem i32_eq_ok {s rest : Bytes} {v : Int32} :
    i32 s = .ok (v, rest) ↔ s = (Value.i32 v).toBytes ++ rest :=
  map_number_eq_ok (fun n => (UInt32.ofNat n).toInt32) (fun v => v.toUInt32.toNat)
    (fun v => v.toUInt32.toNat_lt) (fun v => by rw [UInt32.ofNat_toNat]; rfl)
    fun _ hn => UInt32.toNat_ofNat_of_lt hn

theorem single_eq_ok {s rest : Bytes} {v : Single} :
    single s = .ok (v, rest) ↔ s = (Value.single v).toBytes ++ rest :=
  map_number_eq_ok (fun n => Single.mk (UInt32.ofNat n)) (fun v : Single => v.bits.toNat)
    (fun v => v.bits.toNat_lt) (fun v => by rw [UInt32.ofNat_toNat])
    fun _ hn => UInt32.toNat_ofNat_of_lt hn

end Payload

/-! ### The three decoders -/

theorem Decoder.ofExcept_eq_ok {μ : Type} {f : Bytes → Except CodecError (μ × Nat)} {s : Bytes}
    {a : μ × Nat} : Decoder.ofExcept f s = .ok a ↔ f s = .ok a := by
  unfold Decoder.ofExcept
  cases f s <;> simp

theorem Decoder.ofExcept_ne_abort {μ : Type} (f : Bytes → Except CodecError (μ × Nat)) (s : Bytes)
    (reason : Option String) : Decoder.ofExcept f s ≠ .abort reason := by
  unfold Decoder.ofExcept
  cases f s <;> simp

/-- A reading step of a decoder succeeds when the read does and what follows it does. -/
theorem Payload.bind_eq_ok {ε α β : Type} {x : Except ε α} {f : α → Except ε β} {b : β} :
    (x >>= f) = .ok b ↔ ∃ a, x = .ok a ∧ f a = .ok b := by
  cases x <;> simp [bind, Except.bind]

namespace Command

theorem decodeMove_eq_ok {s : Bytes} {c : Command} {n : Nat} :
    decodeMove s = .ok (c, n) ↔
      ∃ uid x y rest, c = .move uid x y ∧ n = 16 ∧ s = c.payload ++ rest := by
  simp only [decodeMove, Decoder.ofExcept_eq_ok, Payload.bind_eq_ok, Prod.exists, Payload.u64_eq_ok,
    Payload.single_eq_ok]
  constructor
  · rintro ⟨uid, _, rfl, x, _, rfl, y, rest, rfl, h⟩
    cases h
    exact ⟨uid, x, y, rest, rfl, rfl, by simp [payload, fields]⟩
  · rintro ⟨uid, x, y, rest, rfl, rfl, rfl⟩
    exact ⟨uid, _, by simp [payload, fields], x, _, rfl, y, rest, rfl, rfl⟩

theorem decodeSpawn_eq_ok {s : Bytes} {c : Command} {n : Nat} :
    decodeSpawn s = .ok (c, n) ↔
      ∃ uid kind x y rest, c = .spawn uid kind x y ∧ n = 20 ∧ s = c.payload ++ rest := by
  simp only [decodeSpawn, Decoder.ofExcept_eq_ok, Payload.bind_eq_ok, Prod.exists, Payload.u64_eq_ok,
    Payload.i32_eq_ok, Payload.single_eq_ok]
  constructor
  · rintro ⟨uid, _, rfl, kind, _, rfl, x, _, rfl, y, rest, rfl, h⟩
    cases h
    exact ⟨uid, kind, x, y, rest, rfl, rfl, by simp [payload, fields]⟩
  · rintro ⟨uid, kind, x, y, rest, rfl, rfl, rfl⟩
    exact ⟨uid, _, by simp [payload, fields], kind, _, rfl, x, _, rfl, y, rest, rfl, rfl⟩

theorem decodeInput_eq_ok {s : Bytes} {c : Command} {n : Nat} :
    decodeInput s = .ok (c, n) ↔
      ∃ keyCode rest, c = .input keyCode ∧ n = 2 ∧ s = c.payload ++ rest := by
  simp only [decodeInput, Decoder.ofExcept_eq_ok, Payload.bind_eq_ok, Prod.exists, Payload.u16_eq_ok]
  constructor
  · rintro ⟨keyCode, rest, rfl, h⟩
    cases h
    exact ⟨keyCode, rest, rfl, rfl, by simp [payload, fields]⟩
  · rintro ⟨keyCode, rest, rfl, rfl, rfl⟩
    exact ⟨keyCode, rest, by simp [payload, fields], rfl⟩

theorem length_payload (c : Command) :
    c.payload.length =
      match c with
      | .move .. => 16
      | .spawn .. => 20
      | .input .. => 2 := by
  cases c <;> simp [payload, fields, Value.length_toBytes, Value.field, Field.width]

/-! ### The built-in registry -/

theorem find?_registry (tag : String) :
    registry.find? tag =
      if tag = "Input" then some decodeInput
      else if tag = "Spawn" then some decodeSpawn
      else if tag = "Move" then some decodeMove
      else none := by
  simp only [registry, Registry.find?_register]
  rfl

theorem find?_registry_cases {tag : String} {d : Decoder Command}
    (h : registry.find? tag = some d) :
    (tag = "Move" ∧ d = decodeMove) ∨ (tag = "Spawn" ∧ d = decodeSpawn) ∨
      (tag = "Input" ∧ d = decodeInput) := by
  rw [find?_registry] at h
  split at h
  · exact Or.inr (Or.inr ⟨‹_›, (Option.some.inj h).symm⟩)
  split at h
  · exact Or.inr (Or.inl ⟨‹_›, (Option.some.inj h).symm⟩)
  split at h
  · exact Or.inl ⟨‹_›, (Option.some.inj h).symm⟩
  · cases h

/-- **No built-in decoder aborts.** -/
theorem registry_total : registry.Total := by
  intro tag d hd s reason
  rcases find?_registry_cases hd with ⟨-, rfl⟩ | ⟨-, rfl⟩ | ⟨-, rfl⟩ <;>
    exact Decoder.ofExcept_ne_abort _ s reason

/-- The built-in decoder of a command's tag reads the command off the front. -/
theorem exists_decoder (c : Command) (rest : Bytes) :
    ∃ d, registry.find? c.tag = some d ∧ d (c.payload ++ rest) = .ok (c, c.payload.length) := by
  cases c with
  | move uid x y =>
    exact ⟨decodeMove, find?_registry _, by
      rw [length_payload]; exact decodeMove_eq_ok.2 ⟨uid, x, y, rest, rfl, rfl, rfl⟩⟩
  | spawn uid kind x y =>
    exact ⟨decodeSpawn, find?_registry _, by
      rw [length_payload]; exact decodeSpawn_eq_ok.2 ⟨uid, kind, x, y, rest, rfl, rfl, rfl⟩⟩
  | input keyCode =>
    exact ⟨decodeInput, find?_registry _, by
      rw [length_payload]; exact decodeInput_eq_ok.2 ⟨keyCode, rest, rfl, rfl, rfl⟩⟩

/-- **Only a command's own tag and payload are read as the command.** -/
theorem builtin_eq_ok {tag : String} {d : Decoder Command} {payload : Bytes} {c : Command}
    (hd : registry.find? tag = some d) (h : d payload = .ok (c, payload.length)) :
    tag = c.tag ∧ payload = c.payload := by
  -- the payload is the command's and some rest, and the lengths leave no rest
  obtain ⟨rest, ht, hp, hl⟩ : ∃ rest, tag = c.tag ∧ payload = c.payload ++ rest ∧
      payload.length = c.payload.length := by
    rcases find?_registry_cases hd with ⟨rfl, rfl⟩ | ⟨rfl, rfl⟩ | ⟨rfl, rfl⟩
    · obtain ⟨uid, x, y, rest, rfl, hl, hp⟩ := decodeMove_eq_ok.1 h
      exact ⟨rest, rfl, hp, by rw [hl, length_payload]⟩
    · obtain ⟨uid, kind, x, y, rest, rfl, hl, hp⟩ := decodeSpawn_eq_ok.1 h
      exact ⟨rest, rfl, hp, by rw [hl, length_payload]⟩
    · obtain ⟨keyCode, rest, rfl, hl, hp⟩ := decodeInput_eq_ok.1 h
      exact ⟨rest, rfl, hp, by rw [hl, length_payload]⟩
  have hrest : rest = [] := by
    rw [hp, List.length_append] at hl
    exact List.length_eq_zero_iff.1 (by omega)
  exact ⟨ht, by rw [hp, hrest, List.append_nil]⟩

end Command

/-! ### Registries that recover messages -/

namespace Registry

variable {μ : Type}

/-- Every tag of `base` has the same decoder in `registry`, which may have more tags. -/
def Extends (registry base : Registry μ) : Prop :=
  ∀ tag d, base.find? tag = some d → registry.find? tag = some d

/-- The decoder of the message's tag reads the message's payload, to its last
byte, as the message. -/
def Recovers [WireMessage μ] (registry : Registry μ) (m : μ) : Prop :=
  ∃ d, registry.find? (WireMessage.tag m) = some d ∧
    d (WireMessage.payload m).bytes = .ok (m, (WireMessage.payload m).bytes.length)

theorem extends_refl (registry : Registry μ) : registry.Extends registry := fun _ _ h => h

end Registry

/-- **A registry with the built-in decoders recovers every command.** -/
theorem Command.recovers {registry : Registry Command} (h : registry.Extends Command.registry)
    (c : Command) : registry.Recovers c := by
  obtain ⟨d, hd, ho⟩ := c.exists_decoder []
  refine ⟨d, h c.tag d hd, ?_⟩
  rwa [List.append_nil] at ho

end Tagram
