/-
# Writing frames, all or nothing

A frame is written where it belongs: an empty length field and the tag go to the
end of the buffer, a payload writer appends what it likes, and the length is
filled in last. The writer sees the whole buffer, and it may append and then
fail. When the frame cannot stay, the buffer is cut back to where it began.

Whatever the writers do, a call adds exactly one whole frame or changes nothing,
and it fails for the first of three reasons: a tag outside ASCII, the writer's
own error, a buffer that would outgrow one datagram (`Draft.emit_atomic`).

To a call it does not matter how a writer came to its bytes: the call appends the
frame of a message that is nothing but a tag and these bytes
(`Draft.emit_eq_appendTo`). So a run of calls is a packing of such messages
(`Draft.emitAll_eq_pack`), and packing is known.

Key definitions: `Frame.Draft`, `Frame.Draft.writeOut`, `Frame.Draft.emit`,
`Frame.Draft.emitAll`, `Frame.Sealed`, `Frame.Draft.sealAll`.
Key theorems: `Frame.appendTo_eq_ok`, `Frame.appendTo_eq_error`,
`Frame.length_pack_le`, `Frame.Draft.emit_eq_appendTo`,
`Frame.Draft.emitAll_eq_pack`, `Frame.Draft.emit_atomic`.
-/
import Tagram.Proofs.RoundTrip

namespace Tagram
namespace Frame

/-! ### One call -/

section

variable {μ : Type} [WireMessage μ]

theorem encodeAfter_eq (used : Nat) (m : μ) :
    encodeAfter used m =
      if Bytes.isAscii (Bytes.ofText (WireMessage.tag m)) then
        match (WireMessage.payload m).failure with
        | some cause => .error cause
        | none =>
          if used + (ofMessage m).length ≤ maxDatagram then .ok (ofMessage m)
          else .error (.tooLarge (used + (ofMessage m).length))
      else .error (.malformedFrame (.tagUnwritable (WireMessage.tag m))) :=
  rfl

/-- **A frame is refused for the first of three reasons**, and for no other. -/
theorem encodeAfter_eq_error {used : Nat} {m : μ} {cause : CodecError} :
    encodeAfter used m = .error cause ↔
      (Bytes.isAscii (Bytes.ofText (WireMessage.tag m)) = false ∧
        cause = .malformedFrame (.tagUnwritable (WireMessage.tag m))) ∨
      (Bytes.isAscii (Bytes.ofText (WireMessage.tag m)) = true ∧
        (WireMessage.payload m).failure = some cause) ∨
      (Bytes.isAscii (Bytes.ofText (WireMessage.tag m)) = true ∧
        (WireMessage.payload m).failure = none ∧
        maxDatagram < used + (ofMessage m).length ∧
        cause = .tooLarge (used + (ofMessage m).length)) := by
  rw [encodeAfter_eq]
  by_cases ha : Bytes.isAscii (Bytes.ofText (WireMessage.tag m)) = true
  · cases hf : (WireMessage.payload m).failure with
    | some failure => simp [ha]
    | none =>
      by_cases hu : used + (ofMessage m).length ≤ maxDatagram
      · have hnot := Nat.not_lt.2 hu
        simp [ha, hu, hnot]
      · have hover := Nat.not_le.1 hu
        simp [ha, hu, hover, eq_comm]
  · simp [ha, eq_comm]

theorem length_ofMessage (m : μ) :
    (ofMessage m).length = 16 + (Bytes.ofText (WireMessage.tag m)).length +
      (WireMessage.payload m).bytes.length :=
  length_bytes ..

theorem appendTo_eq_ok {buffer out : Bytes} {m : μ} {n : Nat} :
    appendTo buffer m = (out, .ok n) ↔
      Bytes.isAscii (Bytes.ofText (WireMessage.tag m)) = true ∧
      (WireMessage.payload m).failure = none ∧
      buffer.length + (ofMessage m).length ≤ maxDatagram ∧
      n = (ofMessage m).length ∧ out = buffer ++ ofMessage m := by
  unfold appendTo
  cases he : encodeAfter buffer.length m with
  | error cause =>
    have hno : ∀ frame, encodeAfter buffer.length m ≠ .ok frame := by simp [he]
    constructor
    · intro h
      simp at h
    · rintro ⟨ha, hf, hu, -, -⟩
      exact absurd (encodeAfter_eq_ok.2 ⟨ha, hf, hu, rfl⟩) (hno _)
  | ok frame =>
    obtain ⟨ha, hf, hu, rfl⟩ := encodeAfter_eq_ok.1 he
    simp [ha, hf, hu, eq_comm, and_comm]

theorem appendTo_eq_error {buffer out : Bytes} {m : μ} {cause : CodecError} :
    appendTo buffer m = (out, .error cause) ↔
      out = buffer ∧ encodeAfter buffer.length m = .error cause := by
  unfold appendTo
  cases encodeAfter buffer.length m <;> simp [eq_comm]

/-! ### A run of calls -/

theorem length_results : ∀ (ms : List μ) (buffer : Bytes), (pack buffer ms).2.length = ms.length
  | [], _ => rfl
  | m :: ms, buffer => by
    simp only [pack, List.length_cons, length_results ms]

/-- **A buffer that took a frame fits into one datagram**, and so does one that
fitted before. -/
theorem length_pack_le : ∀ (ms : List μ) (buffer : Bytes),
    buffer.length ≤ maxDatagram ∨ (∃ n, .ok n ∈ (pack buffer ms).2) →
    (pack buffer ms).1.length ≤ maxDatagram
  | [], buffer, h => by
    rcases h with h | ⟨n, h⟩
    · exact h
    · simp [pack] at h
  | m :: ms, buffer, h => by
    cases he : encodeAfter buffer.length m with
    | error cause =>
      rw [pack_cons_error ms he] at h ⊢
      apply length_pack_le ms buffer
      simpa using h
    | ok frame =>
      obtain ⟨-, -, hu, -⟩ := encodeAfter_eq_ok.1 he
      rw [pack_cons_ok ms he]
      apply length_pack_le ms (buffer ++ frame)
      left
      rwa [List.length_append]

end

/-! ### Writers that see the buffer -/

/-- A message as it is handed over: its tag, and what its payload writer appends to
the bytes that it finds. -/
structure Draft where
  tag : String
  write : Bytes → Written

/-- A message that is nothing but its tag and what its payload writer appended. -/
structure Sealed where
  tag : String
  written : Written

instance : WireMessage Sealed where
  tag := Sealed.tag
  payload := Sealed.written

namespace Draft

/-- What the payload writer finds: the buffer, an empty length field and the tag. -/
def opening (draft : Draft) (buffer : Bytes) : Bytes :=
  buffer ++ List.replicate lengthField 0
    ++ Bytes.toBigEndian lengthField (Bytes.ofText draft.tag).length ++ Bytes.ofText draft.tag

/-- What the payload writer appends behind a buffer. -/
def written (draft : Draft) (buffer : Bytes) : Written := draft.write (draft.opening buffer)

/-- Writes a frame at the end of a buffer and fills its length in last. A failure
leaves behind what was written before it. -/
def writeOut (draft : Draft) (buffer : Bytes) : Bytes × Except CodecError Nat :=
  if Bytes.isAscii (Bytes.ofText draft.tag) then
    let out := draft.opening buffer ++ (draft.written buffer).bytes
    match (draft.written buffer).failure with
    | some cause => (out, .error cause)
    | none =>
      if maxDatagram < out.length then (out, .error (.tooLarge out.length))
      else
        let length := out.length - buffer.length
        (out.take buffer.length ++ Bytes.toBigEndian lengthField (length - lengthField)
          ++ out.drop (buffer.length + lengthField), .ok length)
  else (buffer, .error (.malformedFrame (.tagUnwritable draft.tag)))

/-- Writes a frame at the end of a buffer. After a failure the buffer is cut back to
its old length. -/
def emit (draft : Draft) (buffer : Bytes) : Bytes × Except CodecError Nat :=
  match draft.writeOut buffer with
  | (out, .ok length) => (out, .ok length)
  | (out, .error cause) => (out.take buffer.length, .error cause)

/-- Writes the frames of drafts in turn, and reports for each what `emit` reports. -/
def emitAll (buffer : Bytes) : List Draft → Bytes × List (Except CodecError Nat)
  | [] => (buffer, [])
  | draft :: drafts =>
    let (next, result) := draft.emit buffer
    let (final, results) := emitAll next drafts
    (final, result :: results)

/-- The draft with what its payload writer appends behind a buffer. -/
def sealed (draft : Draft) (buffer : Bytes) : Sealed := ⟨draft.tag, draft.written buffer⟩

/-- The drafts with what their payload writers append when they are written in turn. -/
def sealAll (buffer : Bytes) : List Draft → List Sealed
  | [] => []
  | draft :: drafts => draft.sealed buffer :: sealAll (draft.emit buffer).1 drafts

/-- A message whose payload does not depend on the buffer. -/
def ofMessage {μ : Type} [WireMessage μ] (m : μ) : Draft :=
  ⟨WireMessage.tag m, fun _ => WireMessage.payload m⟩

/-- **However a writer came to its bytes**, the call appends the frame of these
bytes or leaves the buffer alone. -/
theorem emit_eq_appendTo (draft : Draft) (buffer : Bytes) :
    draft.emit buffer = appendTo buffer (draft.sealed buffer) := by
  rw [← writeInPlace_eq_appendTo]
  have htag : WireMessage.tag (draft.sealed buffer) = draft.tag := rfl
  have hpayload : WireMessage.payload (draft.sealed buffer) = draft.written buffer := rfl
  unfold emit writeOut writeInPlace opening
  rw [htag, hpayload]
  by_cases ha : Bytes.isAscii (Bytes.ofText draft.tag) = true
  · simp only [if_pos ha]
    cases (draft.written buffer).failure with
    | some cause => rfl
    | none =>
      dsimp only
      split_ifs <;> rfl
  · simp only [if_neg ha, List.take_length]

theorem length_add_sealed (draft : Draft) (buffer : Bytes) :
    buffer.length + (Frame.ofMessage (draft.sealed buffer)).length =
      buffer.length + 16 + (Bytes.ofText draft.tag).length +
        (draft.written buffer).bytes.length := by
  rw [length_ofMessage, ← Nat.add_assoc, ← Nat.add_assoc]
  rfl

theorem emit_ofMessage {μ : Type} [WireMessage μ] (m : μ) (buffer : Bytes) :
    (Draft.ofMessage m).emit buffer = appendTo buffer m :=
  emit_eq_appendTo ..

/-- **A run of calls packs what the writers appended.** -/
theorem emitAll_eq_pack : ∀ (drafts : List Draft) (buffer : Bytes),
    emitAll buffer drafts = pack buffer (sealAll buffer drafts)
  | [], _ => rfl
  | draft :: drafts, buffer => by
    simp only [emitAll, sealAll, pack, emitAll_eq_pack drafts, emit_eq_appendTo]

theorem length_sealAll : ∀ (drafts : List Draft) (buffer : Bytes),
    (sealAll buffer drafts).length = drafts.length
  | [], _ => rfl
  | draft :: drafts, buffer => by
    simp only [sealAll, List.length_cons, length_sealAll drafts]

theorem emitAll_ofMessage {μ : Type} [WireMessage μ] : ∀ (ms : List μ) (buffer : Bytes),
    emitAll buffer (ms.map Draft.ofMessage) = pack buffer ms
  | [], _ => rfl
  | m :: ms, buffer => by
    simp only [List.map_cons, emitAll, pack, emit_ofMessage, emitAll_ofMessage ms]

/-- **Writing is all or nothing, and accepts exactly what fits**, for any buffer and any payload
writer that only appends. A refusal is about the tag, else the writer's own, else about
the size. After any run of calls the buffer is the old one and then the frames of the
calls that succeeded. -/
theorem emit_atomic :
    (∀ (draft : Draft) (buffer out : Bytes) (n : Nat), draft.emit buffer = (out, .ok n) ↔
      Bytes.isAscii (Bytes.ofText draft.tag) = true ∧ (draft.written buffer).failure = none ∧
      buffer.length + 16 + (Bytes.ofText draft.tag).length +
        (draft.written buffer).bytes.length ≤ 65507 ∧
      n = 16 + (Bytes.ofText draft.tag).length + (draft.written buffer).bytes.length ∧
      out = buffer ++ (Bytes.toBigEndian 8
          (8 + (Bytes.ofText draft.tag).length + (draft.written buffer).bytes.length)
        ++ Bytes.toBigEndian 8 (Bytes.ofText draft.tag).length ++ Bytes.ofText draft.tag
        ++ (draft.written buffer).bytes)) ∧
    (∀ (draft : Draft) (buffer out : Bytes) (cause : CodecError),
      draft.emit buffer = (out, .error cause) ↔ out = buffer ∧
        ((Bytes.isAscii (Bytes.ofText draft.tag) = false ∧
            cause = .malformedFrame (.tagUnwritable draft.tag)) ∨
          (Bytes.isAscii (Bytes.ofText draft.tag) = true ∧
            (draft.written buffer).failure = some cause) ∨
          (Bytes.isAscii (Bytes.ofText draft.tag) = true ∧
            (draft.written buffer).failure = none ∧
            65507 < buffer.length + 16 + (Bytes.ofText draft.tag).length +
              (draft.written buffer).bytes.length ∧
            cause = .tooLarge (buffer.length + 16 + (Bytes.ofText draft.tag).length +
              (draft.written buffer).bytes.length)))) ∧
    (∀ size : Nat, (CodecError.tooLarge size).message =
      "frame of " ++ toString size ++ " bytes exceeds the " ++ toString 65507 ++ " byte limit") ∧
    (∀ (drafts : List Draft) (buffer : Bytes),
      (emitAll buffer drafts).2.length = drafts.length ∧
      (emitAll buffer drafts).1 = buffer ++
        (accepted (sealAll buffer drafts) (emitAll buffer drafts).2).flatMap Frame.ofMessage ∧
      ((∃ n, .ok n ∈ (emitAll buffer drafts).2) → (emitAll buffer drafts).1.length ≤ 65507)) ∧
    ∀ (μ : Type) [WireMessage μ] (buffer : Bytes),
      (∀ m : μ, (Draft.ofMessage m).emit buffer = appendTo buffer m) ∧
      ∀ ms : List μ, emitAll buffer (ms.map Draft.ofMessage) = pack buffer ms := by
  refine ⟨fun draft buffer out n => ?_, fun draft buffer out cause => ?_, fun _ => rfl,
    fun drafts buffer => ⟨?_, ?_, fun h => ?_⟩,
    fun μ _ buffer => ⟨fun m => emit_ofMessage m buffer, fun ms => emitAll_ofMessage ms buffer⟩⟩
  · rw [emit_eq_appendTo, appendTo_eq_ok, length_add_sealed, length_ofMessage]
    rfl
  · rw [emit_eq_appendTo, appendTo_eq_error, encodeAfter_eq_error, length_add_sealed]
    rfl
  · rw [emitAll_eq_pack, length_results, length_sealAll]
  · rw [emitAll_eq_pack]
    exact (pack_eq (sealAll buffer drafts) buffer).1
  · rw [emitAll_eq_pack] at h ⊢
    exact length_pack_le _ buffer (.inr h)

/-- A draft whose payload is the number of bytes that its writer finds. -/
def echo : Draft := ⟨"P", fun found => ⟨[UInt8.ofNat found.length], none⟩⟩

/-- A draft whose writer fails after two bytes. -/
def broken : Draft := ⟨"P", fun _ => ⟨[9, 9], some (.unencodable "no")⟩⟩

/-- A draft that is larger than a datagram. -/
def bulky : Draft := ⟨"P", fun _ => ⟨List.replicate 65507 0, none⟩⟩

/-- Behind three bytes: two echoes around a tag outside ASCII and a writer that
fails, and a frame that is too large. -/
theorem emit_atomic_echo :
    (emitAll [1, 2, 3] [echo, ⟨"é", echo.write⟩, broken, echo]).2 =
      [.ok 18, .error (.malformedFrame (.tagUnwritable "é")), .error (.unencodable "no"), .ok 18] ∧
    (emitAll [1, 2, 3] [echo, ⟨"é", echo.write⟩, broken, echo]).1 =
      [1, 2, 3] ++ (bytes (Bytes.ofText "P") [20] ++ bytes (Bytes.ofText "P") [38]) ∧
    (emitAll [1, 2, 3] [echo, ⟨"é", echo.write⟩, broken, echo]).1.length ≤ 65507 ∧
    bulky.emit [1, 2, 3] = ([1, 2, 3], .error (.tooLarge 65527)) := by
  obtain ⟨-, hrefused, -, hrun, -⟩ := emit_atomic
  have hresults : (emitAll [1, 2, 3] [echo, ⟨"é", echo.write⟩, broken, echo]).2 =
      [.ok 18, .error (.malformedFrame (.tagUnwritable "é")), .error (.unencodable "no"),
        .ok 18] := by decide
  obtain ⟨-, hbuffer, hbound⟩ := hrun [echo, ⟨"é", echo.write⟩, broken, echo] [1, 2, 3]
  rw [hresults] at hbuffer hbound
  refine ⟨hresults, hbuffer.trans (by decide), hbound ⟨18, by simp⟩, ?_⟩
  refine (hrefused bulky [1, 2, 3] _ _).2 ⟨rfl, .inr (.inr ⟨by decide, rfl, ?_⟩)⟩
  have hbytes : (bulky.written [1, 2, 3]).bytes.length = 65507 := List.length_replicate ..
  have htag : (Bytes.ofText bulky.tag).length = 1 := by decide
  rw [hbytes, htag]
  exact ⟨by decide, rfl⟩

end Draft
end Frame
end Tagram
