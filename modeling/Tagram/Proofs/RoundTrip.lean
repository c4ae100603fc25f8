/-
# Frames there and back

Packing appends the frames of the messages that can be written and leaves the
others out; decoding reads the frames back. So a packed buffer decodes to
exactly the messages whose frames were appended (`Frame.decode_pack`), for
every message type and every registry that recovers these messages.

For the built-in commands there is also the way back: whatever bytes a
datagram holds, the part that decodes is the encoding of the commands it
decodes to (`Datagram.encode_decode`). No second wire form of a command is
accepted.

Key definitions: `Frame.ofMessage`, `Frame.accepted`, `Frame.lengths`,
`Frame.writeInPlace`.
Key theorems: `Frame.encodeAfter_eq_ok`, `Frame.pack_eq`,
`Datagram.decodeFrom_frames`, `Command.encode_eq`,
`Datagram.decodeFrom_command`, `Frame.decode_pack`, `Datagram.encode_decode`.
-/
import Tagram.Frame.Datagram
import Tagram.Proofs.CommandPayload

namespace Tagram

variable {μ : Type}

namespace Frame

variable [WireMessage μ]

/-! ### Writing one frame -/

/-- The frame of a message, whether or not it fits into a datagram. -/
def ofMessage (m : μ) : Bytes :=
  bytes (Bytes.ofText (WireMessage.tag m)) (WireMessage.payload m).bytes

/-- **A frame is written exactly when** its tag is ASCII, its payload writer
succeeds and it fits behind what is there. -/
theorem encodeAfter_eq_ok {used : Nat} {m : μ} {frame : Bytes} :
    encodeAfter used m = .ok frame ↔
      Bytes.isAscii (Bytes.ofText (WireMessage.tag m)) = true ∧
      (WireMessage.payload m).failure = none ∧ used + frame.length ≤ maxDatagram ∧
      frame = ofMessage m := by
  unfold encodeAfter
  by_cases ha : Bytes.isAscii (Bytes.ofText (WireMessage.tag m)) = true
  · rcases hf : (WireMessage.payload m).failure with _ | cause
    · simp only [ha, hf, if_true, true_and]
      by_cases hu : used + (ofMessage m).length ≤ maxDatagram
      · rw [← ofMessage, if_pos hu]
        constructor
        · intro h
          cases h
          exact ⟨hu, rfl⟩
        · rintro ⟨-, rfl⟩
          rfl
      · rw [← ofMessage, if_neg hu]
        constructor
        · intro h
          cases h
        · rintro ⟨hu', rfl⟩
          exact absurd hu' hu
    · simp [ha, hf]
  · simp [ha]

theorem encode_of_encodeAfter {used : Nat} {m : μ} {frame : Bytes}
    (h : encodeAfter used m = .ok frame) : encode m = .ok (ofMessage m) := by
  obtain ⟨ha, hf, hu, rfl⟩ := encodeAfter_eq_ok.1 h
  exact encodeAfter_eq_ok.2 ⟨ha, hf, by omega, rfl⟩

/-- Writes a frame where it belongs: an empty length field, the tag and the
payload go to the end of the buffer, and then the length is filled in. After a
failure the buffer is cut back to where the frame began. -/
def writeInPlace (buffer : Bytes) (m : μ) : Bytes × Except CodecError Nat :=
  let tag := Bytes.ofText (WireMessage.tag m)
  if Bytes.isAscii tag then
    let written := WireMessage.payload m
    let out := buffer ++ List.replicate lengthField 0 ++ Bytes.toBigEndian lengthField tag.length
      ++ tag ++ written.bytes
    match written.failure with
    | some cause => (out.take buffer.length, .error cause)
    | none =>
      if maxDatagram < out.length then (out.take buffer.length, .error (.tooLarge out.length))
      else
        let length := out.length - buffer.length
        (out.take buffer.length ++ Bytes.toBigEndian lengthField (length - lengthField)
          ++ out.drop (buffer.length + lengthField), .ok length)
  else (buffer, .error (.malformedFrame (.tagUnwritable (WireMessage.tag m))))

/-- **Filling the length in afterwards gives the same buffer** as appending the
finished frame, and a failure leaves no trace of the frame. -/
theorem writeInPlace_eq_appendTo (buffer : Bytes) (m : μ) :
    writeInPlace buffer m = appendTo buffer m := by
  unfold writeInPlace appendTo encodeAfter
  by_cases ha : Bytes.isAscii (Bytes.ofText (WireMessage.tag m)) = true
  · rcases hw : WireMessage.payload m with ⟨payload, failure⟩
    simp only [ha, if_true]
    set tag := Bytes.ofText (WireMessage.tag m)
    have hout : buffer ++ List.replicate lengthField 0 ++ Bytes.toBigEndian lengthField tag.length ++
        tag ++ payload = buffer ++ (List.replicate lengthField 0 ++ body tag payload) := by
      simp only [body, List.append_assoc]
    have htake : (buffer ++ (List.replicate lengthField 0 ++ body tag payload)).take buffer.length =
        buffer := List.take_left' rfl
    have hdrop : (buffer ++ (List.replicate lengthField 0 ++ body tag payload)).drop
        (buffer.length + lengthField) = body tag payload := by
      rw [← List.append_assoc, List.drop_left' (by simp)]
    have hlen : (buffer ++ (List.replicate lengthField 0 ++ body tag payload)).length =
        buffer.length + (bytes tag payload).length := by
      rw [bytes_eq]
      simp
    rw [hout, htake, hdrop, hlen]
    rcases failure with _ | cause
    · by_cases hu : buffer.length + (bytes tag payload).length ≤ maxDatagram
      · have hsize : buffer.length + (bytes tag payload).length - buffer.length - lengthField =
            (body tag payload).length := by
          rw [bytes_eq, List.length_append, Bytes.length_toBigEndian]
          omega
        have hframe : buffer ++ Bytes.toBigEndian lengthField (body tag payload).length ++
            body tag payload = buffer ++ bytes tag payload := by
          rw [List.append_assoc, ← bytes_eq]
        simp only [if_pos hu, if_neg (Nat.not_lt.2 hu)]
        rw [hsize, hframe, Nat.add_sub_cancel_left]
      · simp only [if_neg hu, if_pos (Nat.not_le.1 hu)]
    · rfl
  · simp [ha]

/-! ### Packing -/

/-- The messages whose frames were appended. -/
def accepted (ms : List μ) (results : List (Except CodecError Nat)) : List μ :=
  (ms.zip results).filterMap fun p => p.2.toOption.map fun _ => p.1

/-- The lengths of the frames that were appended. -/
def lengths (results : List (Except CodecError Nat)) : List Nat := results.filterMap Except.toOption

theorem pack_cons_ok {buffer frame : Bytes} {m : μ} (ms : List μ)
    (h : encodeAfter buffer.length m = .ok frame) :
    pack buffer (m :: ms) =
      ((pack (buffer ++ frame) ms).1, .ok frame.length :: (pack (buffer ++ frame) ms).2) := by
  simp only [pack, appendTo, h]

theorem pack_cons_error {buffer : Bytes} {m : μ} {cause : CodecError} (ms : List μ)
    (h : encodeAfter buffer.length m = .error cause) :
    pack buffer (m :: ms) = ((pack buffer ms).1, .error cause :: (pack buffer ms).2) := by
  simp only [pack, appendTo, h]

/-- **Packing appends the frames of the accepted messages in order**, and
reports their lengths. -/
theorem pack_eq : ∀ (ms : List μ) (buffer : Bytes),
    (pack buffer ms).1 = buffer ++ (accepted ms (pack buffer ms).2).flatMap ofMessage ∧
    (lengths (pack buffer ms).2).sum =
      ((accepted ms (pack buffer ms).2).flatMap ofMessage).length ∧
    ∀ m ∈ accepted ms (pack buffer ms).2, encode m = .ok (ofMessage m)
  | [], buffer => by simp [pack, accepted, lengths]
  | m :: ms, buffer => by
    rcases he : encodeAfter buffer.length m with cause | frame
    · rw [pack_cons_error ms he]
      exact pack_eq ms buffer
    · obtain ⟨h1, h2, h3⟩ := pack_eq ms (buffer ++ frame)
      obtain ⟨-, -, -, rfl⟩ := encodeAfter_eq_ok.1 he
      rw [pack_cons_ok ms he]
      set results := (pack (buffer ++ ofMessage m) ms).2
      have ha : accepted (m :: ms) (.ok (ofMessage m).length :: results) =
          m :: accepted ms results := rfl
      have hl : lengths (.ok (ofMessage m).length :: results) =
          (ofMessage m).length :: lengths results := rfl
      refine ⟨?_, ?_, ?_⟩
      · rw [h1, ha, List.flatMap_cons, List.append_assoc]
      · rw [hl, ha, List.sum_cons, h2, List.flatMap_cons, List.length_append]
      · rw [ha]
        exact List.forall_mem_cons.2 ⟨encode_of_encodeAfter he, h3⟩

end Frame

/-! ### Decoding frames -/

namespace Datagram

theorem decodeFrom_of_incomplete (registry : Registry μ) (offset : Nat) {s : Bytes}
    (h : Frame.Incomplete s) : decodeFrom registry offset s = ([], offset, .incomplete) := by
  rw [decodeFrom, Frame.head_of_incomplete registry h]

theorem decodeFrom_bounds (registry : Registry μ) (offset : Nat) (s : Bytes) :
    offset ≤ (decodeFrom registry offset s).2.1 ∧
      (decodeFrom registry offset s).2.1 ≤ offset + s.length := by
  fun_induction decodeFrom registry offset s with
  | case4 offset s h he _ frames stop hrest ih =>
    rw [hrest, List.length_drop] at ih
    obtain ⟨hmin, hmax⟩ := Frame.length_of_head he
    obtain ⟨h1, h2⟩ : offset + h.length ≤ stop.1 ∧
      stop.1 ≤ offset + h.length + (s.length - h.length) := ih
    exact ⟨show offset ≤ stop.1 by omega, show stop.1 ≤ offset + s.length by omega⟩
  | _ => simp

theorem decodeFrom_of_head {registry : Registry μ} {s : Bytes} {h : Frame.Head μ} (offset : Nat)
    (he : Frame.head registry s = .ok (some h)) :
    decodeFrom registry offset s =
      (⟨h.tag, h.message, offset, offset + h.length⟩ ::
        (decodeFrom registry (offset + h.length) (s.drop h.length)).1,
      (decodeFrom registry (offset + h.length) (s.drop h.length)).2) := by
  obtain ⟨hmin, hmax⟩ := Frame.length_of_head he
  have hpos : 0 < h.length := by omega
  have hne : s.isEmpty = false := by
    rw [List.isEmpty_eq_false_iff, ← List.length_pos_iff]
    omega
  rw [decodeFrom, he]
  simp only [hpos, hne, and_self, dif_pos]

variable [WireMessage μ]

/-- The frame of a message that can be written is open in front of any bytes. -/
theorem opens_ofMessage {m : μ} (hm : Frame.encode m = .ok (Frame.ofMessage m)) (rest : Bytes) :
    ∃ region, region = Frame.body (Bytes.ofText (WireMessage.tag m)) (WireMessage.payload m).bytes ∧
      Frame.Opens region (Frame.ofMessage m ++ rest) ∧
      (Frame.ofMessage m).length = lengthField + region.length := by
  obtain ⟨-, -, hu, -⟩ := Frame.encodeAfter_eq_ok.1 hm
  refine ⟨_, rfl, Frame.opens_body.2 ⟨?_, rest, rfl⟩, ?_⟩
  · rw [Frame.ofMessage, Frame.length_bytes] at hu
    simp only [maxDatagram] at hu
    simp only [lengthField]
    omega
  · rw [Frame.ofMessage, Frame.bytes_eq, List.length_append, Bytes.length_toBigEndian]

theorem head_ofMessage {registry : Registry μ} {m : μ} (hm : Frame.encode m = .ok (Frame.ofMessage m))
    (hr : registry.Recovers m) (rest : Bytes) :
    Frame.head registry (Frame.ofMessage m ++ rest) =
      .ok (some ⟨WireMessage.tag m, m, (Frame.ofMessage m).length⟩) := by
  obtain ⟨ha, -, -, -⟩ := Frame.encodeAfter_eq_ok.1 hm
  obtain ⟨d, hd, ho⟩ := hr
  obtain ⟨_, rfl, hopens, hl⟩ := opens_ofMessage hm rest
  exact Frame.head_eq_some.2 ⟨_, hopens, ⟨_, d, ha, rfl, hd, ho⟩, hl⟩

/-- **The frames of messages are read back in order**, to their end. -/
theorem decodeFrom_frames {registry : Registry μ} : ∀ (ms : List μ) (offset : Nat),
    (∀ m ∈ ms, Frame.encode m = .ok (Frame.ofMessage m) ∧ registry.Recovers m) →
    (decodeFrom registry offset (ms.flatMap Frame.ofMessage)).1.map (·.message) = ms ∧
    (decodeFrom registry offset (ms.flatMap Frame.ofMessage)).2 =
      (offset + (ms.flatMap Frame.ofMessage).length, .incomplete)
  | [], offset, _ => by
    rw [List.flatMap_nil, decodeFrom_of_incomplete registry offset (Or.inl (by decide))]
    exact ⟨rfl, rfl⟩
  | m :: ms, offset, h => by
    obtain ⟨⟨hm, hr⟩, hms⟩ := List.forall_mem_cons.1 h
    obtain ⟨h1, h2⟩ := decodeFrom_frames ms (offset + (Frame.ofMessage m).length) hms
    rw [List.flatMap_cons, decodeFrom_of_head offset (head_ofMessage hm hr _)]
    simp only [List.drop_left, List.map_cons, h1, h2, List.length_append, Nat.add_assoc, and_self]

/-- What a report says of a datagram of frames to its end. -/
theorem decode_frames {registry : Registry μ} {ms : List μ}
    (h : ∀ m ∈ ms, Frame.encode m = .ok (Frame.ofMessage m) ∧ registry.Recovers m) :
    (decode registry (ms.flatMap Frame.ofMessage)).messages = ms ∧
    (decode registry (ms.flatMap Frame.ofMessage)).consumed =
      (decode registry (ms.flatMap Frame.ofMessage)).length ∧
    (decode registry (ms.flatMap Frame.ofMessage)).stop = .incomplete := by
  obtain ⟨h1, h2⟩ := decodeFrom_frames ms 0 h
  simp only [decode, Report.messages, h1, h2, Nat.zero_add, and_self]

/-- **A frame that is cut decodes to nothing**, and a whole one to its message.
Neither is a fault. -/
theorem decode_take {registry : Registry μ} {m : μ}
    (hm : Frame.encode m = .ok (Frame.ofMessage m)) (hr : registry.Recovers m) (n : Nat) :
    (decode registry ((Frame.ofMessage m).take n)).messages =
      (if (Frame.ofMessage m).length ≤ n then [m] else []) ∧
    (decode registry ((Frame.ofMessage m).take n)).stop = .incomplete := by
  by_cases hn : (Frame.ofMessage m).length ≤ n
  · obtain ⟨h1, -, h3⟩ := decode_frames (List.forall_mem_singleton.2 ⟨hm, hr⟩)
    rw [List.flatMap_singleton] at h1 h3
    rw [if_pos hn, List.take_of_length_le hn]
    exact ⟨h1, h3⟩
  · obtain ⟨region, -, hopens, hl⟩ := opens_ofMessage hm []
    rw [List.append_nil] at hopens
    have hi := Frame.incomplete_take hopens (hl ▸ Nat.not_le.1 hn)
    rw [if_neg hn]
    simp only [decode, Report.messages, decodeFrom_of_incomplete registry 0 hi, List.map_nil,
      and_self]

end Datagram

/-- **A packed buffer decodes to what was packed**, if the registry recovers the messages that
were not refused. Decoding gives exactly these in order, uses every byte and finds no
fault. A registry with the built-in decoders recovers every command. -/
theorem Frame.decode_pack :
    (∀ (μ : Type) [WireMessage μ] (registry : Registry μ) (ms : List μ),
      (∀ m ∈ accepted ms (pack [] ms).2, registry.Recovers m) →
      (Datagram.decode registry (pack [] ms).1).messages = accepted ms (pack [] ms).2 ∧
      (Datagram.decode registry (pack [] ms).1).consumed =
        (Datagram.decode registry (pack [] ms).1).length ∧
      (Datagram.decode registry (pack [] ms).1).length = (lengths (pack [] ms).2).sum ∧
      (Datagram.decode registry (pack [] ms).1).stop = .incomplete ∧
      (Datagram.decode registry (pack [] ms).1).fault? = none ∧
      (Datagram.decode registry (pack [] ms).1).isComplete = true) ∧
    (∀ (μ : Type) [WireMessage μ] (buffer : Bytes) (m : μ),
      writeInPlace buffer m = appendTo buffer m) ∧
    ∀ registry : Registry Command, registry.Extends Command.registry →
      ∀ c, registry.Recovers c := by
  refine ⟨fun μ _ registry ms h => ?_, fun μ _ => writeInPlace_eq_appendTo,
    fun registry hr => Command.recovers hr⟩
  obtain ⟨hbuf, hsum, hok⟩ := pack_eq ms []
  rw [List.nil_append] at hbuf
  obtain ⟨h1, h2, h3⟩ := Datagram.decode_frames fun m hm => ⟨hok m hm, h m hm⟩
  rw [← hbuf] at h1 h2 h3
  have hlen : (Datagram.decode registry (pack [] ms).1).length = (pack [] ms).1.length := rfl
  have hf : (Datagram.decode registry (pack [] ms).1).fault? = none := by
    simp only [Datagram.Report.fault?, h3]
  refine ⟨h1, h2, by rw [hlen, hbuf, hsum], h3, hf, ?_⟩
  simp [Datagram.Report.isComplete, Datagram.Report.trailing, hf, h2]

/-- A message of one byte that may refuse to be written. -/
structure Probe where
  byte : UInt8
  refuses : Bool := false
  deriving DecidableEq

/-- A probe that refuses does so after its byte. -/
instance : WireMessage Probe where
  tag _ := "P"
  payload p := ⟨[p.byte], if p.refuses then some (.unencodable "no") else none⟩

/-- The registry of probes. -/
def Probe.registry : Registry Probe := Registry.empty.register "P" fun s => .ok (⟨s.headD 0, false⟩, 1)

theorem Frame.decode_pack_probe :
    (∀ m ∈ accepted [⟨7, false⟩, ⟨8, true⟩, ⟨9, false⟩]
      (pack [] [⟨7, false⟩, ⟨8, true⟩, (⟨9, false⟩ : Probe)]).2, Probe.registry.Recovers m) ∧
    (Datagram.decode Probe.registry
      (pack [] [⟨7, false⟩, ⟨8, true⟩, (⟨9, false⟩ : Probe)]).1).messages =
        [⟨7, false⟩, ⟨9, false⟩] := by
  have hm : ∀ m ∈ accepted [⟨7, false⟩, ⟨8, true⟩, ⟨9, false⟩]
      (pack [] [⟨7, false⟩, ⟨8, true⟩, (⟨9, false⟩ : Probe)]).2, Probe.registry.Recovers m := by
    intro m hm
    have he : m = ⟨7, false⟩ ∨ m = ⟨9, false⟩ := by revert m; decide
    rcases he with rfl | rfl <;> exact ⟨_, Registry.find?_register .., rfl⟩
  exact ⟨hm, (decode_pack.1 Probe Probe.registry _ hm).1.trans (by decide)⟩

/-! ### Commands on the wire -/

namespace Command

theorem isAscii_tag (c : Command) : Bytes.isAscii (Bytes.ofText (WireMessage.tag c)) = true := by
  cases c <;> rfl

theorem length_ofMessage (c : Command) :
    (Frame.ofMessage c).length =
      match c with
      | .move .. => 36
      | .spawn .. => 41
      | .input .. => 23 := by
  have hp : (WireMessage.payload c).bytes = c.payload := rfl
  rw [Frame.ofMessage, Frame.length_bytes, hp, length_payload]
  cases c <;> rfl

theorem length_ofMessage_le (c : Command) : (Frame.ofMessage c).length ≤ 41 := by
  rw [length_ofMessage]
  cases c <;> simp

theorem encode_eq (c : Command) : Frame.encode c = .ok (Frame.ofMessage c) := by
  have hl := c.length_ofMessage_le
  refine Frame.encodeAfter_eq_ok.2 ⟨c.isAscii_tag, rfl, ?_, rfl⟩
  simp only [maxDatagram]
  omega

theorem aborts_eq (c : Command) : WireMessage.aborts c = false := rfl

end Command

/-- **A frame that is read as a command is the command's frame.** -/
theorem Frame.head_command {s : Bytes} {h : Frame.Head Command}
    (he : Frame.head Command.registry s = .ok (some h)) :
    h.length = (Frame.ofMessage h.message).length ∧ Frame.ofMessage h.message <+: s := by
  obtain ⟨_, hr, ⟨payload, d, -, rfl, hd, ho⟩, hl⟩ := head_eq_some.1 he
  obtain ⟨htag, rfl⟩ := Command.builtin_eq_ok hd ho
  have hf : ofMessage h.message = bytes (Bytes.ofText h.tag) h.message.payload := by
    rw [htag]
    rfl
  rw [hf]
  refine ⟨?_, (opens_body.1 hr).2⟩
  rw [hl, bytes_eq, List.length_append, Bytes.length_toBigEndian]

namespace Datagram

/-- The frames read from some bytes are the encodings of their commands, end to end. -/
theorem decodeFrom_command (offset : Nat) (s : Bytes) :
    ((decodeFrom Command.registry offset s).1.map (·.message)).flatMap Frame.ofMessage =
      s.take ((decodeFrom Command.registry offset s).2.1 - offset) := by
  fun_induction decodeFrom Command.registry offset s with
  | case4 offset s h he _ frames stop hrest ih =>
    obtain ⟨hl, rest, rfl⟩ := Frame.head_command he
    have hle := (decodeFrom_bounds Command.registry (offset + h.length)
      ((Frame.ofMessage h.message ++ rest).drop h.length)).1
    rw [hrest, hl] at hle
    rw [hrest, hl, List.drop_left' rfl] at ih
    have hstop : stop.1 - offset = (Frame.ofMessage h.message).length +
        (stop.1 - (offset + (Frame.ofMessage h.message).length)) := by
      simp only at hle
      omega
    simp only [List.map_cons, List.flatMap_cons]
    rw [ih, hstop, List.take_length_add_append]
  | _ => simp

end Datagram

/-- **What decodes to commands is the encoding of the commands.** For any bytes,
every command that decoding finds can be written, and written one after
another the commands are the bytes that were used. At any offset, a frame that
is read is the encoding of its command. -/
theorem Datagram.encode_decode (datagram : Bytes) :
    ((decode Command.registry datagram).messages.mapM Frame.encode).map List.flatten =
      .ok (datagram.take (decode Command.registry datagram).consumed) ∧
    (decode Command.registry datagram).consumed ≤ datagram.length ∧
    ∀ offset c next, Frame.parse Command.registry datagram offset = .ok (some (c, next)) →
      offset < next ∧ next ≤ datagram.length ∧
      Frame.encode c = .ok ((datagram.drop offset).take (next - offset)) := by
  have hpure : (Frame.encode : Command → Except CodecError Bytes) =
      fun c => pure (Frame.ofMessage c) := funext Command.encode_eq
  have hcat := decodeFrom_command 0 datagram
  obtain ⟨-, hle⟩ := decodeFrom_bounds Command.registry 0 datagram
  rw [List.flatMap_def, Nat.sub_zero] at hcat
  rw [Nat.zero_add] at hle
  refine ⟨?_, hle, fun offset c next h => ?_⟩
  · rw [hpure, List.mapM_pure]
    exact congrArg Except.ok hcat
  · obtain ⟨g, hh, rfl, rfl⟩ := Frame.head_of_parse h
    obtain ⟨hmin, hmax⟩ := Frame.length_of_head hh
    obtain ⟨hl, rest, hs⟩ := Frame.head_command hh
    rw [List.length_drop] at hmax
    refine ⟨by omega, by omega, ?_⟩
    rw [Command.encode_eq, Nat.add_sub_cancel_left, ← hs, hl, List.take_left' rfl]

/-- A position that is not a number and a negative zero, behind a stray byte. -/
theorem Datagram.encode_decode_bits :
    Frame.parse Command.registry
      (0 :: Frame.ofMessage (Command.move 258 ⟨0x7fc00001⟩ ⟨0x80000000⟩)) 1 =
        .ok (some (.move 258 ⟨0x7fc00001⟩ ⟨0x80000000⟩, 37)) ∧
    Frame.encode (Command.move 258 ⟨0x7fc00001⟩ ⟨0x80000000⟩) =
      .ok (((0 :: Frame.ofMessage (Command.move 258 ⟨0x7fc00001⟩ ⟨0x80000000⟩)).drop 1).take 36) := by
  have h : Frame.parse Command.registry
      (0 :: Frame.ofMessage (Command.move 258 ⟨0x7fc00001⟩ ⟨0x80000000⟩)) 1 =
        .ok (some (.move 258 ⟨0x7fc00001⟩ ⟨0x80000000⟩, 37)) := by decide
  exact ⟨h, ((encode_decode _).2.2 1 _ 37 h).2.2⟩

end Tagram
