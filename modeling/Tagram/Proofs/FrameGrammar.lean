/-
# The grammar of frames

What `Frame.parse` answers, said without the parser. A frame is *open* at the
front of some bytes when a length field and as many bytes stand there
(`Opens`); the bytes after the length field are the frame's region. If no
region is open the bytes end too early (`Incomplete`), and there is no third
case (`incomplete_or_opens`). An open region is a tag and a payload that the
tag's decoder reads to its last byte, or it is at fault in exactly one of the
ways of `Faulty`.

Every length on the wire has 64 bits, so an open region is shorter than
2 ^ 64 bytes; a byte string of the model may be longer, and is then no frame.

`Frame.walk` reads the same frame through `readBytes`, whose reads can fail
and can abort. It gives the same answers (`walk_eq_parse`): no read of a frame
aborts, and a read that fails inside the region is a fault of the frame.

Key definitions: `Registry.Total`, `Frame.body`, `Frame.Opens`,
`Frame.Incomplete`, `Frame.Faulty`, `Frame.walk`.
Key theorems: `Frame.region_cases`, `Frame.head_eq_some`,
`Frame.head_eq_none`, `Frame.head_eq_error`, `Frame.walk_eq_parse`,
`Frame.parse_grammar`.
-/
import Tagram.Cursor
import Tagram.Frame.Parse
import Tagram.Proofs.Bytes

namespace Tagram

variable {μ : Type}

/-- No decoder of the registry aborts. -/
def Registry.Total (registry : Registry μ) : Prop :=
  ∀ tag d, registry.find? tag = some d → ∀ s reason, d s ≠ .abort reason

namespace Frame

/-! ### Lengths -/

theorem pow_lengthField : 256 ^ lengthField = 2 ^ 64 := by decide

theorem ofBigEndian_length {n : Nat} (h : n < 2 ^ 64) :
    Bytes.ofBigEndian (Bytes.toBigEndian lengthField n) = n := by
  apply Bytes.ofBigEndian_toBigEndian_of_lt
  rwa [pow_lengthField]

theorem length?_append {n : Nat} (rest : Bytes) (h : n < 2 ^ 64) :
    length? (Bytes.toBigEndian lengthField n ++ rest) = some (n, rest) := by
  rw [length?, Bytes.split?_append rest (Bytes.length_toBigEndian lengthField n)]
  simp only [Option.map_some, ofBigEndian_length h]

/-- A length and what follows it are read exactly where they were written. -/
theorem length?_eq_some {s rest : Bytes} {n : Nat} :
    length? s = some (n, rest) ↔ n < 2 ^ 64 ∧ s = Bytes.toBigEndian lengthField n ++ rest := by
  constructor
  · intro h
    obtain ⟨⟨front, rest'⟩, hs, he⟩ := Option.map_eq_some_iff.1 h
    obtain ⟨rfl, rfl⟩ : Bytes.ofBigEndian front = n ∧ rest' = rest := by simpa using he
    obtain ⟨hl, rfl⟩ := Bytes.split?_eq_some.1 hs
    have hlt := Bytes.ofBigEndian_lt front
    rw [hl, pow_lengthField] at hlt
    exact ⟨hlt, by rw [← hl, Bytes.toBigEndian_ofBigEndian]⟩
  · rintro ⟨hn, rfl⟩
    exact length?_append rest hn

theorem length?_eq_none {s : Bytes} : length? s = none ↔ s.length < lengthField := by
  rw [length?, Option.map_eq_none_iff, Bytes.split?_eq_none]

/-! ### Inside a frame -/

/-- The bytes that a frame's length field counts. -/
def body (tag payload : Bytes) : Bytes :=
  Bytes.toBigEndian lengthField tag.length ++ tag ++ payload

theorem length_body (tag payload : Bytes) :
    (body tag payload).length = lengthField + tag.length + payload.length := by
  simp [body, Nat.add_assoc]

theorem bytes_eq (tag payload : Bytes) :
    bytes tag payload =
      Bytes.toBigEndian lengthField (body tag payload).length ++ body tag payload := by
  rw [bytes, length_body, body]
  simp only [List.append_assoc]

theorem length_bytes (tag payload : Bytes) :
    (bytes tag payload).length = 16 + tag.length + payload.length := by
  rw [bytes_eq, List.length_append, Bytes.length_toBigEndian, length_body]
  simp only [lengthField]
  omega

/-- **Every region has one of three shapes**: too short for the length of a tag,
a tag that does not fit, or a tag and a payload. -/
theorem region_cases (region : Bytes) :
    region.length < lengthField ∨
    (∃ n rest, n < 2 ^ 64 ∧ rest.length < n ∧ region = Bytes.toBigEndian lengthField n ++ rest) ∨
    ∃ tag payload, tag.length < 2 ^ 64 ∧ region = body tag payload := by
  rcases hl : length? region with _ | ⟨n, rest⟩
  · exact Or.inl (length?_eq_none.1 hl)
  · obtain ⟨hn, rfl⟩ := length?_eq_some.1 hl
    rcases hs : Bytes.split? n rest with _ | ⟨tag, payload⟩
    · exact Or.inr (Or.inl ⟨n, rest, hn, Bytes.split?_eq_none.1 hs, rfl⟩)
    · obtain ⟨rfl, rfl⟩ := Bytes.split?_eq_some.1 hs
      exact Or.inr (Or.inr ⟨tag, payload, hn, by simp [body]⟩)

theorem parts_short {region : Bytes} (size : Nat) (h : region.length < lengthField) :
    parts size region = .error (.noTag size) := by
  rw [parts, length?_eq_none.2 h]

theorem parts_overrun {rest : Bytes} {n : Nat} (size : Nat) (hn : n < 2 ^ 64) (h : rest.length < n) :
    parts size (Bytes.toBigEndian lengthField n ++ rest) = .error (.tagOverrun n size) := by
  simp only [parts, length?_append rest hn, Bytes.split?_eq_none.2 h]

theorem parts_body {tag : Bytes} (size : Nat) (payload : Bytes) (h : tag.length < 2 ^ 64) :
    parts size (body tag payload) =
      if Bytes.isAscii tag then .ok (Bytes.toLatin tag, payload) else .error .tagNotAscii := by
  rw [body, List.append_assoc]
  simp only [parts, length?_append _ h, Bytes.split?_append payload rfl]

theorem registry_decode_zero (registry : Registry μ) (tag : String) (payload : Bytes) :
    registry.decode tag payload 0 =
      match registry.find? tag with
      | none => .error (.unknownTag tag)
      | some d => d payload := by
  unfold Registry.decode
  cases registry.find? tag <;> simp

/-- **What can be wrong with an open region**, each fault with its cause. A
region has at most one of them. -/
inductive Faulty (registry : Registry μ) : Bytes → CodecError → Prop where
  /-- The region ends inside the length of the tag. -/
  | noTag {region : Bytes} (h : region.length < lengthField) :
    Faulty registry region (.malformedFrame (.noTag region.length))
  /-- The tag is longer than what is left of the region. -/
  | tagOverrun {n : Nat} {rest : Bytes} (hn : n < 2 ^ 64) (h : rest.length < n) :
    Faulty registry (Bytes.toBigEndian lengthField n ++ rest)
      (.malformedFrame (.tagOverrun n (lengthField + rest.length)))
  /-- The tag has a byte above 127. -/
  | tagNotAscii {tag payload : Bytes} (h : Bytes.isAscii tag = false) :
    Faulty registry (body tag payload) (.malformedFrame .tagNotAscii)
  /-- The tag has no decoder. -/
  | unknownTag {tag : String} {payload : Bytes} (ht : Bytes.isAscii (Bytes.ofText tag) = true)
      (h : registry.find? tag = none) :
    Faulty registry (body (Bytes.ofText tag) payload) (.unknownTag tag)
  /-- The decoder fails; its error is the error. -/
  | decoder {tag : String} {payload : Bytes} {d : Decoder μ} {cause : CodecError}
      (ht : Bytes.isAscii (Bytes.ofText tag) = true) (hd : registry.find? tag = some d)
      (h : d payload = .error cause) :
    Faulty registry (body (Bytes.ofText tag) payload) cause
  /-- The decoder used fewer bytes than there are, or claims more. -/
  | payloadMismatch {tag : String} {payload : Bytes} {d : Decoder μ} {m : μ} {used : Nat}
      (ht : Bytes.isAscii (Bytes.ofText tag) = true) (hd : registry.find? tag = some d)
      (h : d payload = .ok (m, used)) (hu : used ≠ payload.length) :
    Faulty registry (body (Bytes.ofText tag) payload)
      (.malformedFrame (.payloadMismatch tag used payload.length))

theorem decode_body (registry : Registry μ) {tag : String} {payload : Bytes}
    (ht : Bytes.isAscii (Bytes.ofText tag) = true)
    (hr : (body (Bytes.ofText tag) payload).length < 2 ^ 64) :
    decode registry (body (Bytes.ofText tag) payload).length (body (Bytes.ofText tag) payload) =
      Outcome.bind
        (match registry.find? tag with
          | none => .error (.unknownTag tag)
          | some d => d payload)
        fun (message, used) =>
          if used = payload.length then
            .ok ⟨tag, message, lengthField + (body (Bytes.ofText tag) payload).length⟩
          else .error (.malformedFrame (.payloadMismatch tag used payload.length)) := by
  have hl : (Bytes.ofText tag).length < 2 ^ 64 := by
    rw [length_body] at hr
    omega
  rw [← registry_decode_zero, decode, parts_body _ payload hl, if_pos ht, Bytes.toLatin_ofText ht]

theorem exists_text {tag : Bytes} (h : Bytes.isAscii tag = true) :
    ∃ t : String, Bytes.ofText t = tag ∧ Bytes.isAscii (Bytes.ofText t) = true :=
  ⟨Bytes.toLatin tag, Bytes.ofText_toLatin h, by rwa [Bytes.ofText_toLatin h]⟩

/-- A region that is a tag and a payload which the tag's decoder reads to its
last byte, as the message `m`. -/
def Holds (registry : Registry μ) (tag : String) (m : μ) (region : Bytes) : Prop :=
  ∃ payload d, Bytes.isAscii (Bytes.ofText tag) = true ∧ region = body (Bytes.ofText tag) payload ∧
    registry.find? tag = some d ∧ d payload = .ok (m, payload.length)

theorem decode_of_holds {registry : Registry μ} {tag : String} {m : μ} {region : Bytes}
    (hr : region.length < 2 ^ 64) (h : Holds registry tag m region) :
    decode registry region.length region = .ok ⟨tag, m, lengthField + region.length⟩ := by
  obtain ⟨payload, d, ht, rfl, hd, ho⟩ := h
  rw [decode_body registry ht hr, hd]
  simp only [ho, Outcome.bind, if_true]

theorem decode_of_faulty {registry : Registry μ} {region : Bytes} {cause : CodecError}
    (hr : region.length < 2 ^ 64) (h : Faulty registry region cause) :
    decode registry region.length region = .error cause := by
  cases h with
  | noTag hs => rw [decode, parts_short _ hs]
  | tagOverrun hn hlt =>
    rw [decode, parts_overrun _ hn hlt, List.length_append, Bytes.length_toBigEndian]
  | @tagNotAscii tag payload ha =>
    rw [decode, parts_body _ payload (by rw [length_body] at hr; omega), if_neg (by simp [ha])]
  | unknownTag ht hd =>
    rw [decode_body registry ht hr, hd]
    rfl
  | decoder ht hd ho =>
    rw [decode_body registry ht hr, hd]
    simp only [ho, Outcome.bind]
  | payloadMismatch ht hd ho hu =>
    rw [decode_body registry ht hr, hd]
    simp only [ho, Outcome.bind, if_neg hu]

/-- **A region holds a message, is at fault, or makes a decoder abort.** -/
theorem holds_or_faulty (registry : Registry μ) {region : Bytes} (hr : region.length < 2 ^ 64) :
    (∃ tag m, Holds registry tag m region) ∨ (∃ cause, Faulty registry region cause) ∨
    ∃ tag d payload reason, registry.find? tag = some d ∧ d payload = .abort reason ∧
      decode registry region.length region = .abort reason := by
  rcases region_cases region with hs | ⟨n, rest, hn, hlt, rfl⟩ | ⟨tag, payload, hl, rfl⟩
  · exact Or.inr (Or.inl ⟨_, .noTag hs⟩)
  · exact Or.inr (Or.inl ⟨_, .tagOverrun hn hlt⟩)
  · by_cases ha : Bytes.isAscii tag = true
    · obtain ⟨t, rfl, ht⟩ := exists_text ha
      rcases hd : registry.find? t with _ | d
      · exact Or.inr (Or.inl ⟨_, .unknownTag ht hd⟩)
      · rcases ho : d payload with ⟨m, used⟩ | cause | reason
        · by_cases hu : used = payload.length
          · subst hu
            exact Or.inl ⟨t, m, payload, d, ht, rfl, hd, ho⟩
          · exact Or.inr (Or.inl ⟨_, .payloadMismatch ht hd ho hu⟩)
        · exact Or.inr (Or.inl ⟨cause, .decoder ht hd ho⟩)
        · refine Or.inr (Or.inr ⟨t, d, payload, reason, hd, ho, ?_⟩)
          rw [decode_body registry ht hr, hd]
          simp only [ho, Outcome.bind]
    · exact Or.inr (Or.inl ⟨_, .tagNotAscii (by simpa using ha)⟩)

theorem decode_eq_ok {registry : Registry μ} {region : Bytes} (hr : region.length < 2 ^ 64)
    {h : Head μ} :
    decode registry region.length region = .ok h ↔
      Holds registry h.tag h.message region ∧ h.length = lengthField + region.length := by
  constructor
  · intro he
    rcases holds_or_faulty registry hr with ⟨tag, m, hm⟩ | ⟨cause, hc⟩ | ⟨_, _, _, _, _, _, ha⟩
    · rw [decode_of_holds hr hm] at he
      cases he
      exact ⟨hm, rfl⟩
    · rw [decode_of_faulty hr hc] at he
      cases he
    · rw [ha] at he
      cases he
  · rintro ⟨hm, hl⟩
    rw [decode_of_holds hr hm, ← hl]

theorem decode_eq_error {registry : Registry μ} {region : Bytes} (hr : region.length < 2 ^ 64)
    {cause : CodecError} :
    decode registry region.length region = .error cause ↔ Faulty registry region cause := by
  constructor
  · intro he
    rcases holds_or_faulty registry hr with ⟨tag, m, hm⟩ | ⟨cause', hc⟩ | ⟨_, _, _, _, _, _, ha⟩
    · rw [decode_of_holds hr hm] at he
      cases he
    · rw [decode_of_faulty hr hc] at he
      cases he
      exact hc
    · rw [ha] at he
      cases he
  · exact decode_of_faulty hr

theorem decode_ne_abort {registry : Registry μ} (ht : registry.Total) {region : Bytes}
    (hr : region.length < 2 ^ 64) (reason : Option String) :
    decode registry region.length region ≠ .abort reason := by
  rcases holds_or_faulty registry hr with ⟨tag, m, hm⟩ | ⟨cause, hc⟩ | ⟨tag, d, payload, r, hd, ho, _⟩
  · simp [decode_of_holds hr hm]
  · simp [decode_of_faulty hr hc]
  · exact absurd ho (ht tag d hd payload r)

/-! ### The frame at the front -/

/-- `region` is open at the front of `s`: its length, and then the region. -/
def Opens (region s : Bytes) : Prop :=
  region.length < 2 ^ 64 ∧ Bytes.toBigEndian lengthField region.length ++ region <+: s

/-- The bytes end inside the length field, or before as many bytes as it says. -/
def Incomplete (s : Bytes) : Prop :=
  s.length < lengthField ∨ s.length - lengthField < Bytes.ofBigEndian (s.take lengthField)

theorem incomplete_append {n : Nat} {rest : Bytes} (hn : n < 2 ^ 64) :
    Incomplete (Bytes.toBigEndian lengthField n ++ rest) ↔ rest.length < n := by
  rw [Incomplete, List.take_left' (Bytes.length_toBigEndian lengthField n), ofBigEndian_length hn,
    List.length_append, Bytes.length_toBigEndian]
  omega

theorem head_of_opens (registry : Registry μ) {region s : Bytes} (h : Opens region s) :
    head registry s = (decode registry region.length region).map some := by
  obtain ⟨hr, rest, rfl⟩ := h
  rw [List.append_assoc]
  simp only [head, length?_append _ hr, Bytes.split?_append rest rfl]

theorem head_of_incomplete (registry : Registry μ) {s : Bytes} (h : Incomplete s) :
    head registry s = .ok none := by
  rcases hl : length? s with _ | ⟨n, rest⟩
  · simp only [head, hl]
  · obtain ⟨hn, rfl⟩ := length?_eq_some.1 hl
    have hlt := (incomplete_append hn).1 h
    simp only [head, hl, Bytes.split?_eq_none.2 hlt]

/-- **Some bytes end too early, or a region is open at their front.** -/
theorem incomplete_or_opens (s : Bytes) : Incomplete s ∨ ∃ region, Opens region s := by
  rcases hl : length? s with _ | ⟨n, rest⟩
  · exact Or.inl (Or.inl (length?_eq_none.1 hl))
  · obtain ⟨hn, rfl⟩ := length?_eq_some.1 hl
    rcases hs : Bytes.split? n rest with _ | ⟨region, rest'⟩
    · exact Or.inl ((incomplete_append hn).2 (Bytes.split?_eq_none.1 hs))
    · obtain ⟨rfl, rfl⟩ := Bytes.split?_eq_some.1 hs
      exact Or.inr ⟨region, hn, rest', by simp⟩

/-- Bytes that are cut inside an open region are incomplete. -/
theorem incomplete_take {region s : Bytes} {n : Nat} (h : Opens region s)
    (hn : n < lengthField + region.length) : Incomplete (s.take n) := by
  obtain ⟨hr, rest, rfl⟩ := h
  by_cases h8 : n < lengthField
  · exact Or.inl (by rw [List.length_take]; omega)
  · rw [List.append_assoc, List.take_append, List.take_of_length_le (by simp; omega),
      incomplete_append hr, List.length_take, Bytes.length_toBigEndian]
    omega

theorem head_eq_none {registry : Registry μ} {s : Bytes} :
    head registry s = .ok none ↔ Incomplete s := by
  constructor
  · intro h
    rcases incomplete_or_opens s with hi | ⟨region, hr⟩
    · exact hi
    · rw [head_of_opens registry hr] at h
      cases hd : decode registry region.length region <;> simp [hd] at h
  · exact head_of_incomplete registry

theorem head_eq_some {registry : Registry μ} {s : Bytes} {h : Head μ} :
    head registry s = .ok (some h) ↔
      ∃ region, Opens region s ∧ Holds registry h.tag h.message region ∧
        h.length = lengthField + region.length := by
  constructor
  · intro he
    rcases incomplete_or_opens s with hi | ⟨region, hr⟩
    · rw [head_of_incomplete registry hi] at he
      cases he
    · rw [head_of_opens registry hr] at he
      refine ⟨region, hr, (decode_eq_ok hr.1).1 ?_⟩
      cases hd : decode registry region.length region <;> simp_all
  · rintro ⟨region, hr, hm⟩
    rw [head_of_opens registry hr, (decode_eq_ok hr.1).2 hm, Outcome.map_ok]

theorem length_of_head {registry : Registry μ} {s : Bytes} {h : Head μ}
    (he : head registry s = .ok (some h)) : 16 ≤ h.length ∧ h.length ≤ s.length := by
  obtain ⟨_, ⟨-, rest, rfl⟩, ⟨payload, d, -, rfl, -, -⟩, hl⟩ := head_eq_some.1 he
  have hw : lengthField = 8 := rfl
  simp only [List.length_append, Bytes.length_toBigEndian, length_body] at hl ⊢
  omega

theorem head_eq_error {registry : Registry μ} {s : Bytes} {cause : CodecError} :
    head registry s = .error cause ↔ ∃ region, Opens region s ∧ Faulty registry region cause := by
  constructor
  · intro he
    rcases incomplete_or_opens s with hi | ⟨region, hr⟩
    · rw [head_of_incomplete registry hi] at he
      cases he
    · rw [head_of_opens registry hr] at he
      refine ⟨region, hr, (decode_eq_error hr.1).1 ?_⟩
      cases hd : decode registry region.length region <;> simp_all
  · rintro ⟨region, hr, hm⟩
    rw [head_of_opens registry hr, (decode_eq_error hr.1).2 hm, Outcome.map_error]

theorem head_ne_abort {registry : Registry μ} (ht : registry.Total) (s : Bytes)
    (reason : Option String) : head registry s ≠ .abort reason := by
  rcases incomplete_or_opens s with hi | ⟨region, hr⟩
  · simp [head_of_incomplete registry hi]
  · rw [head_of_opens registry hr]
    have hn := decode_ne_abort ht hr.1 reason
    cases hd : decode registry region.length region <;> simp_all

/-! ### The same frame through reads

Each length, the region and the tag are reads of their own, and every one of
them can fail and can abort. -/

/-- The message in a region. A read that fails is a fault of the frame. -/
def walkRegion (registry : Registry μ) (region : Bytes) : Outcome μ :=
  match readBytes region 0 lengthField with
  | .error _ => .error (.malformedFrame (.noTag region.length))
  | .abort reason => .abort reason
  | .ok field =>
    match readBytes region lengthField (Bytes.ofBigEndian field) with
    | .error _ => .error (.malformedFrame (.tagOverrun (Bytes.ofBigEndian field) region.length))
    | .abort reason => .abort reason
    | .ok tag =>
      if Bytes.isAscii tag then
        let payload := region.drop (lengthField + Bytes.ofBigEndian field)
        (registry.decode (Bytes.toLatin tag) payload 0).bind fun (message, used) =>
          if used = payload.length then .ok message
          else .error
            (.malformedFrame (.payloadMismatch (Bytes.toLatin tag) used payload.length))
      else .error (.malformedFrame .tagNotAscii)

/-- The frame at an offset. A length field that is cut off is the end of the
frames; so is a size beyond the bytes that are left. -/
def walk (registry : Registry μ) (datagram : Bytes) (offset : Nat) : Outcome (Option (μ × Nat)) :=
  match readBytes datagram offset lengthField with
  | .error cause => if cause.isTruncation then .ok none else .error cause
  | .abort reason => .abort reason
  | .ok field =>
    if Bytes.ofBigEndian field ≤ datagram.length - (offset + lengthField) then
      (readBytes datagram (offset + lengthField) (Bytes.ofBigEndian field)).bind fun region =>
        (walkRegion registry region).map fun message =>
          some (message, offset + lengthField + region.length)
    else .ok none

theorem readBytes_append (front s rest : Bytes) :
    readBytes (front ++ s ++ rest) front.length s.length = .ok s :=
  readBytes_eq_ok.2 ⟨by simp, by simp⟩

theorem readBytes_truncated {buffer : Bytes} {offset length : Nat}
    (h : buffer.length - offset < length) :
    readBytes buffer offset length = .error (.truncated length (buffer.length - offset)) := by
  rw [readBytes, Bytes.split?_eq_none.2 (by rwa [List.length_drop])]

/-- The length at the start of a region. -/
theorem readBytes_length (n : Nat) (rest : Bytes) :
    readBytes (Bytes.toBigEndian lengthField n ++ rest) 0 lengthField =
      .ok (Bytes.toBigEndian lengthField n) := by
  have h := readBytes_append [] (Bytes.toBigEndian lengthField n) rest
  rwa [Bytes.length_toBigEndian] at h

theorem walkRegion_eq (registry : Registry μ) (region : Bytes) :
    walkRegion registry region = (decode registry region.length region).map (·.message) := by
  rcases region_cases region with hs | ⟨n, rest, hn, hlt, rfl⟩ | ⟨tag, payload, hl, rfl⟩
  · rw [walkRegion, readBytes_truncated (by omega), decode, parts_short _ hs]
    rfl
  · have ht : readBytes (Bytes.toBigEndian lengthField n ++ rest) lengthField n =
        .error (.truncated n rest.length) := by
      rw [readBytes_truncated (by simpa using hlt)]
      simp
    simp only [walkRegion, readBytes_length, ofBigEndian_length hn, ht, decode,
      parts_overrun _ hn hlt, Outcome.map_error]
  · have hf : readBytes (body tag payload) 0 lengthField =
        .ok (Bytes.toBigEndian lengthField tag.length) := by
      rw [body, List.append_assoc, readBytes_length]
    have ht : readBytes (body tag payload) lengthField tag.length = .ok tag := by
      have h := readBytes_append (Bytes.toBigEndian lengthField tag.length) tag payload
      rwa [Bytes.length_toBigEndian] at h
    have hp : (body tag payload).drop (lengthField + tag.length) = payload := by
      rw [body, List.drop_left' (by simp)]
    simp only [walkRegion, hf, ofBigEndian_length hl, ht, hp, decode, parts_body _ payload hl]
    by_cases ha : Bytes.isAscii tag = true
    · rw [if_pos ha, if_pos ha]
      rcases ho : registry.decode (Bytes.toLatin tag) payload 0 with ⟨m, used⟩ | e | r
      · simp only [ho, Outcome.bind]
        split <;> rfl
      · simp only [ho, Outcome.bind, Outcome.map_error]
      · simp only [ho, Outcome.bind, Outcome.map_abort]
    · rw [if_neg ha, if_neg ha, Outcome.map_error]

/-- **Reading a frame field by field gives the parser's answer.** -/
theorem walk_eq_parse (registry : Registry μ) (datagram : Bytes) (offset : Nat) :
    walk registry datagram offset = parse registry datagram offset := by
  rcases incomplete_or_opens (datagram.drop offset) with hi | ⟨region, hr⟩
  · rw [parse, head_of_incomplete registry hi]
    by_cases hs : datagram.length - offset < lengthField
    · rw [walk, readBytes_truncated hs]
      rfl
    · have hf : readBytes datagram offset lengthField =
          .ok ((datagram.drop offset).take lengthField) :=
        readBytes_eq_ok.2 ⟨by simp only [lengthField] at hs ⊢; omega, rfl⟩
      have hlt : ¬ Bytes.ofBigEndian ((datagram.drop offset).take lengthField) ≤
          datagram.length - (offset + lengthField) := by
        rcases hi with hi | hi
        · exact absurd (List.length_drop ▸ hi) hs
        · rw [List.length_drop] at hi
          omega
      simp only [walk, hf, if_neg hlt, Outcome.map_ok, Option.map_none]
  · rw [parse, head_of_opens registry hr]
    obtain ⟨hlt, rest, he⟩ := hr
    have hlen : lengthField + region.length + rest.length = datagram.length - offset := by
      rw [← List.length_drop, ← he]
      simp only [List.length_append, Bytes.length_toBigEndian]
    have hpos : lengthField = 8 := rfl
    have hf : readBytes datagram offset lengthField =
        .ok (Bytes.toBigEndian lengthField region.length) := by
      refine readBytes_eq_ok.2 ⟨by omega, ?_⟩
      rw [← he, List.append_assoc, List.take_left' (Bytes.length_toBigEndian ..)]
    have hr : readBytes datagram (offset + lengthField) region.length = .ok region := by
      refine readBytes_eq_ok.2 ⟨by omega, ?_⟩
      rw [← List.drop_drop, ← he, List.append_assoc, List.drop_left' (Bytes.length_toBigEndian ..),
        List.take_left' rfl]
    have hle : region.length ≤ datagram.length - (offset + lengthField) := by omega
    simp only [walk, hf, ofBigEndian_length hlt, if_pos hle, hr, Outcome.bind, walkRegion_eq]
    rcases hd : decode registry region.length region with h | e | r
    · obtain ⟨-, hl⟩ := (decode_eq_ok hlt).1 hd
      simp only [Outcome.map_ok, Option.map_some, hl, Nat.add_assoc]
    · simp only [Outcome.map_error]
    · simp only [Outcome.map_abort]

/-! ### The frame at an offset -/

theorem parse_eq_none {registry : Registry μ} {datagram : Bytes} {offset : Nat} :
    parse registry datagram offset = .ok none ↔ Incomplete (datagram.drop offset) := by
  rw [← @head_eq_none _ registry, parse]
  rcases head registry (datagram.drop offset) with (_ | h) | e | r <;> simp

theorem head_of_parse {registry : Registry μ} {datagram : Bytes} {offset next : Nat} {m : μ}
    (h : parse registry datagram offset = .ok (some (m, next))) :
    ∃ g, head registry (datagram.drop offset) = .ok (some g) ∧ g.message = m ∧
      offset + g.length = next := by
  rw [parse] at h
  rcases hh : head registry (datagram.drop offset) with (_ | g) | e | r <;> simp [hh] at h
  exact ⟨g, rfl, h⟩

theorem parse_eq_some {registry : Registry μ} {datagram : Bytes} {offset next : Nat} {m : μ} :
    parse registry datagram offset = .ok (some (m, next)) ↔
      ∃ tag region, Opens region (datagram.drop offset) ∧ Holds registry tag m region ∧
        next = offset + (lengthField + region.length) := by
  constructor
  · intro h
    obtain ⟨g, hh, rfl, rfl⟩ := head_of_parse h
    obtain ⟨region, hr, hm, hl⟩ := head_eq_some.1 hh
    exact ⟨g.tag, region, hr, hm, by rw [hl]⟩
  · rintro ⟨tag, region, hr, hm, rfl⟩
    have hh : head registry (datagram.drop offset) =
        .ok (some ⟨tag, m, lengthField + region.length⟩) := head_eq_some.2 ⟨region, hr, hm, rfl⟩
    simp [parse, hh]

theorem parse_eq_error {registry : Registry μ} {datagram : Bytes} {offset : Nat}
    {cause : CodecError} :
    parse registry datagram offset = .error cause ↔
      ∃ region, Opens region (datagram.drop offset) ∧ Faulty registry region cause := by
  rw [← head_eq_error, parse]
  rcases head registry (datagram.drop offset) with h | e | r <;> simp

theorem parse_ne_abort {registry : Registry μ} (ht : registry.Total) (datagram : Bytes)
    (offset : Nat) (reason : Option String) : parse registry datagram offset ≠ .abort reason := by
  have hn := head_ne_abort ht (datagram.drop offset) reason
  rw [parse]
  rcases hh : head registry (datagram.drop offset) with h | e | r <;> simp_all

theorem opens_body {tag payload s : Bytes} :
    Opens (body tag payload) s ↔
      lengthField + tag.length + payload.length < 2 ^ 64 ∧ bytes tag payload <+: s := by
  rw [Opens, ← bytes_eq, length_body]

/-- **What the parser answers, in full**, with decoders that do not abort: a message exactly
for a whole frame that the tag's decoder reads to its last byte, nothing exactly when the
bytes end too early, and an error exactly for an open region at fault. So an error about
missing bytes is a decoder's own. -/
theorem parse_grammar (registry : Registry μ) (ht : registry.Total) (datagram : Bytes)
    (offset : Nat) :
    walk registry datagram offset = parse registry datagram offset ∧
    (∀ reason, parse registry datagram offset ≠ .abort reason) ∧
    (∀ m next, parse registry datagram offset = .ok (some (m, next)) ↔
      ∃ (tag : String) (payload : Bytes) (d : Decoder μ),
        Bytes.isAscii (Bytes.ofText tag) = true ∧
        8 + (Bytes.ofText tag).length + payload.length < 2 ^ 64 ∧
        bytes (Bytes.ofText tag) payload <+: datagram.drop offset ∧
        registry.find? tag = some d ∧ d payload = .ok (m, payload.length) ∧
        next = offset + 16 + (Bytes.ofText tag).length + payload.length) ∧
    (parse registry datagram offset = .ok none ↔
      datagram.length - offset < 8 ∨
      datagram.length - offset - 8 < Bytes.ofBigEndian ((datagram.drop offset).take 8)) ∧
    (∀ cause, parse registry datagram offset = .error cause ↔
      ∃ region, Opens region (datagram.drop offset) ∧ Faulty registry region cause) ∧
    (∀ needed remaining, parse registry datagram offset = .error (.truncated needed remaining) ↔
      ∃ (tag : String) (payload : Bytes) (d : Decoder μ),
        Bytes.isAscii (Bytes.ofText tag) = true ∧
        8 + (Bytes.ofText tag).length + payload.length < 2 ^ 64 ∧
        bytes (Bytes.ofText tag) payload <+: datagram.drop offset ∧
        registry.find? tag = some d ∧ d payload = .error (.truncated needed remaining)) := by
  refine ⟨walk_eq_parse registry datagram offset, parse_ne_abort ht datagram offset,
    fun m next => ?_, ?_, fun cause => parse_eq_error, fun needed remaining => ?_⟩
  · rw [parse_eq_some]
    constructor
    · rintro ⟨tag, _, hr, ⟨payload, d, ha, rfl, hd, ho⟩, rfl⟩
      obtain ⟨hl, hp⟩ := opens_body.1 hr
      refine ⟨tag, payload, d, ha, hl, hp, hd, ho, ?_⟩
      rw [length_body]
      simp only [lengthField]
      omega
    · rintro ⟨tag, payload, d, ha, hl, hp, hd, ho, rfl⟩
      refine ⟨tag, _, opens_body.2 ⟨hl, hp⟩, ⟨payload, d, ha, rfl, hd, ho⟩, ?_⟩
      rw [length_body]
      simp only [lengthField]
      omega
  · rw [parse_eq_none, Incomplete, List.length_drop]
    rfl
  · rw [parse_eq_error]
    constructor
    · rintro ⟨region, hr, hf⟩
      cases hf with
      | @decoder tag payload d _ ha hd ho =>
        obtain ⟨hl, hp⟩ := opens_body.1 hr
        exact ⟨tag, payload, d, ha, hl, hp, hd, ho⟩
    · rintro ⟨tag, payload, d, ha, hl, hp, hd, ho⟩
      exact ⟨_, opens_body.2 ⟨hl, hp⟩, .decoder ha hd ho⟩

/-- A registry of one decoder, which always misses bytes. -/
def starved : Registry Unit := Registry.empty.register "T" fun _ => .error (.truncated 3 1)

theorem starved_total : starved.Total := by
  intro tag d hd s reason
  rw [starved, Registry.find?_register] at hd
  split at hd
  · cases hd
    simp
  · cases hd

/-- The decoder's complaint about missing bytes is the parser's, at an offset and
with bytes behind the frame. -/
theorem parse_grammar_starved :
    starved.Total ∧
      parse starved (0 :: bytes (Bytes.ofText "T") [5] ++ [9]) 1 = .error (.truncated 3 1) := by
  refine ⟨starved_total, ((parse_grammar starved starved_total _ 1).2.2.2.2.2 3 1).2 ?_⟩
  exact ⟨"T", [5], _, by decide, by decide, ⟨[9], by simp⟩, Registry.find?_register .., rfl⟩

end Frame
end Tagram
