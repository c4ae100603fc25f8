/-
# Writing what was read is a normal form

An envelope can be spelled in many ways: with blanks, with escapes, with its
fields in any order, with a key that comes twice. Reading keeps none of this.
What it yields has the keys of every object in ascending order, each once, nests
no deeper than the reader allows, and has no field that is named like the
message id (`Json.fitting`, `Settled`). These are just the envelopes that read
back from their own text, doubles apart, so the text of what was read is the same
for all spellings and is left as it is when it is read and written again.

The text may have braces and quotes where the spelling had escapes, so the scan
that counts every brace may have found the end of the spelling and still lose its
way in the text. The scan that minds quotes does not.

Key definitions: `Json.Fits`, `Settled`.
Key theorems: `Json.Fields.sorted_insert`, `Json.fitting`, `settled_of_read`,
`decode_normal`.
-/
import Tagram.Proofs.EnvelopeRoundTrip

namespace Tagram

namespace Json

/-! ### Fields that are set -/

namespace Fields

variable {key : String} {value : Json} {fields : List (String × Json)}

theorem sorted_nil : Sorted [] := trivial

theorem mem_insert {e : String × Json} (h : e ∈ insert key value fields) :
    e = (key, value) ∨ e ∈ fields := by
  induction fields with
  | nil => exact .inl (List.mem_singleton.1 h)
  | cons f fields ih =>
    obtain ⟨k, v⟩ := f
    unfold insert at h
    split at h
    · exact List.mem_cons.1 h
    · rcases List.mem_cons.1 h with h | h
      · exact .inl h
      · exact .inr (List.mem_cons_of_mem _ h)
    · rcases List.mem_cons.1 h with h | h
      · exact .inr (h ▸ List.mem_cons_self)
      · exact (ih h).imp_right (List.mem_cons_of_mem _)

/-- **Setting a field keeps the keys in ascending order**, each once. -/
theorem sorted_insert (key : String) (value : Json) (h : Sorted fields) :
    Sorted (insert key value fields) := by
  induction fields with
  | nil => exact ⟨List.forall_mem_nil _, sorted_nil⟩
  | cons f fields ih =>
    obtain ⟨k, v⟩ := f
    obtain ⟨hfirst, hsorted⟩ := h
    unfold insert
    split
    · rename_i hlt
      have hlt : key < k := compare_lt_iff_lt.1 hlt
      have hall : ∀ e ∈ (k, v) :: fields, key < e.1 :=
        List.forall_mem_cons.2 ⟨hlt, fun e he => lt_trans hlt (hfirst e he)⟩
      exact ⟨hall, hfirst, hsorted⟩
    · rename_i heq
      obtain rfl : key = k := compare_eq_iff_eq.1 heq
      exact ⟨hfirst, hsorted⟩
    · rename_i hgt
      have hgt : k < key := compare_gt_iff_gt.1 hgt
      refine ⟨fun e he => ?_, ih hsorted⟩
      rcases mem_insert he with rfl | he
      · exact hgt
      · exact hfirst e he

theorem foldl_insert_spec {entries done : List (String × Json)} (hdone : Sorted done) :
    Sorted (entries.foldl (fun fields e => insert e.1 e.2 fields) done) ∧
      ∀ e ∈ entries.foldl (fun fields e => insert e.1 e.2 fields) done, e ∈ entries ∨ e ∈ done := by
  induction entries generalizing done with
  | nil => exact ⟨hdone, fun e he => .inr he⟩
  | cons f entries ih =>
    obtain ⟨hsorted, hmem⟩ := ih (sorted_insert f.1 f.2 hdone)
    refine ⟨hsorted, fun e he => ?_⟩
    rcases hmem e he with he | he
    · exact .inl (List.mem_cons_of_mem f he)
    · rcases mem_insert he with rfl | he
      · exact .inl List.mem_cons_self
      · exact .inr he

theorem sorted_ofList (entries : List (String × Json)) : Sorted (ofList entries) :=
  (foldl_insert_spec sorted_nil).1

theorem mem_of_mem_ofList {entries : List (String × Json)} {e : String × Json}
    (h : e ∈ ofList entries) : e ∈ entries :=
  ((foldl_insert_spec sorted_nil).2 e h).resolve_right List.not_mem_nil

end Fields

/-! ### What a reader yields -/

/-- Every object in the value has its keys in ascending order, and no more than `room`
brackets are open at once. -/
structure Fits (room : Nat) (v : Json) : Prop where
  ordered : v.Ordered
  depth_le : v.depth ≤ room

theorem depthOfItems_le {room : Nat} {items : List Json} (h : ∀ v ∈ items, v.depth ≤ room) :
    depthOfItems items ≤ room := by
  induction items with
  | nil => exact Nat.zero_le _
  | cons v items ih =>
    obtain ⟨hv, hitems⟩ := List.forall_mem_cons.1 h
    exact max_le hv (ih hitems)

theorem depthOfFields_le {room : Nat} {fields : List (String × Json)}
    (h : ∀ e ∈ fields, e.2.depth ≤ room) : depthOfFields fields ≤ room := by
  induction fields with
  | nil => exact Nat.zero_le _
  | cons e fields ih =>
    obtain ⟨he, hfields⟩ := List.forall_mem_cons.1 h
    exact max_le he (ih hfields)

namespace Fits

variable {room : Nat}

theorem of_scalar {v : Json} (hparts : v.parts = [v]) (hascending : v.Ascending)
    (hdepth : v.depth = 0) : v.Fits room where
  ordered p hp := by
    rw [hparts, List.mem_singleton] at hp
    rwa [hp]
  depth_le := hdepth ▸ Nat.zero_le _

theorem array {items : List Json} (h : ∀ v ∈ items, v.Fits room) :
    (array items).Fits (room + 1) where
  ordered := forall_parts_array.2 ⟨trivial, fun v hv => (h v hv).ordered⟩
  depth_le := Nat.succ_le_succ (depthOfItems_le fun v hv => (h v hv).depth_le)

theorem object {fields : List (String × Json)} (hsorted : Fields.Sorted fields)
    (h : ∀ e ∈ fields, e.2.Fits room) : (object fields).Fits (room + 1) where
  ordered := forall_parts_object.2 ⟨hsorted, fun e he => (h e he).ordered⟩
  depth_le := Nat.succ_le_succ (depthOfFields_le fun e he => (h e he).depth_le)

end Fits

theorem fits_readWord {room : Nat} {value v : Json} {word s rest : Bytes} (hvalue : value.Fits room)
    (h : readWord value word s = .ok (v, rest)) : v.Fits room := by
  induction word generalizing s with
  | nil =>
    obtain ⟨rfl, -⟩ := Prod.mk.inj (Except.ok.inj h)
    exact hvalue
  | cons w word ih =>
    cases s with
    | nil => cases h
    | cons b s =>
      rw [readWord] at h
      split_ifs at h
      exact ih h

/-- What is read with so much fuel fits the room that there is. -/
structure Fitting (fuel : Nat) : Prop where
  value : ∀ {room s v rest}, readValue fuel room s = .ok (v, rest) → v.Fits room
  items : ∀ {room first s items rest}, readItems fuel room first s = .ok (items, rest) →
    ∀ v ∈ items, v.Fits room
  fields : ∀ {room first s fields rest}, readFields fuel room first s = .ok (fields, rest) →
    ∀ e ∈ fields, e.2.Fits room

section

variable {fuel room : Nat} {first : Bool} {s rest : Bytes}

theorem fits_value (ih : Fitting fuel) {v : Json}
    (h : readValue (fuel + 1) room s = .ok (v, rest)) : v.Fits room := by
  rw [readValue] at h
  split at h
  · cases h
  · refine fits_readWord ?_ h
    exact .of_scalar rfl trivial rfl
  · refine fits_readWord ?_ h
    exact .of_scalar rfl trivial rfl
  · refine fits_readWord ?_ h
    exact .of_scalar rfl trivial rfl
  · obtain ⟨t, later, -, heq⟩ := map_eq_ok h
    cases heq
    exact .of_scalar rfl trivial rfl
  · -- An array takes one bracket of the room, and its items fit what is left.
    split_ifs at h with hroom
    obtain ⟨items, later, hread, heq⟩ := map_eq_ok h
    cases heq
    have hfits := Fits.array (ih.items hread)
    rwa [Nat.sub_add_cancel (Nat.pos_of_ne_zero hroom)] at hfits
  · -- So does an object, which keeps the last of the fields with one key.
    split_ifs at h with hroom
    obtain ⟨fields, later, hread, heq⟩ := map_eq_ok h
    cases heq
    have hfits := Fits.object (Fields.sorted_ofList fields) fun e he =>
      ih.fields hread e (Fields.mem_of_mem_ofList he)
    rwa [Nat.sub_add_cancel (Nat.pos_of_ne_zero hroom)] at hfits
  · obtain ⟨n, later, -, heq⟩ := map_eq_ok h
    cases heq
    exact .of_scalar rfl trivial rfl
  · split_ifs at h
    obtain ⟨n, later, -, heq⟩ := map_eq_ok h
    cases heq
    exact .of_scalar rfl trivial rfl

theorem fits_items (ih : Fitting fuel) {items : List Json}
    (h : readItems (fuel + 1) room first s = .ok (items, rest)) : ∀ v ∈ items, v.Fits room := by
  rw [readItems] at h
  split at h
  · cases h
  · obtain ⟨rfl, -⟩ := Prod.mk.inj (Except.ok.inj h)
    exact List.forall_mem_nil _
  · split at h
    · cases h
    · rename_i item later hitem
      obtain ⟨items', later', hread, heq⟩ := map_eq_ok h
      cases heq
      exact List.forall_mem_cons.2 ⟨ih.value hitem, ih.items hread⟩

theorem fits_fields (ih : Fitting fuel) {fields : List (String × Json)}
    (h : readFields (fuel + 1) room first s = .ok (fields, rest)) :
    ∀ e ∈ fields, e.2.Fits room := by
  rw [readFields] at h
  split at h
  · cases h
  · obtain ⟨rfl, -⟩ := Prod.mk.inj (Except.ok.inj h)
    exact List.forall_mem_nil _
  · split at h
    · cases h
    · split at h
      · cases h
      · split at h
        · cases h
        · rename_i value later hvalue
          obtain ⟨fields', later', hread, heq⟩ := map_eq_ok h
          cases heq
          exact List.forall_mem_cons.2 ⟨ih.value hvalue, ih.fields hread⟩

end

/-- **Whatever is read has its keys in order and nests no deeper than there is room.** -/
theorem fitting : ∀ fuel, Fitting fuel
  | 0 => by
    refine ⟨?_, ?_, ?_⟩
    · intro room s v rest h
      rw [readValue] at h
      cases h
    · intro room first s items rest h
      rw [readItems] at h
      cases h
    · intro room first s fields rest h
      rw [readFields] at h
      cases h
  | fuel + 1 => ⟨fits_value (fitting fuel), fits_items (fitting fuel), fits_fields (fitting fuel)⟩

end Json

namespace Envelope

/-- The other fields of an envelope as reading leaves them: in ascending order, none of
them named like the message id, and none nested too deep. -/
structure Settled (extra : List (String × Json)) : Prop where
  sorted : Json.Fields.Sorted extra
  unnamed : ∀ e ∈ extra, e.1 ≠ msgIdField
  fits : ∀ e ∈ extra, e.2.Fits (Json.maxDepth - 1)

namespace Settled

variable {extra : List (String × Json)}

theorem nil : Settled [] := ⟨Json.Fields.sorted_nil, List.forall_mem_nil _, List.forall_mem_nil _⟩

theorem insert (h : Settled extra) {key : String} {value : Json} (hkey : key ≠ msgIdField)
    (hvalue : value.Fits (Json.maxDepth - 1)) : Settled (Json.Fields.insert key value extra) where
  sorted := Json.Fields.sorted_insert key value h.sorted
  unnamed e he := by
    rcases Json.Fields.mem_insert he with rfl | he
    · exact hkey
    · exact h.unnamed e he
  fits e he := by
    rcases Json.Fields.mem_insert he with rfl | he
    · exact hvalue
    · exact h.fits e he

/-- Nothing in settled fields is at fault when they are read back. -/
theorem not_faults (h : Settled extra) (c : Json.Cause) : ¬ Faults extra c := by
  rintro (⟨-, hdeep⟩ | ⟨-, hkey⟩)
  · have hle := Json.depthOfFields_le fun e he => (h.fits e he).depth_le
    omega
  · obtain ⟨e, he, hname⟩ := List.mem_map.1 hkey
    exact h.unnamed e he hname

end Settled

theorem settled_readFields (fuel : Nat) {first : Bool} {msgId : Option String}
    {extra : List (String × Json)} {s rest : Bytes} {e : Envelope} (hextra : Settled extra)
    (h : readFields fuel first msgId extra s = .ok (e, rest)) : Settled e.extra := by
  induction fuel generalizing first msgId extra s with
  | zero =>
    rw [readFields] at h
    cases h
  | succ fuel ih =>
    rw [readFields] at h
    split at h
    · cases h
    · split at h
      · cases h
      · obtain ⟨rfl, -⟩ := Prod.mk.inj (Except.ok.inj h)
        exact hextra
    · split at h
      · cases h
      · split_ifs at h with hkey
        · split at h
          · cases h
          · split at h
            · cases h
            · exact ih hextra h
        · split at h
          · cases h
          · split at h
            · cases h
            · rename_i value later hvalue
              exact ih (hextra.insert hkey ((Json.fitting fuel).value hvalue)) h

theorem settled_of_read {text : Bytes} {e : Envelope} (h : read text = .ok e) :
    Settled e.extra := by
  unfold read at h
  rcases hf : readFields (text.length + 1) true none [] (text.drop 1) with fault | ⟨e', rest⟩
  · rw [hf] at h
    cases h
  · rcases hend : Json.readEnd rest with fault | _
    · simp only [hf, bind, Except.bind, hend] at h
      cases h
    · simp only [hf, bind, Except.bind, hend] at h
      obtain rfl : e' = e := Except.ok.inj h
      exact settled_readFields _ .nil hf

/-- Settled fields without a double read back from their own text. -/
theorem read_encode_of_settled {e : Envelope} (h : Settled e.extra)
    (hexact : (Json.object e.extra).Exact) : read (encode e) = .ok e := by
  have hordered : (Json.object e.extra).Ordered := (Json.Fits.object h.sorted h.fits).ordered
  have hread := read_encode hexact hordered
  generalize read (encode e) = result at hread ⊢
  cases hread with
  | ok => rfl
  | error f hfault => exact absurd hfault (h.not_faults f.cause)

/-- **Writing what was read is a normal form.** Let a buffer be decoded by either scan to
an envelope without doubles, in whatever spelling. Then none of its other fields is named
like the message id, and the text that is written for it is decoded to the same envelope
and to its own length by the scan that minds quotes. So decoding and writing it once more
gives the same bytes. -/
theorem decode_normal (scan : Scan) (buffer : Bytes) (e : Envelope) (n : Nat)
    (h : decode scan buffer = .ok (e, n)) (hexact : (Json.object e.extra).Exact) :
    msgIdField ∉ e.extra.map (·.1) ∧
    decode .strings (encode e) = .ok (e, (encode e).length) ∧
    (decode .strings (encode e)).map (fun p => encode p.1) = .ok (encode e) := by
  have hsettled : Settled e.extra := settled_of_read (decode_eq_ok.1 h).2
  have hkey : msgIdField ∉ e.extra.map (·.1) := by
    intro hmem
    obtain ⟨f, hf, hname⟩ := List.mem_map.1 hmem
    exact hsettled.unnamed f hf hname
  have hfind : Scan.strings.find (encode e) = some (encode e).length := by
    have hstrings : Scan.strings = .braces → ∀ t ∈ e.texts, Braceless t := fun h => nomatch h
    have hbody := find_encode hexact hstrings []
    rwa [List.append_nil] at hbody
  have hdecode : decode .strings (encode e) = .ok (e, (encode e).length) := by
    refine decode_eq_ok.2 ⟨hfind, ?_⟩
    rw [List.take_length]
    exact read_encode_of_settled hsettled hexact
  exact ⟨hkey, hdecode, by rw [hdecode]; rfl⟩

/-- Blanks, escapes of a brace, a quote, a backslash and a letter, a character of two
units, keys out of order and one that comes twice. -/
def spelled : Bytes :=
  Bytes.ofText "\x7b \"z\" : [1, 20 ],\"msg_id\":\"\\u007b\\u0022\\u005c\\ud83d\\ude00\"," ++
    Bytes.ofText "\"a\":0,\"a\":\x7b\"y\":null,\"\\u0078\":true\x7d \x7d"

/-- What it says. -/
def meant : Envelope :=
  ⟨"\x7b\"\\😀", [("a", .object [("x", .bool true), ("y", .null)]),
    ("z", .array [.number (.nat 1), .number (.nat 20)])]⟩

/-- The spelling has no brace inside quotes and its text has one, so the scan that counts
every brace finds the end of the former only. -/
theorem decode_normal_spelled :
    decode .braces spelled = .ok (meant, 95) ∧ (Json.object meant.extra).Exact ∧
    decode .strings (encode meant) = .ok (meant, 57) ∧
    Scan.braces.find (encode meant) = none ∧
    (decode .strings (encode meant)).map (fun p => encode p.1) = .ok (encode meant) := by
  have hdecode : decode .braces spelled = .ok (meant, 95) := rfl
  have hexact : (Json.object meant.extra).Exact := by decide
  have hlength : (encode meant).length = 57 := by decide +kernel
  obtain ⟨-, hback, hagain⟩ := decode_normal .braces spelled meant 95 hdecode hexact
  exact ⟨hdecode, hexact, hlength ▸ hback, by decide +kernel, hagain⟩

end Envelope
end Tagram
