/-
# An envelope reads back

Writing an envelope, putting any body behind it and cutting the two apart again
gives the envelope and the body. Three things are needed. The scan has to find
the end of the written text, the text has to be read back, and no field may
take the place of the message id.

The scan is followed over the written text by `Scan.Spans`, for both scans at
once; they differ only at the texts (`spans_writeString`). The scan that minds
quotes gets over every text, because every text can be read back. The scan that
counts every brace gets over the texts that have none.

Reading is `Json.readValue_write` for each field. The fields come in the order of
their keys, so each is put behind those read so far; one that is named like the
message id ends the reading (`Faults`).

Key definitions: `Scan.Spans`, `Envelope.texts`, `Braceless`, `Faults`.
Key theorems: `spans_write`, `read_encode`, `find_encode`, `split_encode`.
-/
import Tagram.Proofs.EnvelopeBounds
import Tagram.Proofs.JsonRoundTrip

namespace Tagram

namespace Json

/-- The texts that a value itself holds: its own, or its keys. -/
def ownTexts : Json → List String
  | .string t => [t]
  | .object fields => fields.map (·.1)
  | _ => []

/-- All texts in a value, keys included. -/
def texts (v : Json) : List String := v.parts.flatMap ownTexts

end Json

namespace Envelope

open Json (write writeString itemsFrom fieldsFrom comma Answers Deep ReadsBack)

/-! ### The way of a scan over a written text -/

/-- Outside of quotes and with a brace open, the scan goes over `s` and is then
where it was, whatever follows. -/
def Scan.Spans (scan : Scan) (s : Bytes) : Prop :=
  ∀ depth rest, scan.Walk .outside (depth + 1) (s ++ rest) .outside (depth + 1) rest

namespace Scan.Spans

variable {scan : Scan} {s t : Bytes} {b : UInt8}

theorem nil : scan.Spans [] := fun _ _ => .stay ..

theorem append (hs : scan.Spans s) (ht : scan.Spans t) : scan.Spans (s ++ t) := by
  intro depth rest
  rw [List.append_assoc]
  exact (hs depth (t ++ rest)).trans (ht depth rest)

theorem cons (hb : plain b = true) (hs : scan.Spans s) : scan.Spans (b :: s) := by
  intro depth rest
  obtain ⟨⟨hquote, hopen⟩, hclose⟩ : (b ≠ 0x22 ∧ b ≠ 0x7B) ∧ b ≠ 0x7D := by
    simpa [plain] using hb
  have hd : depthAfter .outside (depth + 1) b = depth + 1 := by simp [depthAfter, hopen, hclose]
  have hm : scan.after .outside b = .outside := by cases scan <;> simp [Scan.after, hquote]
  refine .step (by rw [hd]; omega) ?_
  rw [hd, hm]
  exact hs depth rest

theorem of_plain (h : s.all plain = true) : scan.Spans s := by
  induction s with
  | nil => exact nil
  | cons b s ih =>
    rw [List.all_cons, Bool.and_eq_true] at h
    exact cons h.1 (ih h.2)

theorem braces (hs : scan.Spans s) : scan.Spans (0x7B :: s ++ [0x7D]) := by
  intro depth rest
  have hafter : ∀ b : UInt8, b ≠ 0x22 → scan.after .outside b = .outside := by
    intro b hb
    cases scan <;> simp [Scan.after, hb]
  have hout : scan.Walk .outside (depth + 2) (0x7D :: rest) .outside (depth + 1) rest :=
    .step (by simp [depthAfter]) (by rw [hafter 0x7D (by decide)]; exact .stay ..)
  rw [List.cons_append, List.cons_append, List.append_assoc]
  refine .step (by simp [depthAfter]) ?_
  rw [hafter 0x7B (by decide)]
  exact (hs (depth + 1) (0x7D :: rest)).trans hout

end Scan.Spans

/-- The scan that minds quotes gets over every text, since the text can be read. -/
theorem spans_strings (t : String) : Scan.strings.Spans (writeString t) := by
  intro depth rest
  have h := Json.passes_readString (Json.readString_escaped t rest) depth
  simpa [writeString] using h

theorem spans_braces {s : Bytes} (h : ∀ b ∈ s, b ≠ 0x7B ∧ b ≠ 0x7D) : Scan.braces.Spans s := by
  induction s with
  | nil => exact .nil
  | cons b s ih =>
    rw [List.forall_mem_cons] at h
    intro depth rest
    have hd : depthAfter .outside (depth + 1) b = depth + 1 := by simp [depthAfter, h.1]
    refine .step (by rw [hd]; omega) ?_
    rw [hd]
    exact ih h.2 depth rest

theorem not_brace_of_mem_escapeByte {b c : UInt8} (hb : b ≠ 0x7B ∧ b ≠ 0x7D)
    (hc : c ∈ Json.escapeByte b) : c ≠ 0x7B ∧ c ≠ 0x7D := by
  obtain ⟨d, hescape, hd⟩ | ⟨-, hescape⟩ | ⟨-, -, -, hescape⟩ := Json.escapeByte_cases b
  · have hletter : d ≠ 0x7B ∧ d ≠ 0x7D := by
      constructor <;> (rintro rfl; cases hd)
    simp only [hescape, List.mem_cons, List.not_mem_nil, or_false] at hc
    rcases hc with rfl | rfl
    · decide
    · exact hletter
  · have hdigit : ∀ {d : UInt8} {n : Nat}, Json.hexValue? d = some n → d ≠ 0x7B ∧ d ≠ 0x7D := by
      intro d n hd
      constructor <;> (rintro rfl; cases hd)
    obtain ⟨d, d', htext, hd, hd'⟩ := Json.exists_toHex b
    simp only [hescape, htext, List.mem_append, List.mem_cons, List.not_mem_nil, or_false] at hc
    rcases hc with (rfl | rfl | rfl | rfl) | rfl | rfl
    · decide
    · decide
    · decide
    · decide
    · exact hdigit hd
    · exact hdigit hd'
  · rw [hescape, List.mem_singleton] at hc
    rwa [hc]

/-- A text without braces. -/
def Braceless (t : String) : Prop := '{' ∉ t.toList ∧ '}' ∉ t.toList

instance : DecidablePred Braceless := fun t =>
  inferInstanceAs (Decidable ('{' ∉ t.toList ∧ '}' ∉ t.toList))

theorem spans_writeString {scan : Scan} {t : String} (h : scan = .braces → Braceless t) :
    scan.Spans (writeString t) := by
  cases scan with
  | strings => exact spans_strings t
  | braces =>
    obtain ⟨hopen, hclose⟩ := h rfl
    refine spans_braces fun c hc => ?_
    simp only [writeString, List.mem_append, List.mem_cons, List.mem_flatMap, List.not_mem_nil,
      or_false] at hc
    rcases hc with (rfl | ⟨b, hb, hc⟩) | rfl
    · decide
    · refine not_brace_of_mem_escapeByte ⟨?_, ?_⟩ hc
      · rintro rfl
        exact hopen (Bytes.mem_of_mem_ofText (by decide) hb)
      · rintro rfl
        exact hclose (Bytes.mem_of_mem_ofText (by decide) hb)
    · decide

section

variable {scan : Scan}

theorem spans_comma (first : Bool) : scan.Spans (comma first) := by
  cases first
  · exact .of_plain rfl
  · exact .nil

theorem spans_itemsFrom {items : List Json} (h : ∀ v ∈ items, scan.Spans (write v)) (first : Bool) :
    scan.Spans (itemsFrom first items) := by
  induction items generalizing first with
  | nil => exact .nil
  | cons v items ih =>
    rw [List.forall_mem_cons] at h
    exact (spans_comma first).append (h.1.append (ih h.2 false))

theorem spans_fieldsFrom {fields : List (String × Json)}
    (h : ∀ e ∈ fields, scan.Spans (writeString e.1) ∧ scan.Spans (write e.2)) (first : Bool) :
    scan.Spans (fieldsFrom first fields) := by
  induction fields generalizing first with
  | nil => exact .nil
  | cons e fields ih =>
    rw [List.forall_mem_cons] at h
    obtain ⟨⟨hkey, hvalue⟩, h⟩ := h
    exact (spans_comma first).append (hkey.append (.cons rfl (hvalue.append (ih h false))))

theorem spans_digits (n : Nat) : scan.Spans (Json.digits n) :=
  .of_plain (List.all_eq_true.2 fun b hb => Json.plain_of_isDigit b (Json.isDigit_of_mem_digits hb))

/-- **A scan that gets over the texts of a value gets over the value.** -/
theorem spans_write {v : Json} (hexact : v.Exact)
    (htexts : ∀ p ∈ v.parts, ∀ t ∈ p.ownTexts, scan.Spans (writeString t)) :
    scan.Spans (write v) := by
  induction v using Json.induct with
  | null => exact .of_plain rfl
  | bool b =>
    cases b
    · exact .of_plain rfl
    · exact .of_plain rfl
  | number n =>
    cases n with
    | nat n =>
      rw [Json.write_nat]
      exact spans_digits n.toNat
    | negSucc n =>
      rw [Json.write_negSucc]
      exact .cons rfl (spans_digits (n.val + 1))
    | float x => cases hexact _ (Json.self_mem_parts _)
  | string t => exact htexts _ (Json.self_mem_parts _) t (List.mem_singleton_self t)
  | array items ih =>
    obtain ⟨-, hexact⟩ := Json.forall_parts_array.1 hexact
    obtain ⟨-, htexts⟩ := Json.forall_parts_array.1 htexts
    rw [write, Json.writeItems_eq]
    exact .append (.cons rfl (spans_itemsFrom (fun v hv => ih v hv (hexact v hv) (htexts v hv)) true))
      (.cons rfl .nil)
  | object fields ih =>
    obtain ⟨-, hexact⟩ := Json.forall_parts_object.1 hexact
    obtain ⟨hkeys, htexts⟩ := Json.forall_parts_object.1 htexts
    rw [write, Json.writeFields_eq]
    refine .braces (spans_fieldsFrom (fun e he => ⟨?_, ?_⟩) true)
    · exact hkeys e.1 (List.mem_map_of_mem he)
    · exact ih e he (hexact e he) (htexts e he)

theorem find_of_spans {s : Bytes} (h : scan.Spans s) (body : Bytes) :
    scan.find (0x7B :: s ++ 0x7D :: body) = some (s.length + 2) := by
  obtain ⟨used, hused, hclose⟩ := (h 0 (0x7D :: body)).close_eq
  obtain rfl : s = used := List.append_cancel_right hused
  rw [List.cons_append, Scan.find, hclose, Scan.close, if_pos (by simp [depthAfter])]
  congr 1
  omega

end

/-! ### Reading the fields -/

theorem readFields_entry (fuel : Nat) (first : Bool) (msgId : Option String)
    (extra : List (String × Json)) {key : String} (hkey : key ≠ msgIdField) (s : Bytes) :
    readFields (fuel + 1) first msgId extra (comma first ++ (writeString key ++ 0x3A :: s)) =
      (Json.readValue fuel (Json.maxDepth - 1) s).bind fun (value, rest) =>
        readFields fuel false msgId (Json.Fields.insert key value extra) rest := by
  have hcolon : Json.readColon (0x3A :: s) = .ok s := rfl
  rw [readFields, Json.nextKey_entry]
  simp only [Json.readString_escaped, if_neg hkey, hcolon]
  cases Json.readValue fuel (Json.maxDepth - 1) s <;> rfl

theorem readFields_duplicate (fuel : Nat) (first : Bool) (id : String)
    (extra : List (String × Json)) (s : Bytes) :
    ∃ f, readFields (fuel + 1) first (some id) extra
        (comma first ++ (writeString msgIdField ++ s)) = .error f ∧
      f.cause = .duplicateField msgIdField := by
  rw [readFields, Json.nextKey_entry]
  simp only [Json.readString_escaped]
  exact ⟨_, rfl, rfl⟩

theorem readFields_msgId (fuel : Nat) (first : Bool) (extra : List (String × Json)) (id : String)
    (s : Bytes) :
    readFields (fuel + 1) first none extra
        (comma first ++ (writeString msgIdField ++ 0x3A :: (writeString id ++ s))) =
      readFields fuel false (some id) extra s := by
  have hcolon : Json.readColon (0x3A :: (writeString id ++ s)) = .ok (writeString id ++ s) := rfl
  have htext : readText (writeString id ++ s) = .ok (id, s) := by
    have hread := Json.readString_escaped id s
    simpa [writeString, readText, Json.skipBlanks, Json.isBlank] using hread
  rw [readFields, Json.nextKey_entry]
  simp only [Json.readString_escaped, hcolon, htext]
  rfl

/-- What is at fault in an envelope with the given other fields: a value that nests
too deep, or a second message id. -/
def Faults (extra : List (String × Json)) (c : Json.Cause) : Prop :=
  Deep (Json.depthOfFields extra) (Json.maxDepth - 1) c ∨
    c = .duplicateField msgIdField ∧ msgIdField ∈ extra.map (·.1)

/-- The fields of an envelope are read one after another, and a second message id or a
value that is too deep ends it. -/
theorem readFields_fieldsFrom {id : String} {fields done : List (String × Json)}
    (hback : ∀ e ∈ fields, ReadsBack e.2) (hsorted : Json.Fields.Sorted fields)
    (hdone : ∀ e ∈ done, ∀ e' ∈ fields, e.1 < e'.1) {fuel : Nat} (rest : Bytes)
    (hfuel : (fieldsFrom false fields).length + 1 < fuel) :
    Answers (Faults fields) (⟨id, done ++ fields⟩, rest)
      (readFields fuel false (some id) done (fieldsFrom false fields ++ 0x7D :: rest)) := by
  -- Over the fields that are left; those in `done` have been read and come before them.
  induction fields generalizing done fuel with
  | nil =>
    obtain ⟨fuel, rfl⟩ : ∃ k, fuel = k + 1 := ⟨fuel - 1, by omega⟩
    rw [List.append_nil]
    refine .ok fun c hc => ?_
    rcases hc with hdeep | ⟨-, hmem⟩
    · exact Json.not_deep_zero _ c hdeep
    · cases hmem
  | cons e fields ih =>
    obtain ⟨key, v⟩ := e
    obtain ⟨fuel, rfl⟩ : ∃ k, fuel = k + 1 := ⟨fuel - 1, by omega⟩
    obtain ⟨hv, hback⟩ := List.forall_mem_cons.1 hback
    obtain ⟨hfirst, hsorted⟩ := hsorted
    simp only [fieldsFrom, List.length_append, List.length_cons] at hfuel
    simp only [fieldsFrom, List.append_assoc, List.cons_append]
    by_cases hkey : key = msgIdField
    · subst hkey
      obtain ⟨f, herror, hcause⟩ := readFields_duplicate fuel false id done
        (0x3A :: (write v ++ (fieldsFrom false fields ++ 0x7D :: rest)))
      rw [herror]
      exact .error f (.inr ⟨hcause, by simp⟩)
    · have hinsert : Json.Fields.insert key v done = done ++ [(key, v)] :=
        Json.Fields.insert_of_lt v fun e he => hdone e he (key, v) (by simp)
      have hdone' := Json.Fields.lt_of_concat hdone hfirst
      have htail : Answers (Faults fields) (⟨id, done ++ (key, v) :: fields⟩, rest)
          (readFields fuel false (some id) (Json.Fields.insert key v done)
            (fieldsFrom false fields ++ 0x7D :: rest)) := by
        rw [hinsert, List.append_cons]
        exact ih hback hsorted hdone' (by omega)
      have hlen : (write v).length < fuel := by omega
      have hvalue := hv fuel (Json.maxDepth - 1) _ hlen (Json.ends_fieldsFrom fields rest)
      rw [readFields_entry fuel false (some id) done hkey]
      refine Answers.congr (hvalue.bind htail) fun c => ?_
      have hne : msgIdField ≠ key := fun h => hkey h.symm
      simp only [Faults, Json.depthOfFields, Json.deep_max, List.map_cons, List.mem_cons, hne,
        false_or, or_assoc]

/-! ### Whole envelopes -/

/-- All texts of an envelope: the message id, and every key and text in the other
fields. -/
def texts (e : Envelope) : List String := e.msgId :: (Json.object e.extra).texts

theorem encode_eq (e : Envelope) :
    encode e = 0x7B :: fieldsFrom true ((msgIdField, .string e.msgId) :: e.extra) ++ [0x7D] := by
  rw [encode, write, Json.writeFields_eq]

/-- **An envelope reads back from its text**, unless something in it is at fault. -/
theorem read_encode {e : Envelope} (hexact : (Json.object e.extra).Exact)
    (hordered : (Json.object e.extra).Ordered) : Answers (Faults e.extra) e (read (encode e)) := by
  obtain ⟨-, hexact⟩ := Json.forall_parts_object.1 hexact
  obtain ⟨hsorted, hordered⟩ := Json.forall_parts_object.1 hordered
  have hback : ∀ f ∈ e.extra, ReadsBack f.2 := fun f hf =>
    Json.readValue_write (hexact f hf) (hordered f hf)
  have htext : (encode e).drop 1 = comma true ++ (writeString msgIdField ++
      0x3A :: (writeString e.msgId ++ (fieldsFrom false e.extra ++ [0x7D]))) := by
    simp [encode_eq, fieldsFrom, write]
  have hfuel : (fieldsFrom false e.extra).length + 1 < (encode e).length := by
    simp only [encode_eq, fieldsFrom, List.length_append, List.length_cons]
    omega
  have hfields : Answers (Faults e.extra) (e, [])
      (readFields (encode e).length false (some e.msgId) [] (fieldsFrom false e.extra ++ [0x7D])) :=
    readFields_fieldsFrom hback hsorted (List.forall_mem_nil _) [] hfuel
  have hend : Answers (fun _ => False) e
      ((Json.readEnd []).bind fun _ => .ok e) := .ok fun _ h => h
  unfold read
  rw [htext, readFields_msgId]
  exact (hfields.bind hend).congr fun c => by rw [or_false]

/-- **The end of a written envelope is found** by a scan that its texts do not mislead,
whatever follows. -/
theorem find_encode {e : Envelope} (hexact : (Json.object e.extra).Exact) {scan : Scan}
    (hscan : scan = .braces → ∀ t ∈ e.texts, Braceless t) (body : Bytes) :
    scan.find (encode e ++ body) = some (encode e).length := by
  have hspans : ∀ t ∈ e.texts, scan.Spans (writeString t) := fun t ht =>
    spans_writeString fun h => hscan h t ht
  obtain ⟨hid, hspans⟩ := List.forall_mem_cons.1 hspans
  have htexts : ∀ p ∈ (Json.object e.extra).parts, ∀ t ∈ p.ownTexts, scan.Spans (writeString t) :=
    fun p hp t ht => hspans t (List.mem_flatMap.2 ⟨p, hp, ht⟩)
  obtain ⟨-, hexact⟩ := Json.forall_parts_object.1 hexact
  obtain ⟨hkeys, htexts⟩ := Json.forall_parts_object.1 htexts
  have hname : Braceless msgIdField := by decide
  have hfields : ∀ f ∈ (msgIdField, .string e.msgId) :: e.extra,
      scan.Spans (writeString f.1) ∧ scan.Spans (write f.2) := by
    refine List.forall_mem_cons.2 ⟨⟨spans_writeString fun _ => hname, hid⟩, fun f hf => ⟨?_, ?_⟩⟩
    · exact hkeys f.1 (List.mem_map_of_mem hf)
    · exact spans_write (hexact f hf) (htexts f hf)
  rw [encode_eq, List.append_assoc, List.singleton_append,
    find_of_spans (spans_fieldsFrom hfields true) body]
  simp

theorem split_of_find {scan : Scan} {text body : Bytes}
    (hfind : scan.find (text ++ body) = some text.length) :
    split scan (text ++ body) =
      match read text with
      | .error f => .error (.malformed text f)
      | .ok e => .ok (e, body) := by
  rw [split, decode, hfind]
  simp only [List.take_left]
  cases read text with
  | error f => rfl
  | ok e => simp [Except.map]

/-- **Reading undoes writing, with any body behind the envelope.** All objects in an
envelope have their keys in order. If it holds no double and does not nest too deep,
it is read back exactly if none of its other fields is named like the message id; if
one is, that is the fault. What nests deeper is refused. The scan that minds quotes may
meet any texts, the one that counts every brace only texts without braces. -/
theorem split_encode (e : Envelope) (hexact : (Json.object e.extra).Exact)
    (hordered : (Json.object e.extra).Ordered) (scan : Scan)
    (hscan : scan = .braces → ∀ t ∈ e.texts, Braceless t) (body : Bytes) :
    ((Json.object e.extra).depth ≤ Json.maxDepth →
      (split scan (encode e ++ body) = .ok (e, body) ↔ msgIdField ∉ e.extra.map (·.1)) ∧
      (msgIdField ∈ e.extra.map (·.1) → ∃ f,
        split scan (encode e ++ body) = .error (.malformed (encode e) f) ∧
        f.cause = .duplicateField msgIdField)) ∧
    (Json.maxDepth < (Json.object e.extra).depth → ∃ f,
      split scan (encode e ++ body) = .error (.malformed (encode e) f) ∧
      (f.cause = .tooDeep ∨ f.cause = .duplicateField msgIdField)) := by
  have hdepth : (Json.object e.extra).depth = Json.depthOfFields e.extra + 1 := rfl
  have hmax : Json.maxDepth - 1 + 1 = Json.maxDepth := rfl
  have hread := read_encode hexact hordered
  rw [split_of_find (find_encode hexact hscan body), hdepth]
  generalize read (encode e) = result at hread ⊢
  cases hread with
  | ok hnone =>
    have hroom : ¬ Json.maxDepth - 1 < Json.depthOfFields e.extra := fun h =>
      hnone .tooDeep (.inl ⟨rfl, h⟩)
    have hkey : msgIdField ∉ e.extra.map (·.1) := fun h =>
      hnone (.duplicateField msgIdField) (.inr ⟨rfl, h⟩)
    exact ⟨fun _ => ⟨iff_of_true rfl hkey, fun h => absurd h hkey⟩, fun h => absurd h (by omega)⟩
  | error f hfault =>
    rcases hfault with ⟨hcause, hdeep⟩ | ⟨hcause, hkey⟩
    · exact ⟨fun h => absurd h (by omega), fun _ => ⟨f, rfl, .inl hcause⟩⟩
    · exact ⟨fun _ => ⟨iff_of_false (fun h => nomatch h) (not_not_intro hkey),
        fun _ => ⟨f, rfl, hcause⟩⟩, fun _ => ⟨f, rfl, .inr hcause⟩⟩

/-- Quotes, backslashes, braces and control characters in the texts, and a list inside
an object. -/
def intricate : Envelope :=
  ⟨"a\"\\\x01\x7b\n",
    [("k\x7d", .object [("x", .array [.number (.negSucc 4), .null]), ("y", .string "é\x7b")]),
      ("z", .bool true)]⟩

/-- An envelope with a field that is named like the message id. -/
def twofold : Envelope := ⟨"a", [("k", .array []), (msgIdField, .number (.nat 0))]⟩

theorem split_encode_intricate :
    split .strings (encode intricate ++ [0x7D]) = .ok (intricate, [0x7D]) ∧
      ∃ f, split .braces (encode twofold ++ [0x7D]) = .error (.malformed (encode twofold) f) ∧
        f.cause = .duplicateField msgIdField := by
  constructor
  · have h := split_encode intricate (by decide) (by decide) .strings (fun h => nomatch h) [0x7D]
    exact (h.1 (by decide)).1.2 (by decide)
  · have h := split_encode twofold (by decide) (by decide) .braces (fun _ => by decide) [0x7D]
    exact (h.1 (by decide)).2 (by decide)

end Envelope
end Tagram
