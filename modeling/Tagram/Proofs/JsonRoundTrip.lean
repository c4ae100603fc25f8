/-
# A written value reads back

Reading undoes writing, for every value that a text can hold exactly: its
numbers are integers, its objects have their keys in ascending order, and it
nests no deeper than the reader has room for. A value that nests deeper is
refused.

The argument follows the text from the inside out. A byte of a string comes
back from its escape (`unescape_escapeByte`), the digits of a number are all
absorbed and none of them is a leading zero (`readNumber_digits`), and each
list of items or fields is read one entry at a time (`readItems_itemsFrom`,
`readFields_fieldsFrom`). What stands after a value matters only for a number,
which must not go on: `Ends`.

Success and refusal are followed together. `Answers` says that a result is the
expected one unless something is at fault, and then names a fault; it is kept
by `map` and `bind`, as the readers are put together.

Key definitions: `Json.parts`, `Json.depth`, `Json.Exact`, `Json.Ordered`,
`Json.Answers`, `Json.ReadsBack`.
Key theorems: `Json.readString_escaped`, `Json.readNumber_digits`,
`Json.readValue_write`.
-/
import Tagram.Proofs.Bytes
import Tagram.Json.Reader
import Tagram.Json.Writer

namespace Tagram
namespace Json

/-! ### The parts of a value -/

/-- Induction over the values inside a value. -/
theorem induct {P : Json → Prop} (null : P .null) (bool : ∀ b, P (.bool b))
    (number : ∀ n, P (.number n)) (string : ∀ t, P (.string t))
    (array : ∀ items, (∀ v ∈ items, P v) → P (.array items))
    (object : ∀ fields, (∀ e ∈ fields, P e.2) → P (.object fields)) : ∀ v, P v :=
  @Json.rec P (fun items => ∀ v ∈ items, P v) (fun fields => ∀ e ∈ fields, P e.2) (fun e => P e.2)
    null bool number string array object
    (fun _ h => nomatch h) (fun _ _ hv hvs => List.forall_mem_cons.2 ⟨hv, hvs⟩)
    (fun _ h => nomatch h) (fun _ _ he hes => List.forall_mem_cons.2 ⟨he, hes⟩)
    (fun _ _ h => h)

mutual

/-- A value and all the values inside it. -/
def parts : Json → List Json
  | .null => [.null]
  | .bool b => [.bool b]
  | .number n => [.number n]
  | .string t => [.string t]
  | .array items => .array items :: partsOfItems items
  | .object fields => .object fields :: partsOfFields fields

def partsOfItems : List Json → List Json
  | [] => []
  | v :: items => parts v ++ partsOfItems items

def partsOfFields : List (String × Json) → List Json
  | [] => []
  | (_, v) :: fields => parts v ++ partsOfFields fields

end

mutual

/-- How many brackets are open at once in the text of a value. -/
def depth : Json → Nat
  | .null => 0
  | .bool _ => 0
  | .number _ => 0
  | .string _ => 0
  | .array items => depthOfItems items + 1
  | .object fields => depthOfFields fields + 1

def depthOfItems : List Json → Nat
  | [] => 0
  | v :: items => max (depth v) (depthOfItems items)

def depthOfFields : List (String × Json) → Nat
  | [] => 0
  | (_, v) :: fields => max (depth v) (depthOfFields fields)

end

theorem self_mem_parts (v : Json) : v ∈ v.parts := by
  cases v <;> simp [parts]

theorem mem_partsOfItems {p : Json} (items : List Json) :
    p ∈ partsOfItems items ↔ ∃ v ∈ items, p ∈ parts v := by
  induction items with
  | nil => simp [partsOfItems]
  | cons v items ih => simp [partsOfItems, ih]

theorem mem_partsOfFields {p : Json} (fields : List (String × Json)) :
    p ∈ partsOfFields fields ↔ ∃ e ∈ fields, p ∈ parts e.2 := by
  induction fields with
  | nil => simp [partsOfFields]
  | cons e fields ih => simp [partsOfFields, ih]

/-- What holds of every part of an array holds of it and of every part of its items. -/
theorem forall_parts_array {Q : Json → Prop} {items : List Json} :
    (∀ p ∈ parts (.array items), Q p) ↔ Q (.array items) ∧ ∀ v ∈ items, ∀ p ∈ parts v, Q p := by
  simp only [parts, List.forall_mem_cons, mem_partsOfItems]
  exact and_congr_right fun _ =>
    ⟨fun h v hv p hp => h p ⟨v, hv, hp⟩, fun h p ⟨v, hv, hp⟩ => h v hv p hp⟩

theorem forall_parts_object {Q : Json → Prop} {fields : List (String × Json)} :
    (∀ p ∈ parts (.object fields), Q p) ↔
      Q (.object fields) ∧ ∀ e ∈ fields, ∀ p ∈ parts e.2, Q p := by
  simp only [parts, List.forall_mem_cons, mem_partsOfFields]
  exact and_congr_right fun _ =>
    ⟨fun h e he p hp => h p ⟨e, he, hp⟩, fun h p ⟨e, he, hp⟩ => h e he p hp⟩

/-- Whether a value is a double. -/
def isDouble : Json → Bool
  | .number (.float _) => true
  | _ => false

instance Fields.decidableSorted : DecidablePred Fields.Sorted
  | [] => isTrue trivial
  | (k, _) :: rest =>
    haveI := decidableSorted rest
    inferInstanceAs (Decidable ((∀ e ∈ rest, k < e.1) ∧ Fields.Sorted rest))

/-- Whether a value has its own keys in ascending order. -/
def Ascending : Json → Prop
  | .object fields => Fields.Sorted fields
  | _ => True

instance : DecidablePred Ascending
  | .object fields => inferInstanceAs (Decidable (Fields.Sorted fields))
  | .null | .bool _ | .number _ | .string _ | .array _ => isTrue trivial

/-- No part is a double. -/
def Exact (v : Json) : Prop := ∀ p ∈ v.parts, p.isDouble = false

instance : DecidablePred Exact := fun v =>
  inferInstanceAs (Decidable (∀ p ∈ v.parts, p.isDouble = false))

/-- Every object in the value has its keys in ascending order. -/
def Ordered (v : Json) : Prop := ∀ p ∈ v.parts, p.Ascending

instance : DecidablePred Ordered := fun v =>
  inferInstanceAs (Decidable (∀ p ∈ v.parts, p.Ascending))

/-! ### Texts -/

theorem exists_hexDigit {n : Nat} (h : n < 16) :
    ∃ c, String.utf8EncodeChar (Bytes.hexDigit n) = [c] ∧ hexValue? c = some n := by
  interval_cases n <;> exact ⟨_, rfl, rfl⟩

theorem exists_toHex (b : UInt8) :
    ∃ c d, Bytes.ofText (Bytes.toHex [b]) = [c, d] ∧ hexValue? c = some (b.toNat / 16) ∧
      hexValue? d = some (b.toNat % 16) := by
  have hb : b.toNat < 256 := b.toNat_lt
  obtain ⟨c, hc, hc'⟩ := exists_hexDigit (n := b.toNat / 16) (by omega)
  obtain ⟨d, hd, hd'⟩ := exists_hexDigit (n := b.toNat % 16) (by omega)
  refine ⟨c, d, ?_, hc', hd'⟩
  rw [Bytes.toHex, Bytes.ofText_ofList]
  simp [hc, hd]

/-- A control character has an escape of one letter or of four digits, and every other
byte but the quote and the backslash stands for itself. -/
theorem escapeByte_cases (b : UInt8) :
    (∃ c, escapeByte b = [0x5C, c] ∧ simpleEscape? c = some b) ∨
    (b < 0x20 ∧ escapeByte b = [0x5C, 0x75, 0x30, 0x30] ++ Bytes.ofText (Bytes.toHex [b])) ∨
    (b ≠ 0x22 ∧ b ≠ 0x5C ∧ ¬ b < 0x20 ∧ escapeByte b = [b]) := by
  unfold escapeByte
  split_ifs with h22 h5C h08 h0C h0A h0D h09 hcontrol
  case pos => exact .inl ⟨0x22, rfl, by rw [h22]; rfl⟩
  case pos => exact .inl ⟨0x5C, rfl, by rw [h5C]; rfl⟩
  case pos => exact .inl ⟨0x62, rfl, by rw [h08]; rfl⟩
  case pos => exact .inl ⟨0x66, rfl, by rw [h0C]; rfl⟩
  case pos => exact .inl ⟨0x6E, rfl, by rw [h0A]; rfl⟩
  case pos => exact .inl ⟨0x72, rfl, by rw [h0D]; rfl⟩
  case pos => exact .inl ⟨0x74, rfl, by rw [h09]; rfl⟩
  case pos => exact .inr (.inl ⟨hcontrol, rfl⟩)
  case neg => exact .inr (.inr ⟨h22, h5C, hcontrol, rfl⟩)

theorem unescape_escapeByte (done : Bytes) (b : UInt8) (s : Bytes) :
    unescape done (escapeByte b ++ s) = unescape (b :: done) s := by
  obtain ⟨c, hescape, hc⟩ | ⟨hcontrol, hescape⟩ | ⟨hquote, hslash, hcontrol, hescape⟩ :=
    escapeByte_cases b
  · have hletter : c ≠ 0x75 := by
      rintro rfl
      cases hc
    rw [hescape, List.cons_append, List.singleton_append, unescape]
    · simp [hc]
    · exact fun _ _ _ _ _ h _ => hletter h
    · exact hletter
  · obtain ⟨c, d, htext, hc, hd⟩ := exists_toHex b
    have hnat : b.toNat < 32 := UInt8.lt_iff_toNat_lt.1 hcontrol
    have hunit : hexUnit? 0x30 0x30 c d = some b.toNat := by
      have hzero : hexValue? 0x30 = some 0 := rfl
      simp only [hexUnit?, hzero, hc, hd, Option.pure_def, Option.bind_eq_bind, Option.bind_some]
      congr 1
      omega
    have hbytes : codePointBytes b.toNat = [b] :=
      Bytes.utf8EncodeChar_of_lt (UInt8.lt_iff_toNat_lt.2 (Nat.lt_trans hnat (by decide)))
    have hlow : isLowSurrogate b.toNat = false := by simp [isLowSurrogate]; omega
    have hhigh : isHighSurrogate b.toNat = false := by simp [isHighSurrogate]; omega
    rw [hescape, htext]
    simp only [List.cons_append, List.nil_append, unescape, hunit, hlow, hhigh, hbytes]
    rfl
  · rw [hescape, List.singleton_append, unescape, if_neg hcontrol]
    · exact hquote
    · exact hslash

theorem unescape_escaped (done s rest : Bytes) :
    unescape done (s.flatMap escapeByte ++ 0x22 :: rest) = .ok (done.reverse ++ s, rest) := by
  induction s generalizing done with
  | nil => simp [unescape]
  | cons b s ih =>
    rw [List.flatMap_cons, List.append_assoc, unescape_escapeByte, ih, List.reverse_cons,
      List.append_assoc, List.singleton_append]

/-- **A text reads back from its escapes.** -/
theorem readString_escaped (t : String) (rest : Bytes) :
    readString ((Bytes.ofText t).flatMap escapeByte ++ 0x22 :: rest) = .ok (t, rest) := by
  rw [readString, unescape_escaped]
  simp [Bytes.toText?_ofText]

/-! ### Numbers -/

/-- The bytes that may follow a value inside another one. -/
def Ends (s : Bytes) : Prop := ∀ b ∈ s.head?, b = 0x2C ∨ b = 0x5D ∨ b = 0x7D

/-- The decimal digits of a number. -/
def digits (n : Nat) : Bytes := (Nat.toDigits 10 n).map fun c => UInt8.ofNat c.toNat

theorem digit_toNat {c : Char} (hc : c.isDigit = true) : 48 ≤ c.toNat ∧ c.toNat ≤ 57 := by
  simp only [Char.isDigit, Bool.and_eq_true, decide_eq_true_eq, ge_iff_le,
    UInt32.le_iff_toNat_le] at hc
  exact hc

theorem ofText_toString (n : Nat) : Bytes.ofText (toString n) = digits n := by
  rw [Nat.toString_eq_ofList_toDigits, Bytes.ofText_ofList, digits, ← List.flatMap_pure_eq_map]
  refine List.flatMap_congr fun c hc => ?_
  have hle := digit_toNat (Nat.isDigit_of_mem_toDigits (by decide) (by decide) hc)
  have hlt : UInt8.ofNat c.toNat < 0x80 := by
    rw [UInt8.lt_iff_toNat_lt, UInt8.toNat_ofNat', Nat.mod_eq_of_lt (by omega)]
    exact Nat.lt_of_le_of_lt hle.2 (by decide)
  have h := Bytes.utf8EncodeChar_of_lt hlt
  rw [UInt8.toNat_ofNat', Nat.mod_eq_of_lt (by omega), Char.ofNat_toNat] at h
  exact h

theorem isDigit_of_mem_digits {n : Nat} {b : UInt8} (hb : b ∈ digits n) : isDigit b = true := by
  obtain ⟨c, hc, rfl⟩ := List.mem_map.1 hb
  have hle := digit_toNat (Nat.isDigit_of_mem_toDigits (by decide) (by decide) hc)
  have hnat : (UInt8.ofNat c.toNat).toNat = c.toNat := by
    rw [UInt8.toNat_ofNat', Nat.mod_eq_of_lt (by omega)]
  simp only [isDigit, Bool.and_eq_true, decide_eq_true_eq, UInt8.le_iff_toNat_le, hnat]
  exact hle

/-- The number that digits make when they are appended to `n`. -/
def appendDigits (n : Nat) (ds : Bytes) : Nat := ds.foldl (fun n d => n * 10 + digitValue d) n

theorem appendDigits_digits (n : Nat) : appendDigits 0 (digits n) = n := by
  have hvalue : ∀ c ∈ Nat.toDigits 10 n, digitValue (UInt8.ofNat c.toNat) = c.toNat - '0'.toNat := by
    intro c hc
    have hle := digit_toNat (Nat.isDigit_of_mem_toDigits (by decide) (by decide) hc)
    rw [digitValue, UInt8.toNat_ofNat', Nat.mod_eq_of_lt (by omega)]
    rfl
  calc appendDigits 0 (digits n)
      = (Nat.toDigits 10 n).foldl (fun m c => m * 10 + digitValue (UInt8.ofNat c.toNat)) 0 := by
        rw [appendDigits, digits, List.foldl_map]
    _ = Nat.ofDigitChars 10 (Nat.toDigits 10 n) 0 := by
        refine List.foldl_ext _ _ _ fun m c hc => ?_
        rw [hvalue c hc, Nat.mul_comm]
    _ = n := Nat.ofDigitChars_ten_toDigits

theorem le_appendDigits (n : Nat) (ds : Bytes) : n ≤ appendDigits n ds := by
  induction ds generalizing n with
  | nil => exact Nat.le_refl n
  | cons d ds ih => exact Nat.le_trans (by omega) (ih (n * 10 + digitValue d))

/-- All digits are absorbed when the number fits. -/
theorem absorb_eq (n count : Nat) (ds : Bytes) (h : appendDigits n ds < 0x10000000000000000) :
    absorb n count ds = (appendDigits n ds, count + ds.length) := by
  induction ds generalizing n count with
  | nil => rfl
  | cons d ds ih =>
    have hd : n * 10 + digitValue d < 0x10000000000000000 :=
      Nat.lt_of_le_of_lt (le_appendDigits _ ds) h
    rw [absorb, if_pos hd, ih _ _ h, List.length_cons, Nat.add_assoc, Nat.add_comm 1]
    rfl

theorem digits_of_lt {n : Nat} (h : n < 10) : digits n = [UInt8.ofNat (n + 48)] := by
  interval_cases n <;> rfl

theorem digits_of_le {n : Nat} (h : 10 ≤ n) :
    digits n = digits (n / 10) ++ [UInt8.ofNat (n % 10).digitChar.toNat] := by
  rw [digits, Nat.toDigits_of_base_le (by decide) h, List.map_append, digits, List.map_singleton]

theorem exists_digits (n : Nat) :
    ∃ d ds, digits n = d :: ds ∧ isDigit d = true ∧ (0 < n → d ≠ 0x30) := by
  induction n using Nat.strongRecOn with
  | _ n ih =>
    by_cases hn : n < 10
    · refine ⟨_, _, digits_of_lt hn, ?_⟩
      interval_cases n <;> decide
    · obtain ⟨d, ds, hds, hdigit, hd⟩ := ih (n / 10) (by omega)
      have hmore := digits_of_le (Nat.le_of_not_lt hn)
      rw [hds, List.cons_append] at hmore
      exact ⟨d, _, hmore, hdigit, fun _ => hd (by omega)⟩

namespace Ends

variable {rest : Bytes} (hrest : Ends rest)

include hrest

theorem not_isDigit : (rest.head?.map isDigit).getD false = false := by
  match rest with
  | [] => rfl
  | b :: rest => rcases hrest b rfl with rfl | rfl | rfl <;> rfl

theorem takeWhile_isDigit : rest.takeWhile isDigit = [] := by
  match rest with
  | [] => rfl
  | b :: rest => rcases hrest b rfl with rfl | rfl | rfl <;> rfl

theorem dropWhile_isDigit : rest.dropWhile isDigit = rest := by
  match rest with
  | [] => rfl
  | b :: rest => rcases hrest b rfl with rfl | rfl | rfl <;> rfl

theorem readAfterInteger (positive : Bool) (n : Nat) :
    readAfterInteger positive n 0 rest = .ok (integer positive n, rest) := by
  match rest with
  | [] => rfl
  | b :: rest => rcases hrest b rfl with rfl | rfl | rfl <;> rfl

end Ends

/-- **An integer reads back from its digits.** -/
theorem readNumber_digits (positive : Bool) {n : Nat} (hn : n < 0x10000000000000000) {rest : Bytes}
    (hrest : Ends rest) : readNumber positive (digits n ++ rest) = .ok (integer positive n, rest) := by
  by_cases hzero : n = 0
  · subst hzero
    have hdigits : digits 0 = [0x30] := rfl
    rw [hdigits, List.singleton_append, readNumber, if_pos rfl, if_neg (by simp [hrest.not_isDigit]),
      hrest.readAfterInteger positive 0]
  · obtain ⟨d, ds, hds, hdigit, hd⟩ := exists_digits n
    have htake : (digits n ++ rest).takeWhile isDigit = digits n := by
      rw [List.takeWhile_append_of_pos fun b hb => isDigit_of_mem_digits hb,
        hrest.takeWhile_isDigit, List.append_nil]
    have hdrop : (digits n ++ rest).dropWhile isDigit = rest := by
      rw [List.dropWhile_append_of_pos fun b hb => isDigit_of_mem_digits hb, hrest.dropWhile_isDigit]
    have habsorb : absorb 0 0 (digits n) = (n, (digits n).length) := by
      rw [absorb_eq 0 0 _ (by rwa [appendDigits_digits]), appendDigits_digits, Nat.zero_add]
    rw [hds, List.cons_append] at htake hdrop ⊢
    rw [readNumber, if_neg (hd (Nat.pos_of_ne_zero hzero)), if_pos hdigit]
    simp only [htake, hdrop, ← hds, habsorb, Nat.sub_self]
    exact hrest.readAfterInteger positive n

theorem ne_of_isDigit {b c : UInt8} (hb : isDigit b = true) (hc : isDigit c = false) : b ≠ c := by
  rintro rfl
  rw [hb] at hc
  cases hc

theorem isBlank_of_isDigit {b : UInt8} (hb : isDigit b = true) : isBlank b = false := by
  simp [isBlank, ne_of_isDigit (c := 0x20) hb rfl, ne_of_isDigit (c := 0x0A) hb rfl,
    ne_of_isDigit (c := 0x09) hb rfl, ne_of_isDigit (c := 0x0D) hb rfl]

theorem write_nat (n : UInt64) : write (.number (.nat n)) = digits n.toNat := by
  rw [write, Number.text, ofText_toString]

theorem write_negSucc (n : Fin 0x8000000000000000) :
    write (.number (.negSucc n)) = 0x2D :: digits (n.val + 1) := by
  rw [write, Number.text, Bytes.ofText_append, ofText_toString]
  rfl

/-! ### Fields in order -/

theorem Fields.insert_of_lt {key : String} (value : Json) {fields : List (String × Json)}
    (h : ∀ e ∈ fields, e.1 < key) : insert key value fields = fields ++ [(key, value)] := by
  induction fields with
  | nil => rfl
  | cons e fields ih =>
    rw [List.forall_mem_cons] at h
    have hgt : compare key e.1 = .gt := by
      rw [compare_gt_iff_gt]
      exact h.1
    rw [insert, hgt, ih h.2, List.cons_append]

/-- What comes before fields in order still does with the first of them. -/
theorem Fields.lt_of_concat {e : String × Json} {done fields : List (String × Json)}
    (hdone : ∀ d ∈ done, ∀ f ∈ e :: fields, d.1 < f.1) (hfirst : ∀ f ∈ fields, e.1 < f.1) :
    ∀ d ∈ done ++ [e], ∀ f ∈ fields, d.1 < f.1 := by
  intro d hd f hf
  rcases List.mem_append.1 hd with hd | hd
  · exact hdone d hd f (List.mem_cons_of_mem e hf)
  · obtain rfl := List.mem_singleton.1 hd
    exact hfirst f hf

theorem Fields.foldl_insert {fields : List (String × Json)} (hsorted : Sorted fields)
    {done : List (String × Json)} (hdone : ∀ d ∈ done, ∀ f ∈ fields, d.1 < f.1) :
    fields.foldl (fun fields e => insert e.1 e.2 fields) done = done ++ fields := by
  induction fields generalizing done with
  | nil => simp
  | cons e fields ih =>
    obtain ⟨hfirst, hsorted⟩ := hsorted
    rw [List.foldl_cons, Fields.insert_of_lt _ fun d hd => hdone d hd e (by simp),
      ih hsorted (Fields.lt_of_concat hdone hfirst), List.append_assoc, List.singleton_append]

/-- Fields that come in order are kept as they come. -/
theorem Fields.ofList_of_sorted {fields : List (String × Json)} (h : Sorted fields) :
    ofList fields = fields := by
  rw [ofList, Fields.foldl_insert h (by simp), List.nil_append]

/-! ### The text of a list -/

/-- What stands before an entry. -/
def comma (first : Bool) : Bytes := if first then [] else [0x2C]

/-- The text of items up to the closing bracket. -/
def itemsFrom : Bool → List Json → Bytes
  | _, [] => []
  | first, v :: items => comma first ++ (write v ++ itemsFrom false items)

/-- The text of fields up to the closing brace. -/
def fieldsFrom : Bool → List (String × Json) → Bytes
  | _, [] => []
  | first, (key, v) :: fields =>
    comma first ++ (writeString key ++ 0x3A :: (write v ++ fieldsFrom false fields))

theorem writeItems_eq (items : List Json) : writeItems items = itemsFrom true items := by
  induction items with
  | nil => rfl
  | cons v items ih =>
    match items with
    | [] => simp [writeItems, itemsFrom, comma]
    | w :: items =>
      rw [writeItems, ih]
      · simp [itemsFrom, comma]
      · exact List.cons_ne_nil w items

theorem writeFields_eq (fields : List (String × Json)) :
    writeFields fields = fieldsFrom true fields := by
  induction fields with
  | nil => rfl
  | cons e fields ih =>
    match fields with
    | [] => simp [writeFields, fieldsFrom, comma]
    | e' :: fields =>
      rw [writeFields, ih]
      · simp [fieldsFrom, comma]
      · exact List.cons_ne_nil e' fields

/-! ### Answers -/

/-- The result is `a` if nothing is at fault, and otherwise an error that names one
of the faults. -/
inductive Answers {α : Type} (faults : Cause → Prop) (a : α) : Except Fault α → Prop where
  | ok (h : ∀ c, ¬ faults c) : Answers faults a (.ok a)
  | error (f : Fault) (h : faults f.cause) : Answers faults a (.error f)

namespace Answers

variable {α β : Type} {p q : Cause → Prop} {a : α} {b : β} {r : Except Fault α}

theorem congr (h : Answers p a r) (hpq : ∀ c, p c ↔ q c) : Answers q a r := by
  cases h with
  | ok h => exact .ok fun c hc => h c ((hpq c).2 hc)
  | error f h => exact .error f ((hpq _).1 h)

theorem map (h : Answers p a r) (g : α → β) : Answers p (g a) (r.map g) := by
  cases h with
  | ok h => exact .ok h
  | error f h => exact .error f h

theorem bind {next : α → Except Fault β} (h : Answers p a r) (hnext : Answers q b (next a)) :
    Answers (fun c => p c ∨ q c) b (r.bind next) := by
  cases h with
  | error f h => exact .error f (.inl h)
  | ok h => exact hnext.congr fun c => ⟨.inr, fun hc => hc.resolve_left (h c)⟩

end Answers

/-- The fault of a value that nests `depth` deep where there is `room` for less. -/
def Deep (depth room : Nat) (c : Cause) : Prop := c = .tooDeep ∧ room < depth

theorem deep_max {d d' room : Nat} {c : Cause} :
    Deep (max d d') room c ↔ Deep d room c ∨ Deep d' room c := by
  simp only [Deep, lt_max_iff]
  tauto

theorem not_deep_zero (room : Nat) (c : Cause) : ¬ Deep 0 room c := fun h => nomatch h.2

/-! ### One entry of a list -/

theorem skipBlanks_of_not_isBlank {b : UInt8} (h : isBlank b = false) (s : Bytes) :
    skipBlanks (b :: s) = b :: s := by
  rw [skipBlanks, List.dropWhile_cons_of_neg (by simp [h])]

/-- A value starts with no blank, and not with a closing bracket. -/
theorem exists_write {v : Json} (hv : v.isDouble = false) :
    ∃ b s, write v = b :: s ∧ isBlank b = false ∧ b ≠ 0x5D := by
  match v with
  | .null => exact ⟨0x6E, _, rfl, rfl, by decide⟩
  | .bool true => exact ⟨0x74, _, rfl, rfl, by decide⟩
  | .bool false => exact ⟨0x66, _, rfl, rfl, by decide⟩
  | .string t => exact ⟨0x22, _, rfl, rfl, by decide⟩
  | .array items => exact ⟨0x5B, _, rfl, rfl, by decide⟩
  | .object fields => exact ⟨0x7B, _, rfl, rfl, by decide⟩
  | .number (.nat n) =>
    obtain ⟨d, ds, hds, hdigit, -⟩ := exists_digits n.toNat
    exact ⟨d, ds, by rw [write_nat, hds], isBlank_of_isDigit hdigit, ne_of_isDigit hdigit rfl⟩
  | .number (.negSucc n) => exact ⟨0x2D, _, write_negSucc n, rfl, by decide⟩

theorem length_write_pos {v : Json} (hv : v.isDouble = false) : 0 < (write v).length := by
  obtain ⟨b, s, hwrite, -⟩ := exists_write hv
  simp [hwrite]

theorem nextItem_entry (first : Bool) {v : Json} (hv : v.isDouble = false) (s : Bytes) :
    nextItem first (comma first ++ (write v ++ s)) = .ok (.opened (write v ++ s)) := by
  obtain ⟨b, t, hwrite, hblank, hbracket⟩ := exists_write hv
  rw [hwrite, List.cons_append]
  cases first with
  | true =>
    show nextItem true (b :: (t ++ s)) = _
    simp [nextItem, skipBlanks_of_not_isBlank hblank]
  | false =>
    show nextItem false (0x2C :: b :: (t ++ s)) = _
    have hcomma : isBlank 0x2C = false := rfl
    simp [nextItem, skipBlanks_of_not_isBlank hcomma, skipBlanks_of_not_isBlank hblank, hbracket]

theorem readItems_entry (fuel room : Nat) (first : Bool) {v : Json} (hv : v.isDouble = false)
    (s : Bytes) :
    readItems (fuel + 1) room first (comma first ++ (write v ++ s)) =
      (readValue fuel room (write v ++ s)).bind fun (item, rest) =>
        (readItems fuel room false rest).map fun (items, rest) => (item :: items, rest) := by
  rw [readItems, nextItem_entry first hv]
  dsimp only
  cases readValue fuel room (write v ++ s) <;> rfl

theorem nextKey_entry (first : Bool) (key : String) (s : Bytes) :
    nextKey first (comma first ++ (writeString key ++ s)) =
      .ok (.opened ((Bytes.ofText key).flatMap escapeByte ++ 0x22 :: s)) := by
  cases first <;>
    simp [comma, writeString, nextKey, skipBlanks, isBlank, keyStart]

theorem readFields_entry (fuel room : Nat) (first : Bool) (key : String) (s : Bytes) :
    readFields (fuel + 1) room first (comma first ++ (writeString key ++ 0x3A :: s)) =
      (readValue fuel room s).bind fun (value, rest) =>
        (readFields fuel room false rest).map fun (fields, rest) => ((key, value) :: fields, rest) := by
  have hcolon : readColon (0x3A :: s) = .ok s := rfl
  rw [readFields, nextKey_entry]
  simp only [readString_escaped, hcolon]
  cases readValue fuel room s <;> rfl

/-! ### Values -/

theorem readValue_digit (fuel room : Nat) {b : UInt8} (hb : isDigit b = true) (s : Bytes) :
    readValue (fuel + 1) room (b :: s) =
      (readNumber true (b :: s)).map fun (n, rest) => (.number n, rest) := by
  rw [readValue, skipBlanks_of_not_isBlank (isBlank_of_isDigit hb)]
  split
  case h_9 heq =>
    obtain ⟨rfl, rfl⟩ := List.cons.inj heq
    rw [if_pos hb]
  all_goals
    rename_i heq
    cases heq <;> cases hb

/-- Reading the text of a value gives the value, unless it is too deep. Fuel for every
byte and one more is enough. -/
def ReadsBack (v : Json) : Prop :=
  ∀ (fuel room : Nat) (rest : Bytes), (write v).length < fuel → Ends rest →
    Answers (Deep v.depth room) (v, rest) (readValue fuel room (write v ++ rest))

theorem ends_itemsFrom (items : List Json) (rest : Bytes) :
    Ends (itemsFrom false items ++ 0x5D :: rest) := by
  cases items <;> simp [Ends, itemsFrom, comma]

theorem ends_fieldsFrom (fields : List (String × Json)) (rest : Bytes) :
    Ends (fieldsFrom false fields ++ 0x7D :: rest) := by
  cases fields <;> simp [Ends, fieldsFrom, comma]

/-- Items that read back one by one read back as a list. -/
theorem readItems_itemsFrom {items : List Json} (hexact : ∀ v ∈ items, v.isDouble = false)
    (hback : ∀ v ∈ items, ReadsBack v) (fuel room : Nat) (first : Bool) (rest : Bytes)
    (hfuel : (itemsFrom first items).length + 1 < fuel) :
    Answers (Deep (depthOfItems items) room) (items, rest)
      (readItems fuel room first (itemsFrom first items ++ 0x5D :: rest)) := by
  induction items generalizing fuel first with
  | nil =>
    obtain ⟨fuel, rfl⟩ : ∃ k, fuel = k + 1 := ⟨fuel - 1, by omega⟩
    exact .ok (not_deep_zero room)
  | cons v items ih =>
    rw [List.forall_mem_cons] at hexact hback
    obtain ⟨fuel, rfl⟩ : ∃ k, fuel = k + 1 := ⟨fuel - 1, by omega⟩
    -- The first item has no comma to pay for the step, but at least one byte.
    have hpos := length_write_pos hexact.1
    simp only [itemsFrom, List.length_append] at hfuel
    simp only [itemsFrom, List.append_assoc, depthOfItems, readItems_entry fuel room first hexact.1]
    have hv : (write v).length < fuel := by omega
    have hvalue := hback.1 fuel room _ hv (ends_itemsFrom items rest)
    have htail := ih hexact.2 hback.2 fuel false (by omega)
    exact (hvalue.bind (htail.map fun (items, rest) => (v :: items, rest))).congr
      fun c => deep_max.symm

theorem readFields_fieldsFrom {fields : List (String × Json)}
    (hback : ∀ e ∈ fields, ReadsBack e.2) (fuel room : Nat) (first : Bool) (rest : Bytes)
    (hfuel : (fieldsFrom first fields).length + 1 < fuel) :
    Answers (Deep (depthOfFields fields) room) (fields, rest)
      (readFields fuel room first (fieldsFrom first fields ++ 0x7D :: rest)) := by
  induction fields generalizing fuel first with
  | nil =>
    obtain ⟨fuel, rfl⟩ : ∃ k, fuel = k + 1 := ⟨fuel - 1, by omega⟩
    exact .ok (not_deep_zero room)
  | cons e fields ih =>
    obtain ⟨key, v⟩ := e
    rw [List.forall_mem_cons] at hback
    obtain ⟨fuel, rfl⟩ : ∃ k, fuel = k + 1 := ⟨fuel - 1, by omega⟩
    simp only [fieldsFrom, List.length_append, List.length_cons] at hfuel
    simp only [fieldsFrom, List.append_assoc, List.cons_append, depthOfFields, readFields_entry]
    have hv : (write v).length < fuel := by omega
    have hvalue := hback.1 fuel room _ hv (ends_fieldsFrom fields rest)
    have htail := ih hback.2 fuel false (by omega)
    exact (hvalue.bind (htail.map fun (fields, rest) => ((key, v) :: fields, rest))).congr
      fun c => deep_max.symm

theorem readWord_append {α : Type} (value : α) (word rest : Bytes) :
    readWord value word (word ++ rest) = .ok (value, rest) := by
  induction word with
  | nil => rfl
  | cons w word ih => rw [List.cons_append, readWord, if_pos rfl, ih]

theorem deep_succ {d room : Nat} {c : Cause} : Deep (d + 1) (room + 1) c ↔ Deep d room c := by
  simp [Deep]

theorem readValue_array (fuel room : Nat) (s : Bytes) :
    readValue (fuel + 1) (room + 1) (0x5B :: s) =
      (readItems fuel room true s).map fun (items, rest) => (.array items, rest) := by
  rw [readValue]
  rfl

theorem readValue_object (fuel room : Nat) (s : Bytes) :
    readValue (fuel + 1) (room + 1) (0x7B :: s) =
      (readFields fuel room true s).map fun (fields, rest) =>
        (.object (Fields.ofList fields), rest) := by
  rw [readValue]
  rfl

theorem readsBack_of_ok {v : Json} (hdepth : v.depth = 0)
    (h : ∀ fuel room rest, Ends rest → readValue (fuel + 1) room (write v ++ rest) = .ok (v, rest)) :
    ReadsBack v := by
  intro fuel room rest hfuel hrest
  obtain ⟨fuel, rfl⟩ : ∃ k, fuel = k + 1 := ⟨fuel - 1, by omega⟩
  rw [h fuel room rest hrest, hdepth]
  exact .ok (not_deep_zero room)

theorem readsBack_number {n : Number} (hn : isDouble (.number n) = false) :
    ReadsBack (.number n) := by
  refine readsBack_of_ok rfl fun fuel room rest hrest => ?_
  cases n with
  | nat n =>
    have hread : readNumber true (digits n.toNat ++ rest) = .ok (.nat n, rest) := by
      rw [readNumber_digits true n.toNat_lt hrest]
      simp [integer]
    obtain ⟨d, ds, hds, hdigit, -⟩ := exists_digits n.toNat
    rw [hds, List.cons_append] at hread
    rw [write_nat, hds, List.cons_append, readValue_digit fuel room hdigit, hread]
    rfl
  | negSucc n =>
    have hn : n.val + 1 ≤ 0x8000000000000000 := n.isLt
    have hread : readNumber false (digits (n.val + 1) ++ rest) = .ok (.negSucc n, rest) := by
      rw [readNumber_digits false (by omega) hrest]
      simp [integer, hn]
    rw [write_negSucc, List.cons_append, readValue]
    show (readNumber false (digits (n.val + 1) ++ rest)).map _ = _
    rw [hread]
    rfl
  | float x => cases hn

theorem readsBack_string (t : String) : ReadsBack (.string t) := by
  refine readsBack_of_ok rfl fun fuel room rest _ => ?_
  have hread := readString_escaped t rest
  rw [write, writeString, readValue]
  simp [skipBlanks, isBlank, hread, Except.map]

theorem readsBack_array {items : List Json} (hexact : ∀ v ∈ items, v.isDouble = false)
    (hback : ∀ v ∈ items, ReadsBack v) : ReadsBack (.array items) := by
  intro fuel room rest hfuel hrest
  obtain ⟨fuel, rfl⟩ : ∃ k, fuel = k + 1 := ⟨fuel - 1, by omega⟩
  simp only [write, writeItems_eq, List.length_cons, List.length_append, List.length_nil] at hfuel
  simp only [write, writeItems_eq, List.cons_append, List.append_assoc, List.nil_append, depth]
  cases room with
  | zero =>
    -- No room for the bracket itself.
    rw [readValue]
    exact .error _ ⟨rfl, Nat.succ_pos _⟩
  | succ room =>
    have hitems := readItems_itemsFrom hexact hback fuel room true rest (by omega)
    rw [readValue_array]
    exact (hitems.map fun (items, rest) => (Json.array items, rest)).congr fun c => deep_succ.symm

theorem readsBack_object {fields : List (String × Json)} (hsorted : Fields.Sorted fields)
    (hback : ∀ e ∈ fields, ReadsBack e.2) : ReadsBack (.object fields) := by
  intro fuel room rest hfuel hrest
  obtain ⟨fuel, rfl⟩ : ∃ k, fuel = k + 1 := ⟨fuel - 1, by omega⟩
  simp only [write, writeFields_eq, List.length_cons, List.length_append, List.length_nil] at hfuel
  simp only [write, writeFields_eq, List.cons_append, List.append_assoc, List.nil_append, depth]
  cases room with
  | zero =>
    rw [readValue]
    exact .error _ ⟨rfl, Nat.succ_pos _⟩
  | succ room =>
    have hfields := readFields_fieldsFrom hback fuel room true rest (by omega)
    have hvalue := hfields.map fun (fields, rest) => (Json.object (Fields.ofList fields), rest)
    dsimp only at hvalue
    rw [Fields.ofList_of_sorted hsorted] at hvalue
    rw [readValue_object]
    exact hvalue.congr fun c => deep_succ.symm

/-- **A written value reads back** if there is room for it, and is refused as too
deep if there is not. -/
theorem readValue_write {v : Json} (hexact : v.Exact) (hordered : v.Ordered) : ReadsBack v := by
  induction v using induct with
  | null =>
    refine readsBack_of_ok rfl fun fuel room rest _ => ?_
    rw [readValue]
    exact readWord_append Json.null [0x75, 0x6C, 0x6C] rest
  | bool b =>
    refine readsBack_of_ok rfl fun fuel room rest _ => ?_
    rw [readValue]
    cases b with
    | true => exact readWord_append (Json.bool true) [0x72, 0x75, 0x65] rest
    | false => exact readWord_append (Json.bool false) [0x61, 0x6C, 0x73, 0x65] rest
  | number n => exact readsBack_number (hexact _ (self_mem_parts _))
  | string t => exact readsBack_string t
  | array items ih =>
    obtain ⟨-, hexact⟩ := forall_parts_array.1 hexact
    obtain ⟨-, hordered⟩ := forall_parts_array.1 hordered
    exact readsBack_array (fun v hv => hexact v hv v (self_mem_parts v))
      fun v hv => ih v hv (hexact v hv) (hordered v hv)
  | object fields ih =>
    obtain ⟨-, hexact⟩ := forall_parts_object.1 hexact
    obtain ⟨hsorted, hordered⟩ := forall_parts_object.1 hordered
    exact readsBack_object hsorted fun e he => ih e he (hexact e he) (hordered e he)

end Json
end Tagram
