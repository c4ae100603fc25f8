/-
# Envelopes

An envelope is a JSON object with a text field `msg_id` and any other fields.
It stands at the front of a buffer; a scan finds its end, and the bytes up to
there are read as one object. The fields other than `msg_id` are kept as
values, sorted by key.

Writing puts `msg_id` first and the other fields after it.

Key definitions: `Envelope`, `Envelope.Error`, `Envelope.read`,
`Envelope.decode`, `Envelope.decodeOrStay`, `Envelope.split`,
`Envelope.encode`.
-/
import Tagram.Envelope.Scan
import Tagram.Json.Reader
import Tagram.Json.Writer

namespace Tagram

/-- A message id and the other fields of the object. -/
structure Envelope where
  msgId : String
  extra : List (String × Json)

namespace Envelope

/-- The name of the field that holds the message id. -/
def msgIdField : String := "msg_id"

/-- Equality by value. -/
def equal (a b : Envelope) : Bool := a.msgId == b.msgId && Json.equalFields a.extra b.extra

/-! ### Errors -/

/-- Why a buffer does not start with an envelope. -/
inductive Error where
  /-- The scan found no end of an object. -/
  | unbalanced
  /-- The object, whose bytes are `text`, is at fault. -/
  | malformed (text : Bytes) (fault : Json.Fault)
  deriving DecidableEq

/-- The wording of an error. -/
def Error.message : Error → String
  | .unbalanced => "malformed envelope: no balanced object at start of buffer"
  | .malformed text fault => "malformed envelope: " ++ fault.message text

/-! ### Reading -/

/-- What a value that is no text is called. -/
def describe : Json → String
  | .null => "null"
  | .bool b => "boolean `" ++ (if b then "true" else "false") ++ "`"
  | .number (.float x) => "floating point `" ++ Json.floatText x ++ "`"
  | .number n => "integer `" ++ n.text ++ "`"
  | .string _ => "string"
  | .array _ => "sequence"
  | .object _ => "map"

/-- A value that must be a text. Another scalar is read first, and is at fault
just after it; an array or an object is at fault before its bracket. -/
def readText (s : Bytes) : Json.Result String :=
  match Json.skipBlanks s with
  | 0x22 :: rest => Json.readString rest
  | 0x5B :: rest => .error (.here (.textExpected (describe (.array []))) (0x5B :: rest))
  | 0x7B :: rest => .error (.here (.textExpected (describe (.object []))) (0x7B :: rest))
  | s =>
    match Json.readValue (s.length + 1) 0 s with
    | .error f => .error f
    | .ok (value, rest) => .error (.here (.textExpected (describe value)) rest)

/-- Where reading an object is left when its fields are given up at `s`: after
the blanks, and after the closing brace if it comes next. -/
def leave (s : Bytes) : Bytes :=
  match Json.skipBlanks s with
  | 0x7D :: rest => rest
  | s => s

/-- The fields of an envelope up to the closing brace, after those read so far. -/
def readFields (fuel : Nat) (first : Bool) (msgId : Option String) (extra : List (String × Json))
    (s : Bytes) : Json.Result Envelope :=
  match fuel with
  | 0 => .error (.here .endInValue s)
  | fuel + 1 =>
    match Json.nextKey first s with
    | .error f => .error f
    | .ok (.closed rest) =>
      match msgId with
      | none => .error (.here (.missingField msgIdField) rest)
      | some msgId => .ok (⟨msgId, extra⟩, rest)
    | .ok (.opened start) =>
      match Json.readString start with
      | .error f => .error f
      | .ok (key, rest) =>
        if key = msgIdField then
          if msgId.isSome then .error (.here (.duplicateField msgIdField) (leave rest))
          else
            match Json.readColon rest with
            | .error f => .error f
            | .ok rest =>
              match readText rest with
              | .error f => .error f
              | .ok (t, rest) => readFields fuel false (some t) extra rest
        else
          match Json.readColon rest with
          | .error f => .error f
          | .ok rest =>
            match Json.readValue fuel (Json.maxDepth - 1) rest with
            | .error f => .error f
            | .ok (value, rest) =>
              readFields fuel false msgId (Json.Fields.insert key value extra) rest

/-- Reads a whole text, which starts with a brace, as one envelope. -/
def read (text : Bytes) : Except Json.Fault Envelope := do
  let (envelope, rest) ← readFields (text.length + 1) true none [] (text.drop 1)
  Json.readEnd rest
  return envelope

/-- The envelope at the front of a buffer and the bytes it takes. -/
def decode (scan : Scan) (buffer : Bytes) : Except Error (Envelope × Nat) :=
  match scan.find buffer with
  | none => .error .unbalanced
  | some n =>
    match read (buffer.take n) with
    | .error fault => .error (.malformed (buffer.take n) fault)
    | .ok envelope => .ok (envelope, n)

/-- The envelope at the front of a buffer, or nothing and no bytes. -/
def decodeOrStay (buffer : Bytes) : Option Envelope × Nat :=
  match decode .default buffer with
  | .ok (envelope, n) => (some envelope, n)
  | .error _ => (none, 0)

/-- The envelope at the front of a buffer and the body after it. -/
def split (scan : Scan) (buffer : Bytes) : Except Error (Envelope × Bytes) :=
  (decode scan buffer).map fun (envelope, n) => (envelope, buffer.drop n)

/-! ### Writing -/

/-- The text of an envelope. -/
def encode (e : Envelope) : Bytes :=
  Json.write (.object ((msgIdField, .string e.msgId) :: e.extra))

end Envelope
end Tagram
