/-
# Reading JSON

Reading a value off the front of a byte string, with the bytes after it. The
first fault met is the result. Values nest at most 127 deep inside one
another; the depth still allowed is passed down as `room`.

A text is read in two steps: its bytes are unescaped up to the closing quote,
and then they must be UTF-8. An escape of four hexadecimal digits is a unit of
UTF-16, so a character above U+FFFF takes two of them.

Every step of the recursion reads at least one byte, so the length of the
input bounds its depth; that bound is `fuel`.

Key definitions: `Json.readString`, `Json.nextItem`, `Json.nextKey`,
`Json.readColon`, `Json.readValue`, `Json.read`.
-/
import Tagram.Json.Number
import Tagram.Text.Utf8

namespace Tagram
namespace Json

/-- Whether a byte is blank between tokens. -/
def isBlank (b : UInt8) : Bool := b = 0x20 || b = 0x0A || b = 0x09 || b = 0x0D

/-- The bytes from the first that is not blank on. -/
def skipBlanks (s : Bytes) : Bytes := s.dropWhile isBlank

/-! ### Texts -/

/-- The value of a hexadecimal digit. -/
def hexValue? (b : UInt8) : Option Nat :=
  if 0x30 ≤ b && b ≤ 0x39 then some (b.toNat - 0x30)
  else if 0x41 ≤ b && b ≤ 0x46 then some (b.toNat - 0x37)
  else if 0x61 ≤ b && b ≤ 0x66 then some (b.toNat - 0x57)
  else none

/-- The value of four hexadecimal digits. -/
def hexUnit? (a b c d : UInt8) : Option Nat := do
  return (((← hexValue? a) * 16 + (← hexValue? b)) * 16 + (← hexValue? c)) * 16 + (← hexValue? d)

/-- Whether a unit is the first half of a pair. -/
def isHighSurrogate (n : Nat) : Bool := 0xD800 ≤ n && n ≤ 0xDBFF

/-- Whether a unit is the second half of a pair. -/
def isLowSurrogate (n : Nat) : Bool := 0xDC00 ≤ n && n ≤ 0xDFFF

/-- The code point of a pair. -/
def joinSurrogates (high low : Nat) : Nat := (high - 0xD800) * 0x400 + (low - 0xDC00) + 0x10000

/-- The UTF-8 bytes of a code point. -/
def codePointBytes (n : Nat) : Bytes := String.utf8EncodeChar (Char.ofNat n)

/-- The byte that a one letter escape stands for. -/
def simpleEscape? (b : UInt8) : Option UInt8 :=
  if b = 0x22 || b = 0x5C || b = 0x2F then some b
  else if b = 0x62 then some 0x08
  else if b = 0x66 then some 0x0C
  else if b = 0x6E then some 0x0A
  else if b = 0x72 then some 0x0D
  else if b = 0x74 then some 0x09
  else none

/-- The unescaped bytes up to the closing quote, after those in `done`, which
are in reverse order. -/
def unescape (done : Bytes) : Bytes → Result Bytes
  | [] => .error (.here .endInString [])
  | 0x22 :: rest => .ok (done.reverse, rest)
  | 0x5C :: rest =>
    match rest with
    | [] => .error (.here .endInString [])
    | 0x75 :: a :: b :: c :: d :: rest =>
      match hexUnit? a b c d with
      | none => .error (.here .badEscape rest)
      | some n =>
        if isLowSurrogate n then .error (.here .loneSurrogate rest)
        else if isHighSurrogate n then
          match rest with
          | [] => .error (.here .endInString [])
          | 0x5C :: [] => .error (.here .endInString [])
          | 0x5C :: 0x75 :: a :: b :: c :: d :: rest =>
            match hexUnit? a b c d with
            | none => .error (.here .badEscape rest)
            | some m =>
              if isLowSurrogate m then
                unescape ((codePointBytes (joinSurrogates n m)).reverse ++ done) rest
              else .error (.here .loneSurrogate rest)
          | 0x5C :: 0x75 :: _ => .error (.here .endInString [])
          | 0x5C :: _ :: rest => .error (.here .surrogateCutOff rest)
          | _ :: rest => .error (.here .surrogateCutOff rest)
        else unescape ((codePointBytes n).reverse ++ done) rest
    | 0x75 :: _ => .error (.here .endInString [])
    | b :: rest =>
      match simpleEscape? b with
      | none => .error (.here .badEscape rest)
      | some b => unescape (b :: done) rest
  | b :: rest =>
    if b < 0x20 then .error (.here .controlCharacter rest) else unescape (b :: done) rest

/-- A text after its opening quote. -/
def readString (s : Bytes) : Result String :=
  match unescape [] s with
  | .error f => .error f
  | .ok (text, rest) =>
    match Bytes.toText? text with
    | some t => .ok (t, rest)
    | none => .error (.here (.notUtf8 (text.length - Text.validPrefix text)) rest)

/-! ### Tokens between values -/

/-- Reads the rest of a fixed word. -/
def readWord (value : α) : (word : Bytes) → Bytes → Result α
  | [], s => .ok (value, s)
  | _ :: _, [] => .error (.here .endInValue [])
  | w :: word, b :: rest =>
    if b = w then readWord value word rest else .error (.here .wordExpected rest)

/-- What comes next inside brackets: their end, or an entry. -/
inductive Entry where
  /-- The closing bracket, and what follows it. -/
  | closed (rest : Bytes)
  /-- An entry, which starts at `start`. -/
  | opened (start : Bytes)

/-- Whether an array ends, and where its next item starts. -/
def nextItem (first : Bool) (s : Bytes) : Except Fault Entry :=
  match skipBlanks s with
  | [] => .error (.next .endInList [])
  | 0x5D :: rest => .ok (.closed rest)
  | b :: rest =>
    if first then .ok (.opened (b :: rest))
    else if b = 0x2C then
      match skipBlanks rest with
      | [] => .error (.next .endInValue [])
      | 0x5D :: rest => .error (.next .trailingComma (0x5D :: rest))
      | start => .ok (.opened start)
    else .error (.next .listSeparatorExpected (b :: rest))

/-- The start of a key, after its opening quote. -/
def keyStart (s : Bytes) : Except Fault Entry :=
  match s with
  | [] => .error (.next .endInValue [])
  | 0x22 :: rest => .ok (.opened rest)
  | 0x7D :: rest => .error (.next .trailingComma (0x7D :: rest))
  | s => .error (.next .keyExpected s)

/-- Whether an object ends, and where its next key starts. -/
def nextKey (first : Bool) (s : Bytes) : Except Fault Entry :=
  match skipBlanks s with
  | [] => .error (.next .endInObject [])
  | 0x7D :: rest => .ok (.closed rest)
  | b :: rest =>
    if first then keyStart (b :: rest)
    else if b = 0x2C then keyStart (skipBlanks rest)
    else .error (.next .objectSeparatorExpected (b :: rest))

/-- The bytes after the colon that follows a key. -/
def readColon (s : Bytes) : Except Fault Bytes :=
  match skipBlanks s with
  | [] => .error (.next .endInObject [])
  | 0x3A :: rest => .ok rest
  | s => .error (.next .colonExpected s)

/-! ### Values -/

mutual

/-- A value. -/
def readValue (fuel room : Nat) (s : Bytes) : Result Json :=
  match fuel with
  | 0 => .error (.here .endInValue s)
  | fuel + 1 =>
    match skipBlanks s with
    | [] => .error (.next .endInValue [])
    | 0x6E :: rest => readWord .null [0x75, 0x6C, 0x6C] rest
    | 0x74 :: rest => readWord (.bool true) [0x72, 0x75, 0x65] rest
    | 0x66 :: rest => readWord (.bool false) [0x61, 0x6C, 0x73, 0x65] rest
    | 0x22 :: rest => (readString rest).map fun (t, rest) => (.string t, rest)
    | 0x5B :: rest =>
      if room = 0 then .error (.next .tooDeep (0x5B :: rest))
      else (readItems fuel (room - 1) true rest).map fun (items, rest) => (.array items, rest)
    | 0x7B :: rest =>
      if room = 0 then .error (.next .tooDeep (0x7B :: rest))
      else (readFields fuel (room - 1) true rest).map fun (fields, rest) =>
        (.object (Fields.ofList fields), rest)
    | 0x2D :: rest => (readNumber false rest).map fun (n, rest) => (.number n, rest)
    | b :: rest =>
      if isDigit b then (readNumber true (b :: rest)).map fun (n, rest) => (.number n, rest)
      else .error (.next .valueExpected (b :: rest))

/-- The items of an array up to its closing bracket. -/
def readItems (fuel room : Nat) (first : Bool) (s : Bytes) : Result (List Json) :=
  match fuel with
  | 0 => .error (.here .endInValue s)
  | fuel + 1 =>
    match nextItem first s with
    | .error f => .error f
    | .ok (.closed rest) => .ok ([], rest)
    | .ok (.opened start) =>
      match readValue fuel room start with
      | .error f => .error f
      | .ok (item, rest) =>
        (readItems fuel room false rest).map fun (items, rest) => (item :: items, rest)

/-- The fields of an object, in the order of the text, up to its closing brace. -/
def readFields (fuel room : Nat) (first : Bool) (s : Bytes) : Result (List (String × Json)) :=
  match fuel with
  | 0 => .error (.here .endInValue s)
  | fuel + 1 =>
    match nextKey first s with
    | .error f => .error f
    | .ok (.closed rest) => .ok ([], rest)
    | .ok (.opened start) =>
      match readString start with
      | .error f => .error f
      | .ok (key, rest) =>
        match readColon rest with
        | .error f => .error f
        | .ok rest =>
          match readValue fuel room rest with
          | .error f => .error f
          | .ok (value, rest) =>
            (readFields fuel room false rest).map fun (fields, rest) =>
              ((key, value) :: fields, rest)

end

/-- How deep values nest in one another. -/
def maxDepth : Nat := 127

/-- Nothing but blanks may follow a whole text. -/
def readEnd (s : Bytes) : Except Fault Unit :=
  match skipBlanks s with
  | [] => .ok ()
  | rest => .error (.next .trailingCharacters rest)

/-- Reads a whole text as one value. -/
def read (s : Bytes) : Except Fault Json := do
  let (value, rest) ← readValue (s.length + 1) maxDepth s
  readEnd rest
  return value

end Json
end Tagram
