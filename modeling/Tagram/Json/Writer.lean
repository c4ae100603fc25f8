/-
# Writing JSON

A value as text without blanks. In a string the quote, the backslash and the
control characters are escaped, five of them by a letter and the others by
four hexadecimal digits; every other character stands as it is.

Key definitions: `Json.writeString`, `Json.write`, `Json.writeItems`,
`Json.writeFields`.
-/
import Tagram.Json.Number

namespace Tagram
namespace Json

/-- One byte of a text between quotes. -/
def escapeByte (b : UInt8) : Bytes :=
  if b = 0x22 then [0x5C, 0x22]
  else if b = 0x5C then [0x5C, 0x5C]
  else if b = 0x08 then [0x5C, 0x62]
  else if b = 0x0C then [0x5C, 0x66]
  else if b = 0x0A then [0x5C, 0x6E]
  else if b = 0x0D then [0x5C, 0x72]
  else if b = 0x09 then [0x5C, 0x74]
  else if b < 0x20 then
    [0x5C, 0x75, 0x30, 0x30] ++ Bytes.ofText (Bytes.toHex [b])
  else [b]

/-- A text in quotes. -/
def writeString (t : String) : Bytes :=
  0x22 :: (Bytes.ofText t).flatMap escapeByte ++ [0x22]

mutual

/-- The text of a value. -/
def write : Json → Bytes
  | .null => Bytes.ofText "null"
  | .bool b => Bytes.ofText (if b then "true" else "false")
  | .number n => Bytes.ofText n.text
  | .string t => writeString t
  | .array items => 0x5B :: writeItems items ++ [0x5D]
  | .object fields => 0x7B :: writeFields fields ++ [0x7D]

/-- The texts of items, with commas between them. -/
def writeItems : List Json → Bytes
  | [] => []
  | [item] => write item
  | item :: items => write item ++ 0x2C :: writeItems items

/-- The texts of fields, with commas between them. -/
def writeFields : List (String × Json) → Bytes
  | [] => []
  | [(key, value)] => writeString key ++ 0x3A :: write value
  | (key, value) :: fields => writeString key ++ 0x3A :: write value ++ 0x2C :: writeFields fields

end

end Json
end Tagram
