/-
# What can be wrong with a JSON text

A fault has a cause and a place. Readers see only what is left of the text, so
the place is counted from the end: `left` bytes lie after it. The line and the
column of the place are computed from the whole text when the fault is worded;
lines are counted from one, columns in bytes from the last line break.

A text that is not UTF-8 is found out only when its closing quote is read. Its
column then lies as many bytes back as the text has from its first bad byte
on.

Key definitions: `Json.Cause`, `Json.Fault`, `Json.Fault.here`,
`Json.Fault.next`, `Json.Fault.message`.
-/
import Tagram.Bytes

namespace Tagram
namespace Json

/-- What is wrong. -/
inductive Cause where
  | endInList
  | endInObject
  | endInString
  | endInValue
  | colonExpected
  | listSeparatorExpected
  | objectSeparatorExpected
  | wordExpected
  | valueExpected
  | keyExpected
  | badEscape
  | badNumber
  | outOfRange
  /-- The text is not UTF-8 from `back` bytes before its end on. -/
  | notUtf8 (back : Nat)
  | controlCharacter
  | loneSurrogate
  | surrogateCutOff
  | trailingComma
  | trailingCharacters
  | tooDeep
  /-- A field that must be a text is something else. -/
  | textExpected (found : String)
  | missingField (name : String)
  | duplicateField (name : String)
  deriving DecidableEq

/-- The wording of a cause. -/
def Cause.message : Cause → String
  | .endInList => "EOF while parsing a list"
  | .endInObject => "EOF while parsing an object"
  | .endInString => "EOF while parsing a string"
  | .endInValue => "EOF while parsing a value"
  | .colonExpected => "expected `:`"
  | .listSeparatorExpected => "expected `,` or `]`"
  | .objectSeparatorExpected => "expected `,` or `\x7d`"
  | .wordExpected => "expected ident"
  | .valueExpected => "expected value"
  | .keyExpected => "key must be a string"
  | .badEscape => "invalid escape"
  | .badNumber => "invalid number"
  | .outOfRange => "number out of range"
  | .notUtf8 _ => "invalid unicode code point"
  | .controlCharacter => "control character (\\u0000-\\u001F) found while parsing a string"
  | .loneSurrogate => "lone leading surrogate in hex escape"
  | .surrogateCutOff => "unexpected end of hex escape"
  | .trailingComma => "trailing comma"
  | .trailingCharacters => "trailing characters"
  | .tooDeep => "recursion limit exceeded"
  | .textExpected found => "invalid type: " ++ found ++ ", expected a string"
  | .missingField name => "missing field `" ++ name ++ "`"
  | .duplicateField name => "duplicate field `" ++ name ++ "`"

/-- A cause and the number of bytes after its place. -/
structure Fault where
  cause : Cause
  left : Nat
  deriving DecidableEq

namespace Fault

/-- A fault just before the bytes `rest`. -/
def here (cause : Cause) (rest : Bytes) : Fault := ⟨cause, rest.length⟩

/-- A fault at the first of the bytes `rest`, or at the end if there is none. -/
def next (cause : Cause) (rest : Bytes) : Fault := ⟨cause, rest.length - 1⟩

/-- The line and the column after the bytes read so far. -/
def lineColumn (before : Bytes) : Nat × Nat :=
  before.foldl (fun (place : Nat × Nat) (b : UInt8) =>
    if b = 0x0A then (place.1 + 1, 0) else (place.1, place.2 + 1)) (1, 0)

/-- The wording of a fault in the text `input`. -/
def message (input : Bytes) (f : Fault) : String :=
  let (line, column) := lineColumn (input.take (input.length - f.left))
  let column :=
    match f.cause with
    | .notUtf8 back => column - back
    | _ => column
  s!"{f.cause.message} at line {line} column {column}"

end Fault

/-- A reader's result: a value with the bytes after it, or a fault. -/
abbrev Result (α : Type) := Except Fault (α × Bytes)

end Json
end Tagram
