/-
# Quoted text

A text shown in double quotes so that it stays on one line and every
character in it can be told apart. The quote and the backslash are escaped,
five control characters have short names, and whatever does not print, or
would attach itself to the character before it, is written by its number in
hexadecimal between braces. A single quote stands as it is.

Key definitions: `Text.quote`.
-/
import Tagram.Text.Combining
import Tagram.Text.Printable

namespace Tagram
namespace Text

/-- A code point in hexadecimal between braces. -/
def numbered (c : Char) : String :=
  "\\u\x7b" ++ String.ofList (Nat.toDigits 16 c.toNat) ++ "\x7d"

/-- One character of a quoted text. -/
def quoteChar (c : Char) : String :=
  if c = '"' then "\\\""
  else if c = '\\' then "\\\\"
  else if c = '\n' then "\\n"
  else if c = '\r' then "\\r"
  else if c = '\t' then "\\t"
  else if c.toNat = 0 then "\\0"
  else if extendsPrevious c || !isPrintable c then numbered c
  else c.toString

/-- A text in double quotes, on one line. -/
def quote (t : String) : String :=
  "\"" ++ t.foldl (fun out c => out ++ quoteChar c) "" ++ "\""

end Text
end Tagram
