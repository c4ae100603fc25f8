/-
# Named fields on one line

Key definitions: `Text.record`.
-/

namespace Tagram
namespace Text

/-- A name and its fields between braces, on one line. -/
def record (name : String) (fields : List (String × String)) : String :=
  name ++ " \x7b " ++ ", ".intercalate (fields.map fun f => f.1 ++ ": " ++ f.2) ++ " \x7d"

end Text
end Tagram
