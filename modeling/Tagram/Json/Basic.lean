/-
# JSON values

A JSON value. A number is a non-negative integer below 2^64, a negative
integer from -2^63 up, or a double; the three kinds never equal each other.
The fields of an object are kept in ascending order of their keys, one field
for a key.

Key definitions: `Json`, `Json.Number`, `Json.equal`, `Json.Fields.insert`,
`Json.Fields.ofList`.
-/

namespace Tagram

/-- A number, by kind. -/
inductive Json.Number where
  /-- A non-negative integer. -/
  | nat (n : UInt64)
  /-- The negative integer `-(n + 1)`. -/
  | negSucc (n : Fin 0x8000000000000000)
  | float (x : Float)

/-- A JSON value. -/
inductive Json where
  | null
  | bool (b : Bool)
  | number (n : Json.Number)
  | string (s : String)
  | array (items : List Json)
  | object (fields : List (String × Json))

namespace Json

/-- Equality by kind and value; the two zeros of a double are equal. -/
def Number.equal : Number → Number → Bool
  | .nat n, .nat m => n == m
  | .negSucc n, .negSucc m => n == m
  | .float x, .float y => x == y
  | _, _ => false

mutual

/-- Equality by value. -/
def equal : Json → Json → Bool
  | .null, .null => true
  | .bool a, .bool b => a == b
  | .number a, .number b => a.equal b
  | .string a, .string b => a == b
  | .array a, .array b => equalItems a b
  | .object a, .object b => equalFields a b
  | _, _ => false

/-- Equality item by item. -/
def equalItems : List Json → List Json → Bool
  | [], [] => true
  | a :: as, b :: bs => equal a b && equalItems as bs
  | _, _ => false

/-- Equality field by field. -/
def equalFields : List (String × Json) → List (String × Json) → Bool
  | [], [] => true
  | (k, a) :: as, (l, b) :: bs => k == l && equal a b && equalFields as bs
  | _, _ => false

end

namespace Fields

/-- Sets a field, and keeps the keys in ascending order. -/
def insert (key : String) (value : Json) : List (String × Json) → List (String × Json)
  | [] => [(key, value)]
  | (k, v) :: rest =>
    match compare key k with
    | .lt => (key, value) :: (k, v) :: rest
    | .eq => (key, value) :: rest
    | .gt => (k, v) :: insert key value rest

/-- The fields set one after another: of two with the same key the later stays. -/
def ofList (entries : List (String × Json)) : List (String × Json) :=
  entries.foldl (fun fields e => insert e.1 e.2 fields) []

/-- The keys in ascending order, each once. -/
def Sorted : List (String × Json) → Prop
  | [] => True
  | (k, _) :: rest => (∀ e ∈ rest, k < e.1) ∧ Sorted rest

end Fields
end Json
end Tagram
