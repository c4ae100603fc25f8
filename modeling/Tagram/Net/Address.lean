/-
# Socket addresses

An address is an IP address of version 4 or 6 with a port; a version 6 address
may have a numeric scope.

Version 4 is written as four decimal numbers with dots between them, without
leading zeros. Version 6 is eight groups of up to four hexadecimal digits with
colons between them, where one run of zero groups may be left out between two
colons, and the last two groups may be written as a version 4 address; it
stands in brackets before the port. Printing uses lowercase, leaves out the
first of the longest runs of at least two zero groups, and writes an address
that maps version 4 with its dotted form.

Key definitions: `Net.Address`, `Net.Address.parse?`, `Net.Address.text`.
-/

namespace Tagram
namespace Net

/-- An IP address and a port. -/
inductive Address where
  | v4 (a b c d : UInt8) (port : UInt16)
  | v6 (groups : Vector UInt16 8) (scope : UInt32) (port : UInt16)
  deriving DecidableEq

namespace Address

/-- The port. -/
def port : Address → UInt16
  | .v4 _ _ _ _ port => port
  | .v6 _ _ port => port

/-! ### Reading -/

/-- What is left of a text after one of its parts. -/
abbrev Rest := List Char

/-- The value of a digit to base 10 or 16. -/
def digit? (base : Nat) (c : Char) : Option Nat :=
  let n :=
    if '0' ≤ c && c ≤ '9' then some (c.toNat - 48)
    else if 'a' ≤ c && c ≤ 'f' then some (c.toNat - 87)
    else if 'A' ≤ c && c ≤ 'F' then some (c.toNat - 55)
    else none
  n.filter (· < base)

/-- A given character. -/
def char? (c : Char) : Rest → Option Rest
  | d :: rest => if d = c then some rest else none
  | [] => none

/-- A number below `limit` of at most `digits` digits, if a number of digits is
given. Unless `zeros` it has no leading zero. -/
def number? (base limit : Nat) (digits : Option Nat) (zeros : Bool) (s : Rest) :
    Option (Nat × Rest) :=
  let isDigit c := (digit? base c).isSome
  let ds := s.takeWhile isDigit
  let n := ds.foldl (fun n c => n * base + (digit? base c).getD 0) 0
  let fits := (digits.map fun k => decide (ds.length ≤ k)).getD true
  let leadingZero := ds.head? = some '0' && 1 < ds.length
  if ds.isEmpty || !fits || limit ≤ n || (leadingZero && !zeros) then none
  else some (n, s.dropWhile isDigit)

/-- One of the four parts of a version 4 address. -/
def octet? (s : Rest) : Option (UInt8 × Rest) :=
  (number? 10 256 (some 3) false s).map fun (n, s) => (UInt8.ofNat n, s)

/-- A version 4 address. -/
def readV4? (s : Rest) : Option ((UInt8 × UInt8 × UInt8 × UInt8) × Rest) := do
  let (a, s) ← octet? s
  let s ← char? '.' s
  let (b, s) ← octet? s
  let s ← char? '.' s
  let (c, s) ← octet? s
  let s ← char? '.' s
  let (d, s) ← octet? s
  return ((a, b, c, d), s)

/-- The group of two octets. -/
def joinOctets (a b : UInt8) : UInt16 := UInt16.ofNat (a.toNat * 256 + b.toNat)

/-- Up to `count` groups with colons between them; the last two may be a version
4 address. Returns the groups and whether they end in one. -/
def readGroups : (count : Nat) → (first : Bool) → Rest → List UInt16 × Bool × Rest
  | 0, _, s => ([], false, s)
  | count + 1, first, s =>
    let start := if first then some s else char? ':' s
    let dotted := if count = 0 then none else start.bind readV4?
    match dotted with
    | some ((a, b, c, d), rest) => ([joinOctets a b, joinOctets c d], true, rest)
    | none =>
      match start.bind (number? 16 0x10000 (some 4) true) with
      | none => ([], false, s)
      | some (n, rest) =>
        let (groups, dotted, rest) := readGroups count false rest
        (UInt16.ofNat n :: groups, dotted, rest)

/-- Eight groups: `head`, zeros, `tail`. -/
def fill (head tail : List UInt16) : Vector UInt16 8 :=
  Vector.ofFn fun i : Fin 8 =>
    if i.val < head.length then head.getD i.val 0
    else if i.val < 8 - tail.length then 0
    else tail.getD (i.val - (8 - tail.length)) 0

/-- A version 6 address. -/
def readV6? (s : Rest) : Option (Vector UInt16 8 × Rest) :=
  let (head, dotted, s) := readGroups 8 true s
  if head.length = 8 then some (fill head [], s)
  else if dotted then none
  else do
    let s ← char? ':' s
    let s ← char? ':' s
    let (tail, _, s) := readGroups (8 - (head.length + 1)) true s
    return (fill head tail, s)

/-- A colon and a port. -/
def readPort? (s : Rest) : Option (UInt16 × Rest) := do
  let s ← char? ':' s
  let (n, s) ← number? 10 0x10000 none true s
  return (UInt16.ofNat n, s)

/-- A percent sign and a scope, or no scope. -/
def readScope (s : Rest) : UInt32 × Rest :=
  match (char? '%' s).bind (number? 10 0x100000000 none true) with
  | some (n, rest) => (UInt32.ofNat n, rest)
  | none => (0, s)

/-- A version 4 address and a port. -/
def readSocketV4? (s : Rest) : Option (Address × Rest) := do
  let ((a, b, c, d), s) ← readV4? s
  let (port, s) ← readPort? s
  return (.v4 a b c d port, s)

/-- A version 6 address in brackets and a port. -/
def readSocketV6? (s : Rest) : Option (Address × Rest) := do
  let s ← char? '[' s
  let (groups, s) ← readV6? s
  let (scope, s) := readScope s
  let s ← char? ']' s
  let (port, s) ← readPort? s
  return (.v6 groups scope port, s)

/-- The address that a text names. -/
def parse? (t : String) : Option Address :=
  match (readSocketV4? t.toList).or (readSocketV6? t.toList) with
  | some (address, []) => some address
  | _ => none

/-- What is said of a text that names no address. -/
def invalidMessage : String := "invalid socket address syntax"

/-! ### Writing -/

/-- Four octets with dots between them. -/
def dotted (a b c d : Nat) : String := s!"{a}.{b}.{c}.{d}"

/-- A group in hexadecimal. -/
def groupText (g : UInt16) : String := String.ofList (Nat.toDigits 16 g.toNat)

/-- Groups with colons between them. -/
def groupsText (gs : List UInt16) : String := ":".intercalate (gs.map groupText)

/-- The first of the longest runs of zero groups, as its start and length, where
`here` is the run that ends just before `gs` and `best` the longest one so far. -/
def longestRun (here best : Nat × Nat) (index : Nat) : List UInt16 → Nat × Nat
  | [] => best
  | g :: gs =>
    let here := if g = 0 then (here.1, here.2 + 1) else (index + 1, 0)
    let best := if best.2 < here.2 then here else best
    longestRun here best (index + 1) gs

/-- A version 6 address. -/
def v6Text (groups : List UInt16) : String :=
  match groups with
  | [0, 0, 0, 0, 0, 0xFFFF, x, y] =>
    "::ffff:" ++ dotted (x.toNat / 256) (x.toNat % 256) (y.toNat / 256) (y.toNat % 256)
  | _ =>
    let (start, length) := longestRun (0, 0) (0, 0) 0 groups
    if 1 < length then
      groupsText (groups.take start) ++ "::" ++ groupsText (groups.drop (start + length))
    else groupsText groups

/-- The text of an address. -/
def text : Address → String
  | .v4 a b c d port => dotted a.toNat b.toNat c.toNat d.toNat ++ ":" ++ toString port.toNat
  | .v6 groups scope port =>
    let ip := v6Text groups.toList
    let zone := if scope = 0 then "" else "%" ++ toString scope.toNat
    "[" ++ ip ++ zone ++ "]:" ++ toString port.toNat

end Address
end Net
end Tagram
