/-
# Socket errors

What a socket call fails with: a kind, a description, and the number of the
operating system's error if it came from there. Two kinds say that a wait ran
out and nothing is wrong.

Key definitions: `Net.ErrorKind`, `Net.SocketError`, `Net.SocketError.isTimeout`,
`Net.SocketError.text`, `Net.SocketError.describe`.
-/
import Tagram.Text.Quoted
import Tagram.Text.Record

namespace Tagram
namespace Net

/-- The kinds of socket errors. -/
inductive ErrorKind where
  | notFound
  | permissionDenied
  | connectionRefused
  | connectionReset
  | hostUnreachable
  | networkUnreachable
  | connectionAborted
  | notConnected
  | addrInUse
  | addrNotAvailable
  | networkDown
  | brokenPipe
  | alreadyExists
  | wouldBlock
  | invalidInput
  | invalidData
  | timedOut
  | writeZero
  | interrupted
  | unsupported
  | unexpectedEof
  | outOfMemory
  | other
  | uncategorized
  deriving DecidableEq

namespace ErrorKind

/-- Every kind with its name and its description. -/
def table : List (ErrorKind × String × String) := [
  (.notFound, "NotFound", "entity not found"),
  (.permissionDenied, "PermissionDenied", "permission denied"),
  (.connectionRefused, "ConnectionRefused", "connection refused"),
  (.connectionReset, "ConnectionReset", "connection reset"),
  (.hostUnreachable, "HostUnreachable", "host unreachable"),
  (.networkUnreachable, "NetworkUnreachable", "network unreachable"),
  (.connectionAborted, "ConnectionAborted", "connection aborted"),
  (.notConnected, "NotConnected", "not connected"),
  (.addrInUse, "AddrInUse", "address in use"),
  (.addrNotAvailable, "AddrNotAvailable", "address not available"),
  (.networkDown, "NetworkDown", "network down"),
  (.brokenPipe, "BrokenPipe", "broken pipe"),
  (.alreadyExists, "AlreadyExists", "entity already exists"),
  (.wouldBlock, "WouldBlock", "operation would block"),
  (.invalidInput, "InvalidInput", "invalid input parameter"),
  (.invalidData, "InvalidData", "invalid data"),
  (.timedOut, "TimedOut", "timed out"),
  (.writeZero, "WriteZero", "write zero"),
  (.interrupted, "Interrupted", "operation interrupted"),
  (.unsupported, "Unsupported", "unsupported"),
  (.unexpectedEof, "UnexpectedEof", "unexpected end of file"),
  (.outOfMemory, "OutOfMemory", "out of memory"),
  (.other, "Other", "other error"),
  (.uncategorized, "Uncategorized", "uncategorized error")]

/-- The name of a kind. -/
def name (k : ErrorKind) : String := ((table.lookup k).map (·.1)).getD ""

/-- The description of a kind. -/
def description (k : ErrorKind) : String := ((table.lookup k).map (·.2)).getD ""

/-- The kind of a name. -/
def ofName? (name : String) : Option ErrorKind :=
  (table.find? fun e => e.2.1 == name).map (·.1)

end ErrorKind

/-- An error of a socket call. -/
structure SocketError where
  kind : ErrorKind
  message : String
  /-- The number of the operating system's error. -/
  code : Option Nat
  deriving DecidableEq

namespace SocketError

/-- An error of a kind, in the words of the kind. -/
def ofKind (kind : ErrorKind) : SocketError := ⟨kind, kind.description, none⟩

/-- An error of a kind, in words of its own. -/
def custom (kind : ErrorKind) (message : String) : SocketError := ⟨kind, message, none⟩

/-- Whether the error only says that a wait ran out. -/
def isTimeout (e : SocketError) : Bool := e.kind = .wouldBlock || e.kind = .timedOut

/-- The text of an error. -/
def text (e : SocketError) : String :=
  match e.code with
  | none => e.message
  | some code => s!"{e.message} (os error {code})"

/-- An error with all its parts. One in the words of its kind is its kind alone. -/
def describe (e : SocketError) : String :=
  match e.code with
  | some code =>
    Text.record "Os"
      [("code", toString code), ("kind", e.kind.name), ("message", Text.quote e.message)]
  | none =>
    if e.message = e.kind.description then "Kind(" ++ e.kind.name ++ ")"
    else Text.record "Custom" [("kind", e.kind.name), ("error", Text.quote e.message)]

end SocketError
end Net
end Tagram
