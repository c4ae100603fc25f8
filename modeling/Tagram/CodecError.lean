/-
# What can be wrong with a message

Every way in which reading or writing a message fails, as a cause. The
wording stands in one place, `CodecError.message`.

Key definitions: `FrameFault`, `CodecError`, `CodecError.message`,
`CodecError.isTruncation`.
-/
import Tagram.Text.Quoted

namespace Tagram

/-- The largest payload of one UDP datagram over IPv4, in bytes. -/
def maxDatagram : Nat := 65507

/-- The bytes of a length field. -/
def lengthField : Nat := 8

/-- What is wrong with a frame whose bytes are all there. -/
inductive FrameFault where
  /-- The frame is too small to hold the length of its tag. -/
  | noTag (size : Nat)
  /-- The tag is longer than what is left of the frame. -/
  | tagOverrun (tagLength size : Nat)
  /-- A tag read off the wire has a byte above 127. -/
  | tagNotAscii
  /-- The decoder did not use the payload to its last byte. -/
  | payloadMismatch (tag : String) (used size : Nat)
  /-- A tag that is to be written has a character outside ASCII. -/
  | tagUnwritable (tag : String)
  /-- A cause that a message type of its own reports. -/
  | other (text : String)
  deriving DecidableEq

/-- The wording of a frame fault. -/
def FrameFault.message : FrameFault → String
  | .noTag size => s!"{size} byte frame has no tag"
  | .tagOverrun tagLength size => s!"tag length {tagLength} overruns {size} byte frame"
  | .tagNotAscii => "tag is not ASCII"
  | .payloadMismatch tag used size => s!"'{tag}' payload used {used} of {size} bytes"
  | .tagUnwritable tag => s!"tag '{tag}' is not ASCII"
  | .other text => text

/-- Why a message could not be read or written. -/
inductive CodecError where
  /-- Fewer bytes were left than a read asked for. -/
  | truncated (needed remaining : Nat)
  /-- No decoder is registered for the tag. -/
  | unknownTag (tag : String)
  | malformedFrame (fault : FrameFault)
  /-- The payload ended inside a field; `missing` bytes of the field are not there. -/
  | shortPayload (missing : Nat)
  /-- The payload writer refused the message. -/
  | unencodable (reason : String)
  /-- The buffer would outgrow one datagram. -/
  | tooLarge (size : Nat)
  deriving DecidableEq

namespace CodecError

/-- The wording of an error. -/
def message : CodecError → String
  | .truncated needed remaining =>
    s!"truncated input: needed {needed} bytes, {remaining} remaining"
  | .unknownTag tag => s!"unknown message type '{tag}'"
  | .malformedFrame fault => "malformed frame: " ++ fault.message
  | .shortPayload missing =>
    "malformed payload: UnexpectedEnd \x7b additional: " ++ toString missing ++ " \x7d"
  | .unencodable reason =>
    "failed to encode message: OtherString(" ++ Text.quote reason ++ ")"
  | .tooLarge size => s!"frame of {size} bytes exceeds the {maxDatagram} byte limit"

/-- Whether more bytes could have made the difference. -/
def isTruncation : CodecError → Bool
  | .truncated _ _ => true
  | _ => false

end CodecError
end Tagram
