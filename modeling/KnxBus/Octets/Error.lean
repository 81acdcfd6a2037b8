/-!
# Why a unit cannot be written or read

Writing and reading fail for few reasons, and the same ones at every layer.  They are kept as
causes; the sentence that is shown for each is made in one place.
-/

namespace KnxBus

/-- Why a unit could not be put on the wire. -/
inductive EncodeError where
  /-- The octets do not fit into the buffer. -/
  | bufferTooSmall
  /-- A field does not fit its bits, for instance a sequence number above fifteen. -/
  | valueOutOfRange
  /-- The payload is too long for its length field, or empty where at least one octet must be. -/
  | invalidLength
  /-- A reason given in words. -/
  | reason (words : String)
  deriving DecidableEq, Repr

/-- The sentence that names the cause. -/
def EncodeError.message : EncodeError → String
  | .bufferTooSmall => "buffer too small"
  | .valueOutOfRange => "field value out of range"
  | .invalidLength => "payload length not encodable"
  | .reason words => words

/-- Why received octets could not be understood. -/
inductive DecodeError where
  /-- The octets end before the unit does. -/
  | endOfInput
  /-- A length field disagrees with the octets that are there. -/
  | invalidLength
  /-- A field holds a value that it may not hold. -/
  | invalidValue
  /-- The unit is well formed, but of a type that is not handled. -/
  | unsupported
  /-- A reason given in words. -/
  | reason (words : String)
  deriving DecidableEq, Repr

/-- The sentence that names the cause. -/
def DecodeError.message : DecodeError → String
  | .endOfInput => "unexpected end of input"
  | .invalidLength => "length field inconsistent with frame size"
  | .invalidValue => "invalid value"
  | .unsupported => "frame type unsupported"
  | .reason words => words

end KnxBus
